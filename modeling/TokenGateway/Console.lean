import TokenGateway.Config
import TokenGateway.Identity
import TokenGateway.SocketAddress

namespace TokenGateway.Console

inductive Style
  | heading
  | value
  | secondary
  | success
  | warning
  | strongWarning
  deriving Repr, DecidableEq, Inhabited

def Style.codes : Style → String
  | .heading => "1;34"
  | .value => "36"
  | .secondary => "2"
  | .success => "1;32"
  | .warning => "33"
  | .strongWarning => "1;33"

def sequence (codes : String) : List Char :=
  '\x1b' :: '[' :: (codes.toList ++ ['m'])

def reset : List Char := sequence "0"

/--
Take up a style again behind each reset inside a text.
-/
def restyle (codes : String) : List Char → List Char
  | '\x1b' :: '[' :: '0' :: 'm' :: rest => reset ++ sequence codes ++ restyle codes rest
  | c :: rest => c :: restyle codes rest
  | [] => []

def paint (color : Bool) (style : Style) (text : String) : String :=
  if color then
    String.ofList (sequence style.codes ++ restyle style.codes text.toList ++ reset)
  else
    text

def lines (ls : List String) : String :=
  String.join (ls.map (· ++ "\n"))

def banner (color : Bool) (config : Config) : String :=
  lines
    ["",
     paint color .heading "=== ERC-721 Gateway ===",
     "  Chain ID:     " ++ paint color .value (toString config.chainId),
     "  Contract:     " ++ paint color .value config.contract.checksummed]

def entry (color : Bool) (name value : String) : String :=
  "  " ++ paint color .secondary name ++ " " ++ paint color .value value

def nodeBlock (color : Bool) (config : Config) : String :=
  lines
    (["", paint color .heading "Upstream:", entry color "Endpoint:   " config.nodeUrl.text]
      ++ (if config.nodeContract = config.contract then []
          else [entry color "Contract:   " config.nodeContract.checksummed])
      ++ [entry color "Timeout:    " config.timeout.brief])

def running (color : Bool) (address : SocketAddress) : String :=
  lines
    ["",
     paint color .success "Gateway running. Press Ctrl+C to stop.",
     "  HTTP RPC: " ++ paint color .value ("http://" ++ address.text ++ Identity.rpcPath)]

def shutdown (color : Bool) (reason : String) : String :=
  lines
    ["",
     "  " ++ paint color .strongWarning "SHUTDOWN" ++ " " ++ paint color .warning reason]

end TokenGateway.Console
