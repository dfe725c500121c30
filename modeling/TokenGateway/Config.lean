import TokenGateway.Address
import TokenGateway.Duration
import TokenGateway.Text.Blank
import TokenGateway.Url.Reader

namespace TokenGateway

namespace ChainId

/--
Why a text is not a chain id: it is no number below 2 to the 64. The text is kept without the blanks
around it.
-/
structure Error where
  text : String
  deriving Repr, DecidableEq, Inhabited

def Error.message (e : Error) : String :=
  "invalid chain id " ++ Text.quote e.text
    ++ ": expected a decimal or 0x-prefixed hex integer"

def readNumeral : List Char → Except Text.NumeralError Nat
  | '0' :: 'x' :: digits => Text.readUnsigned 16 (Nat.pow 2 64) digits
  | '0' :: 'X' :: digits => Text.readUnsigned 16 (Nat.pow 2 64) digits
  | digits => Text.readUnsigned 10 (Nat.pow 2 64) digits

def ofText (text : String) : Except Error Nat :=
  let trimmed := Text.trim text
  match readNumeral trimmed.toList with
  | .ok n => .ok n
  | .error _ => .error ⟨trimmed⟩

end ChainId

structure Config where
  chainId : Nat
  contract : Address
  nodeUrl : Url
  nodeContract : Address
  timeout : Duration
  deriving DecidableEq

namespace Config

inductive Error
  | unsupportedScheme (url : Url)
  | zeroTimeout
  deriving Repr, DecidableEq

def Error.message : Error → String
  | .unsupportedScheme url => "upstream URL " ++ url.text ++ " must use http or https"
  | .zeroTimeout => "upstream timeout must be greater than zero"

/--
Check a configuration: the node is reached over HTTP, and calls to it have some time. Without a
contract of its own the node is asked about the contract that is answered for.
-/
def make (chainId : Nat) (contract : Address) (nodeUrl : Url) (nodeContract? : Option Address)
    (timeout : Duration) : Except Error Config :=
  if nodeUrl.scheme ≠ "http" ∧ nodeUrl.scheme ≠ "https" then
    .error (.unsupportedScheme nodeUrl)
  else if timeout.nanoseconds = 0 then
    .error .zeroTimeout
  else
    .ok ⟨chainId, contract, nodeUrl, nodeContract?.getD contract, timeout⟩

end Config

end TokenGateway
