import TokenGateway.Config
import TokenGateway.Identity
import TokenGateway.SocketAddress

namespace TokenGateway.CommandLine

inductive Opt
  | chainId
  | contract
  | nodeUrl
  | nodeContract
  | nodeTimeout
  | listenAddress
  | maxConnections
  | logJson
  deriving Repr, DecidableEq, Inhabited

namespace Opt

/--
All options, in the order in which they are looked up in the environment and missed.
-/
def all : List Opt :=
  [.chainId, .contract, .nodeUrl, .nodeContract, .nodeTimeout, .listenAddress, .maxConnections,
   .logJson]

def longName : Opt → String
  | .chainId => "chain-id"
  | .contract => "contract-address"
  | .nodeUrl => "upstream-url"
  | .nodeContract => "upstream-contract"
  | .nodeTimeout => "upstream-timeout-ms"
  | .listenAddress => "listen-addr"
  | .maxConnections => "rpc-max-connections"
  | .logJson => "log-json"

def envName : Opt → String
  | .chainId => "CHAIN_ID"
  | .contract => "CONTRACT_ADDRESS"
  | .nodeUrl => "UPSTREAM_URL"
  | .nodeContract => "UPSTREAM_CONTRACT"
  | .nodeTimeout => "UPSTREAM_TIMEOUT_MS"
  | .listenAddress => "LISTEN_ADDR"
  | .maxConnections => "RPC_MAX_CONNECTIONS"
  | .logJson => "LOG_JSON"

def takesValue : Opt → Bool
  | .logJson => false
  | _ => true

def isRequired : Opt → Bool
  | .chainId => true
  | .contract => true
  | .nodeUrl => true
  | _ => false

def display (o : Opt) : String :=
  "--" ++ o.longName ++ if o.takesValue then " <" ++ o.envName ++ ">" else ""

end Opt

inductive Error
  | badValue (option : Opt) (value message : String)
  | invalidValue (option : Opt) (value : String)
  | needlessValue (flag value : String)
  | repeated (option : Opt)
  | unknown (argument : String)
  | missing (options : List Opt)
  | help
  | version
  deriving Repr, DecidableEq, Inhabited

def versionLine : String :=
  Identity.programName ++ " " ++ Identity.version ++ "\n"

def usage : String :=
  "Usage: " ++ Identity.programName ++ " [OPTIONS]\n\nOptions:\n"
    ++ String.join (Opt.all.map fun o => "  " ++ o.display ++ " [env: " ++ o.envName ++ "=]\n")
    ++ "  -h, --help\n  -V, --version\n"

def Error.message : Error → String
  | .badValue option value message =>
    "error: invalid value \x27" ++ value ++ "\x27 for \x27" ++ option.display ++ "\x27: " ++ message
      ++ "\n"
  | .invalidValue option "" =>
    "error: a value is required for \x27" ++ option.display ++ "\x27 but none was supplied\n"
  | .invalidValue option value =>
    "error: invalid value \x27" ++ value ++ "\x27 for \x27" ++ option.display ++ "\x27\n"
  | .needlessValue flag value =>
    "error: unexpected value \x27" ++ value ++ "\x27 for \x27" ++ flag
      ++ "\x27 found; no more were expected\n"
  | .repeated option =>
    "error: the argument \x27" ++ option.display ++ "\x27 cannot be used multiple times\n"
  | .unknown argument => "error: unexpected argument \x27" ++ argument ++ "\x27 found\n"
  | .missing options =>
    "error: the following required arguments were not provided:\n"
      ++ String.join (options.map fun o => "  " ++ o.display ++ "\n")
  | .help => usage
  | .version => versionLine

def Error.isRequest : Error → Bool
  | .help => true
  | .version => true
  | _ => false

structure Given where
  chainId? : Option Nat
  contract? : Option Address
  nodeUrl? : Option Url
  nodeContract? : Option Address
  nodeTimeout? : Option Nat
  listenAddress? : Option SocketAddress
  maxConnections? : Option Nat
  logJson? : Option Bool
  deriving DecidableEq

namespace Given

def none : Given :=
  ⟨.none, .none, .none, .none, .none, .none, .none, .none⟩

def has (g : Given) : Opt → Bool
  | .chainId => g.chainId?.isSome
  | .contract => g.contract?.isSome
  | .nodeUrl => g.nodeUrl?.isSome
  | .nodeContract => g.nodeContract?.isSome
  | .nodeTimeout => g.nodeTimeout?.isSome
  | .listenAddress => g.listenAddress?.isSome
  | .maxConnections => g.maxConnections?.isSome
  | .logJson => g.logJson?.isSome

def readMaxConnections (text : String) : Except String Nat :=
  match Text.readSigned 10 (Nat.pow 2 63) text.toList with
  | .error e => .error e.message
  | .ok n =>
    if 0 ≤ n ∧ n < Nat.pow 2 32 then
      .ok n.toNat
    else
      .error (toString n ++ " is not in 0..=4294967295")

def readBool? : String → Option Bool
  | "true" => some true
  | "false" => some false
  | _ => .none

def store (g : Given) (option : Opt) (text : String) : Except Error Given :=
  let bad (message : String) : Error := .badValue option text message
  match option with
  | .chainId =>
    ((ChainId.ofText text).mapError fun e => bad e.message).map fun n =>
      { g with chainId? := some n }
  | .contract =>
    ((Address.ofText text).mapError fun e => bad e.message).map fun a =>
      { g with contract? := some a }
  | .nodeUrl =>
    ((Url.ofText text).mapError fun e => bad e.message).map fun u =>
      { g with nodeUrl? := some u }
  | .nodeContract =>
    ((Address.ofText text).mapError fun e => bad e.message).map fun a =>
      { g with nodeContract? := some a }
  | .nodeTimeout =>
    ((Text.readUnsigned 10 (Nat.pow 2 64) text.toList).mapError fun e => bad e.message).map fun n =>
      { g with nodeTimeout? := some n }
  | .listenAddress =>
    match SocketAddress.ofText? text with
    | some a => .ok { g with listenAddress? := some a }
    | .none => .error (bad "invalid socket address syntax")
  | .maxConnections =>
    ((readMaxConnections text).mapError bad).map fun n => { g with maxConnections? := some n }
  | .logJson =>
    match readBool? text with
    | some b => .ok { g with logJson? := some b }
    | .none => .error (.invalidValue option text)

end Given

structure Settings where
  chainId : Nat
  contract : Address
  nodeUrl : Url
  nodeContract? : Option Address
  nodeTimeoutMs : Nat
  listenAddress : SocketAddress
  maxConnections : Nat
  logJson : Bool
  deriving DecidableEq

namespace Settings

def defaultListenAddress : SocketAddress :=
  (SocketAddress.ofText? Identity.defaultListenAddress).getD (.v4 0 0)

def ofGiven (g : Given) : Except Error Settings :=
  match g.chainId?, g.contract?, g.nodeUrl? with
  | some chainId, some contract, some nodeUrl =>
    .ok
      { chainId := chainId
        contract := contract
        nodeUrl := nodeUrl
        nodeContract? := g.nodeContract?
        nodeTimeoutMs := g.nodeTimeout?.getD Identity.defaultTimeoutMs
        listenAddress := g.listenAddress?.getD defaultListenAddress
        maxConnections := g.maxConnections?.getD Identity.defaultMaxConnections
        logJson := g.logJson?.getD false }
  | _, _, _ => .error (.missing (Opt.all.filter fun o => o.isRequired && !g.has o))

def config (s : Settings) : Except Config.Error Config :=
  Config.make s.chainId s.contract s.nodeUrl s.nodeContract? (.ofMillis s.nodeTimeoutMs)

end Settings

end TokenGateway.CommandLine
