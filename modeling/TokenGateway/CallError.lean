import TokenGateway.Abi.Unpack
import TokenGateway.Method
import TokenGateway.Node.Basic

/-!
What is wrong with a contract call itself is an error of its parameters; what goes wrong behind the
gateway is an internal error, except that the error object of the node is passed on as it is.
-/

namespace TokenGateway

inductive ReplyFault
  | hex (cause : Hex.Error)
  | abi (cause : Abi.Error)
  | dirtyAddress
  | wrongLength (length : Nat)
  deriving Repr, DecidableEq, Inhabited

def ReplyFault.message : ReplyFault → String
  | .hex cause => cause.message
  | .abi cause => cause.message
  | .dirtyAddress => "address slot has non-zero upper bytes"
  | .wrongLength length => "expected 20 or 32 bytes, got " ++ toString length

inductive CallError
  | malformedHex (cause : Hex.Error)
  | shortCalldata (calldata : String)
  | unknownMethod (selector : Selector)
  | malformedParameters (method : Method) (cause : Abi.Error)
  | missingParameter (method : Method) (name : String)
  | unknownContract (target expected : Address)
  | nodeFailure (method : Method) (calldata : String) (cause : Node.Error)
  | malformedReply (method : Method) (reply : String) (fault : ReplyFault)

namespace CallError

def message : CallError → String
  | .malformedHex cause => cause.message
  | .shortCalldata calldata =>
    "calldata " ++ calldata ++ " is shorter than a 4-byte selector"
  | .unknownMethod selector => "unknown method selector " ++ Hex.encode selector.toBytes
  | .malformedParameters method cause =>
    "malformed parameters for " ++ method.functionName ++ ": " ++ cause.message
  | .missingParameter method name =>
    method.functionName ++ " has no parameter named `" ++ name ++ "`"
  | .unknownContract target expected =>
    "unknown contract " ++ target.checksummed ++ ": this gateway serves " ++ expected.checksummed
  | .nodeFailure method calldata cause =>
    "upstream call for " ++ method.functionName ++ " with calldata " ++ calldata ++ " failed: "
      ++ cause.message
  | .malformedReply method reply fault =>
    "malformed upstream reply to " ++ method.functionName ++ ": " ++ fault.message ++ " (reply "
      ++ reply ++ ")"

def code : CallError → Int
  | .malformedHex _ => Rpc.ErrorObject.invalidParamsCode
  | .shortCalldata _ => Rpc.ErrorObject.invalidParamsCode
  | .unknownMethod _ => Rpc.ErrorObject.invalidParamsCode
  | .malformedParameters _ _ => Rpc.ErrorObject.invalidParamsCode
  | .missingParameter _ _ => Rpc.ErrorObject.invalidParamsCode
  | .unknownContract _ _ => Rpc.ErrorObject.invalidParamsCode
  | .nodeFailure _ _ (.rpc object) => object.code
  | .nodeFailure _ _ _ => Rpc.ErrorObject.internalErrorCode
  | .malformedReply _ _ _ => Rpc.ErrorObject.internalErrorCode

def data? : CallError → Option Json
  | .unknownMethod selector =>
    some (.object [("selector", .string (Hex.encode selector.toBytes))])
  | .unknownContract target expected =>
    some (.object [("to", .string target.plain), ("expected", .string expected.plain)])
  | .nodeFailure method calldata cause =>
    some (.object
      [("upstream", .string cause.message), ("method", .string method.functionName),
       ("calldata", .string calldata)])
  | .malformedReply _ reply _ => some (.object [("upstream", .string reply)])
  | _ => none

def toObject : CallError → Rpc.ErrorObject
  | .nodeFailure _ _ (.rpc object) => object
  | e@(.unknownMethod _) => ⟨Rpc.ErrorObject.invalidParamsCode, e.message, e.data?⟩
  | e@(.unknownContract _ _) => ⟨Rpc.ErrorObject.invalidParamsCode, e.message, e.data?⟩
  | e@(.nodeFailure _ _ _) => ⟨Rpc.ErrorObject.internalErrorCode, e.message, e.data?⟩
  | e@(.malformedReply _ _ _) => ⟨Rpc.ErrorObject.internalErrorCode, e.message, e.data?⟩
  | e => ⟨e.code, e.message, none⟩

end CallError

end TokenGateway
