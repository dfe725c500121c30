import TokenGateway.Json.Basic

namespace TokenGateway.Rpc

structure ErrorObject where
  code : Int
  message : String
  data? : Option Json
  deriving Repr, BEq, Inhabited

namespace ErrorObject

def parseErrorCode : Int := -32700

def invalidRequestCode : Int := -32600

def methodNotFoundCode : Int := -32601

def invalidParamsCode : Int := -32602

def internalErrorCode : Int := -32603

def parseError : ErrorObject := ⟨parseErrorCode, "Parse error", none⟩

def invalidRequest : ErrorObject := ⟨invalidRequestCode, "Invalid request", none⟩

def methodNotFound : ErrorObject := ⟨methodNotFoundCode, "Method not found", none⟩

def invalidParams : ErrorObject := ⟨invalidParamsCode, "Invalid params", none⟩

def toJson (e : ErrorObject) : Json :=
  .object ([("code", .ofInt e.code), ("message", .string e.message)] ++
    match e.data? with
    | some data => [("data", data)]
    | none => [])

def ofJson? : Json → Option ErrorObject
  | .object fields => do
    if fields.any fun field => !(["code", "message", "data"].contains field.1) then
      none
    let code ← (← (Json.only? ["code"] fields).toOption)
    let code ← code.intWithin? (Nat.pow 2 31)
    let message ← (← (Json.only? ["message"] fields).toOption)
    let message ← message.string?
    let data? ← (Json.only? ["data"] fields).toOption
    -- Data that is null is no data.
    let data? := data?.filter fun data => !(data matches .null)
    return ⟨code, message, data?⟩
  | _ => none

end ErrorObject

end TokenGateway.Rpc
