import TokenGateway.Json.Printer
import TokenGateway.Json.Reader
import TokenGateway.Rpc.ErrorObject

/-!
Members of a request that the protocol does not know are skipped; a known one that is repeated makes
the request invalid.
-/

namespace TokenGateway.Rpc

inductive Id
  | null
  | number (n : Nat)
  | string (s : String)
  deriving Repr, DecidableEq, Inhabited

namespace Id

def ofJson? : Json → Option Id
  | .null => some .null
  | .string s => some (.string s)
  | json => (json.natBelow? (Nat.pow 2 64)).map .number

def toJson : Id → Json
  | .null => .null
  | .number n => .ofNat n
  | .string s => .string s

end Id

inductive Params
  | absent
  | positional (items : List Json)
  | named (fields : List (String × Json))
  | other
  deriving Repr, BEq, Inhabited

def Params.ofJson? : Option Json → Params
  | none => .absent
  | some .null => .absent
  | some (.array items) => .positional items
  | some (.object fields) => .named fields
  | some _ => .other

structure Request where
  id : Id
  method : String
  params : Params
  deriving Repr, BEq, Inhabited

namespace Request

def hasVersion (fields : List (String × Json)) : Bool :=
  match Json.only? ["jsonrpc"] fields with
  | .ok (some (.string "2.0")) => true
  | _ => false

def readCall? (fields : List (String × Json)) : Option (String × Params) := do
  if !hasVersion fields then
    none
  let method ← (← (Json.only? ["method"] fields).toOption)
  let method ← method.string?
  let params? ← (Json.only? ["params"] fields).toOption
  return (method, Params.ofJson? params?)

def readId? : Json → Option Id
  | .object fields => do
    let id ← (← (Json.only? ["id"] fields).toOption)
    Id.ofJson? id
  | _ => none

def ofJson? : Json → Option Request
  | .object fields => do
    let (method, params) ← readCall? fields
    let id ← readId? (.object fields)
    return ⟨id, method, params⟩
  | _ => none

def ofText? (text : String) : Option Request := do
  let json ← Json.parse text
  ofJson? json

def isNotification : Json → Bool
  | .object fields => (readCall? fields).isSome
  | _ => false

end Request

structure Response where
  id : Id
  payload : Except ErrorObject Json

def Response.toJson (r : Response) : Json :=
  .object [("jsonrpc", .string "2.0"), ("id", r.id.toJson),
    match r.payload with
    | .ok result => ("result", result)
    | .error e => ("error", e.toJson)]

end TokenGateway.Rpc
