import TokenGateway.Http.Exchange
import TokenGateway.Node.Basic

namespace TokenGateway.Node.Client

inductive Delivery
  | unreachable
  | closed
  | silence
  | response (response : Http.Response)
  deriving Repr, DecidableEq

def Delivery.isReceived : Delivery → Bool
  | .unreachable => false
  | _ => true

abbrev Network := Http.Request → Delivery

def Network.isolated : Network :=
  fun _ => .unreachable

def callParams (call : Call) : List Json :=
  [.object [("data", .string call.data), ("to", .string call.to.plain)], .string "latest"]

def callMessage (id : Nat) (call : Call) : Json :=
  .object
    [("jsonrpc", .string "2.0"), ("id", .ofNat id), ("method", .string "eth_call"),
     ("params", .array (callParams call))]

def request (url : Url) (id : Nat) (call : Call) : Http.Request :=
  ⟨"POST", url.target, some "application/json", (callMessage id call).render⟩

/--
Read a response: its id, and either a result or an error object, but not both. The version may be
missing, but it may not be another one.
-/
def readResponse? : Json → Option Rpc.Response
  | .object fields => do
    let version? ← (Json.only? ["jsonrpc"] fields).toOption
    if version?.any fun version => !(version matches .string "2.0") then
      none
    let id ← Rpc.Request.readId? (.object fields)
    let result? ← (Json.only? ["result"] fields).toOption
    let error? ← (Json.only? ["error"] fields).toOption
    match result?, error? with
    | some result, none => return ⟨id, .ok result⟩
    | none, some error => return ⟨id, .error (← Rpc.ErrorObject.ofJson? error)⟩
    | _, _ => none
  | _ => none

def readOutcome (id : Nat) (body : Json) : Outcome :=
  match readResponse? body with
  | none => .error (.transport "unreadable response")
  -- An error object counts whatever the id; a result counts only under the right one.
  | some ⟨_, .error object⟩ => .error (.rpc object)
  | some ⟨answered, .ok result⟩ =>
    match result with
    | .string text =>
      if answered = .number id then .ok text else .error (.transport "response to another request")
    | _ => .error (.transport "result that is no text")

def outcome (id : Nat) (deadline : Duration) : Delivery → Outcome
  | .unreachable => .error (.transport "no connection")
  | .closed => .error (.transport "connection closed")
  | .silence => .error (.timeout deadline)
  | .response r =>
    if 200 ≤ r.status ∧ r.status < 300 then
      match Json.parse r.body with
      | some body => readOutcome id body
      | none => .error (.transport "response that is no JSON")
    else
      .error (.transport ("status " ++ toString r.status))

def send (network : Network) (url : Url) (deadline : Duration) (call : Call) :
    Outcome × Option Http.Request :=
  let r := request url 0 call
  let delivery := network r
  (outcome 0 deadline delivery, if delivery.isReceived then some r else none)

end TokenGateway.Node.Client
