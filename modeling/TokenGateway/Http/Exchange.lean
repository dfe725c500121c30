import TokenGateway.Http.Target
import TokenGateway.Rpc.Service

namespace TokenGateway.Http

structure Request where
  method : String
  target : String
  contentType? : Option String
  body : String
  deriving Repr, DecidableEq

structure Response where
  status : Nat
  body : String
  deriving Repr, DecidableEq

structure Exchange where
  response : Response
  calls : List Node.Call

def Exchange.plain (status : Nat) (body : String) : Exchange :=
  ⟨⟨status, body⟩, []⟩

def isServed (served path : String) : Bool :=
  path == served

def pathStatus? (served target : String) : Option Nat :=
  (path? target).map fun path => if isServed served path then 200 else 404

def acceptedContent : List String :=
  ["application/json", "application/json; charset=utf-8", "application/json;charset=utf-8"]

def isJsonContent (contentType? : Option String) : Bool :=
  contentType?.any fun contentType => acceptedContent.contains contentType.toLower

def isBodyGap (c : Char) : Bool :=
  c = ' ' || c = '\t' || c = '\n' || c = '\r' || c = '\x0c'

def firstOfBody? (body : String) : Option Char :=
  (body.toList.take 128).find? (!isBodyGap ·)

def errorResponse (id : Rpc.Id) (e : Rpc.ErrorObject) : Json :=
  (Rpc.Response.mk id (.error e)).toJson

def serveMessage (config : Config) (node : Node) (unreadable : Rpc.ErrorObject) (message : Json) :
    Option Json × List Node.Call :=
  match Rpc.Request.ofJson? message with
  | some request =>
    let (response, calls) := Rpc.serve config node request
    (some response.toJson, calls)
  | none =>
    if Rpc.Request.isNotification message then
      (none, [])
    else
      match Rpc.Request.readId? message with
      | some id => (some (errorResponse id .invalidRequest), [])
      | none => (some (errorResponse .null unreadable), [])

def serveBatch (config : Config) (node : Node) (messages : List Json) :
    List Json × List Node.Call :=
  let served := messages.map (serveMessage config node .invalidRequest)
  (served.filterMap (·.1), served.flatMap (·.2))

def serveSingle (config : Config) (node : Node) (body : String) : Exchange :=
  match Json.parse body with
  | none => .plain 200 (errorResponse .null .parseError).render
  | some message =>
    let (answer?, calls) := serveMessage config node .parseError message
    ⟨⟨200, (answer?.map Json.render).getD ""⟩, calls⟩

def serveArray (config : Config) (node : Node) (body : String) : Exchange :=
  match Json.parse body with
  | some (.array []) => .plain 200 (errorResponse .null .invalidRequest).render
  | some (.array messages) =>
    let (answers, calls) := serveBatch config node messages
    ⟨⟨200, if answers.isEmpty then "" else (Json.array answers).render⟩, calls⟩
  | _ => .plain 200 (errorResponse .null .parseError).render

def serveBody (config : Config) (node : Node) (body : String) : Exchange :=
  match firstOfBody? body with
  | some '\x7b' => serveSingle config node body
  | some '[' => serveArray config node body
  | _ => .plain 400 (errorResponse .null .parseError).render

def exchange (config : Config) (node : Node) (connections maxConnections : Nat)
    (request : Request) : Exchange :=
  -- The path comes first, then the number of connections, the method and the kind of content.
  if !(path? request.target).any (isServed Identity.rpcPath) then
    .plain 404 ""
  else if maxConnections ≤ connections then
    .plain 429 "Too many connections. Please try again later."
  else if request.method ≠ "POST" then
    .plain 405 "Used HTTP Method is not allowed. POST is required\n"
  else if !isJsonContent request.contentType? then
    .plain 415
      "Supplied content type is not allowed. Content-Type: application/json is required\n"
  else
    serveBody config node request.body

section Exchange

variable (config : Config) (node : Node) (body : String)

theorem status_serveSingle : (serveSingle config node body).response.status = 200 := by
  unfold serveSingle
  split <;> rfl

theorem status_serveArray : (serveArray config node body).response.status = 200 := by
  unfold serveArray
  split <;> rfl

theorem serveBody_status_or_calls
    : (serveBody config node body).response.status = 200
        ∨ (serveBody config node body).calls = [] := by
  unfold serveBody
  split
  . exact .inl (status_serveSingle config node body)
  . exact .inl (status_serveArray config node body)
  . exact .inr rfl

theorem exchange_status_or_calls (connections maxConnections : Nat) (request : Request)
    : (exchange config node connections maxConnections request).response.status = 200
        ∨ (exchange config node connections maxConnections request).calls = [] := by
  unfold exchange
  split
  . exact .inr rfl
  split
  . exact .inr rfl
  split
  . exact .inr rfl
  split
  . exact .inr rfl
  exact serveBody_status_or_calls config node request.body

end Exchange

end TokenGateway.Http
