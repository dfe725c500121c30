import TokenGateway.Dispatch
import TokenGateway.Rpc.Block
import TokenGateway.Rpc.CallRequest
import TokenGateway.Rpc.Request

/-!
Parameters may be given in order or by name. Those beyond what a method knows are skipped; methods
without parameters do not look at them at all.
-/

namespace TokenGateway.Rpc

structure Answer where
  payload : Except ErrorObject Json
  calls : List Node.Call

def Answer.plain (payload : Except ErrorObject Json) : Answer :=
  ⟨payload, []⟩

abbrev ParamName := List String

/--
The values given to the parameters of a method, in the order of `names`. A parameter left out is
`none`; one given twice, or parameters that are no list, are a fault.
-/
def bindParams (names : List ParamName) : Params → Option (List (Option Json))
  | .absent => some (names.map fun _ => none)
  | .positional items => some (names.mapIdx fun i _ => items[i]?)
  | .named fields => names.mapM fun name => (Json.only? name fields).toOption
  | .other => none

def optionalBool? : Option Json → Option (Option Bool)
  | none => some none
  | some .null => some none
  | some (.bool b) => some (some b)
  | some _ => none

def blockParams? (params : Params) : Option (String × Option Bool) := do
  match ← bindParams [["tag"], ["full_transactions", "fullTransactions"]] params with
  | [some tag, full?] => return (← tag.string?, ← optionalBool? full?)
  | _ => none

def accountParams? (params : Params) : Option (Address × Option String) := do
  match ← bindParams [["address"], ["tag"]] params with
  | [some address, tag?] => return (← Address.ofJson? address, ← optionalText? tag?)
  | _ => none

def callParams? (params : Params) : Option (CallRequest × Option String) := do
  match ← bindParams [["request"], ["tag"]] params with
  | [some request, tag?] => return (← CallRequest.ofJson? request, ← optionalText? tag?)
  | _ => none

def withParams (params? : Option α) (answer : α → Answer) : Answer :=
  match params? with
  | some params => answer params
  | none => .plain (.error .invalidParams)

def blockAnswer (tag : String) : Answer :=
  match resolveBlockTag tag with
  | some number => .plain (.ok (emptyBlock number))
  | none =>
    .plain (.error ⟨ErrorObject.invalidParamsCode, "invalid block tag " ++ Text.quote tag, none⟩)

def callAnswer (config : Config) (node : Node) (request : CallRequest) : Answer :=
  let run := config.dispatch node request.to request.calldata
  match run.result with
  | .ok output => ⟨.ok (.string (Hex.encode output)), run.calls⟩
  | .error e => ⟨.error e.toObject, run.calls⟩

def answer (config : Config) (node : Node) (method : String) (params : Params) : Answer :=
  match method with
  | "eth_chainId" => .plain (.ok (.quantity config.chainId))
  | "eth_blockNumber" => .plain (.ok (.quantity 0))
  | "eth_getBlockByNumber" => withParams (blockParams? params) fun (tag, _) => blockAnswer tag
  | "eth_call" =>
    withParams (callParams? params) fun (request, _) => callAnswer config node request
  | "eth_getBalance" => withParams (accountParams? params) fun _ => .plain (.ok (.quantity 0))
  | "eth_getCode" =>
    withParams (accountParams? params) fun _ => .plain (.ok (.string (Hex.encode [])))
  | "net_version" => .plain (.ok (.string (toString config.chainId)))
  | "web3_clientVersion" => .plain (.ok (.string Identity.clientVersion))
  | _ => .plain (.error .methodNotFound)

def serve (config : Config) (node : Node) (request : Request) : Response × List Node.Call :=
  let answer := answer config node request.method request.params
  (⟨request.id, answer.payload⟩, answer.calls)

def serveText (config : Config) (node : Node) (text : String) :
    Option (Response × List Node.Call) :=
  (Request.ofText? text).map (serve config node)

end TokenGateway.Rpc
