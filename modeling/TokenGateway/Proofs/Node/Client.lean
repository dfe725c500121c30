import TokenGateway.Node.Client
import TokenGateway.Proofs.Dispatch.Deadline
import TokenGateway.Proofs.Dispatch.Refusal
import TokenGateway.Proofs.Json.RoundTrip
import TokenGateway.Proofs.Rpc.Encoding

namespace TokenGateway

namespace Rpc

namespace ErrorObject

/--
Whether two error objects tell the same; data that is null is no data.
-/
structure Agrees (e e' : ErrorObject) : Prop where
  code : e.code = e'.code
  message : e.message = e'.message
  data : e.data?.getD .null = e'.data?.getD .null

def HasWireCode (e : ErrorObject) : Prop :=
  -(2 ^ 31 : Nat) ≤ e.code ∧ e.code < (2 ^ 31 : Nat)

def HasReadableData (e : ErrorObject) : Prop :=
  ∀ data, e.data? = some data → data.IsReadable

inductive IsOwn : ErrorObject → Prop
  | plain {code : Int} (message : String) (hcode : code = -32602 ∨ code = -32603)
    : IsOwn ⟨code, message, none⟩
  | texts {code : Int} (message : String) (hcode : code = -32602 ∨ code = -32603)
      (texts : List (String × String))
    : IsOwn ⟨code, message, some (.object (texts.map fun text => (text.1, .string text.2)))⟩

variable {e : ErrorObject}

theorem hasWireCode_of_isOwn (h : e.IsOwn) : e.HasWireCode := by
  unfold HasWireCode
  cases h with
  | plain message hcode => constructor <;> dsimp only <;> omega
  | texts message hcode texts => constructor <;> dsimp only <;> omega

theorem hasReadableData_of_isOwn (h : e.IsOwn) : e.HasReadableData := by
  intro data hdata
  cases h with
  | plain message hcode => cases hdata
  | texts message hcode texts =>
    cases hdata
    apply Json.IsReadable.object
    intro field hfield
    rcases List.mem_map.mp hfield with ⟨text, -, rfl⟩
    apply Json.IsReadable.string

theorem ofJson?_toJson (h : e.HasWireCode)
    : ofJson? e.toJson
        =
      some ⟨e.code, e.message, e.data?.filter fun data => !(data matches .null)⟩ := by
  rcases e with ⟨code, message, data?⟩
  have hcode : (Json.ofInt code).intWithin? (Nat.pow 2 31) = some code :=
    Json.intWithin?_ofInt h.1 h.2
  cases data? with
  | none =>
    change ((Json.ofInt code).intWithin? (Nat.pow 2 31) >>= _) = _
    rw [hcode]
    rfl
  | some data =>
    change ((Json.ofInt code).intWithin? (Nat.pow 2 31) >>= _) = _
    rw [hcode]
    rfl

theorem exists_ofJson?_toJson (h : e.HasWireCode)
    : ∃ e', ofJson? e.toJson = some e' ∧ e'.Agrees e := by
  refine ⟨_, ofJson?_toJson h, rfl, rfl, ?_⟩
  cases e.data? with
  | none => rfl
  -- Null is the only data that is dropped.
  | some data => cases data <;> rfl

theorem ofJson?_toJson_of_isOwn (h : e.IsOwn) : ofJson? e.toJson = some e := by
  rw [ofJson?_toJson (hasWireCode_of_isOwn h)]
  cases h <;> rfl

theorem isReadable_toJson (h : e.HasReadableData) : e.toJson.IsReadable := by
  rcases e with ⟨code, message, data?⟩
  have hcode : (Json.ofInt code).IsReadable := .number (Json.isNumber_ofInt code)
  apply Json.IsReadable.object
  cases data? with
  | none => simp [hcode, Json.IsReadable.string]
  | some data => simp [hcode, Json.IsReadable.string, h data rfl]

end ErrorObject

theorem Id.ofJson?_toJson {n : Nat} (h : n < 2 ^ 64)
    : Id.ofJson? (Id.number n).toJson = some (.number n) := by
  have hread : (Json.ofNat n).natBelow? (Nat.pow 2 64) = some n := Json.natBelow?_ofNat h
  change ((Json.ofNat n).natBelow? (Nat.pow 2 64)).map Id.number = _
  rw [hread]
  rfl

section Response

variable {n : Nat}

theorem Id.isReadable_toJson (n : Nat) : (Id.number n).toJson.IsReadable :=
  .number (Json.isNumber_ofNat n)

theorem Response.isReadable_result {result : Json} (h : result.IsReadable)
    : (Response.mk (.number n) (.ok result)).toJson.IsReadable := by
  apply Json.IsReadable.object
  simp [Id.isReadable_toJson, Json.IsReadable.string, h]

theorem Response.isReadable_error {e : ErrorObject} (h : e.HasReadableData)
    : (Response.mk (.number n) (.error e)).toJson.IsReadable := by
  have hobject := ErrorObject.isReadable_toJson h
  apply Json.IsReadable.object
  simp [Id.isReadable_toJson, Json.IsReadable.string, hobject]

end Response

end Rpc

def Node.FailsWith (node : Node) (object : Rpc.ErrorObject) : Prop :=
  ∃ call delay, node call = .after delay (.error (.rpc object))

theorem CallError.toObject_cases (e : CallError)
    : (∃ method calldata, e = .nodeFailure method calldata (.rpc e.toObject))
        ∨ e.toObject.IsOwn := by
  cases e with
  | malformedHex cause => exact .inr (.plain _ (.inl rfl))
  | shortCalldata calldata => exact .inr (.plain _ (.inl rfl))
  | unknownMethod selector => exact .inr (.texts _ (.inl rfl) [("selector", _)])
  | malformedParameters method cause => exact .inr (.plain _ (.inl rfl))
  | missingParameter method name => exact .inr (.plain _ (.inl rfl))
  | unknownContract target expected =>
    exact .inr (.texts _ (.inl rfl) [("to", _), ("expected", _)])
  | nodeFailure method calldata cause =>
    cases cause with
    | rpc object => exact .inl ⟨method, calldata, rfl⟩
    | transport detail =>
      exact .inr (.texts _ (.inr rfl) [("upstream", _), ("method", _), ("calldata", _)])
    | timeout deadline =>
      exact .inr (.texts _ (.inr rfl) [("upstream", _), ("method", _), ("calldata", _)])
  | malformedReply method reply fault => exact .inr (.texts _ (.inr rfl) [("upstream", _)])

namespace Config

variable {config : Config} {node : Node} {target : Address} {data : String}

theorem failsWith_of_dispatch {method : Method} {calldata : String} {object : Rpc.ErrorObject}
    (h : (config.dispatch node target data).result
      = .error (.nodeFailure method calldata (.rpc object)))
    : node.FailsWith object := by
  rcases refused_or_settles h with hrefused | ⟨method', calldata', -, hsettle⟩
  . exact absurd trivial (not_isFromNode_of_refused hrefused)
  . rcases settle_eq_error_iff.mp hsettle with ⟨cause, hwithin, heq⟩ | ⟨reply, fault, -, -, heq⟩
    . cases heq
      rcases Node.Arrival.inTime_of_within hwithin (by simp) with ⟨delay, harrival, -⟩
      exact ⟨_, delay, harrival⟩
    . cases heq

theorem toObject_of_dispatch {p : Rpc.ErrorObject → Prop} (hown : ∀ object, object.IsOwn → p object)
    (hnode : ∀ object, node.FailsWith object → p object) {e : CallError}
    (h : (config.dispatch node target data).result = .error e)
    : p e.toObject := by
  rcases e.toObject_cases with ⟨method, calldata, he⟩ | he
  . rw [he] at h
    exact hnode _ (failsWith_of_dispatch h)
  . exact hown _ he

end Config

namespace Node.Client

variable {id : Nat} {call : Call}

theorem callParams?_callParams (call : Call)
    : ∃ tag?,
        Rpc.callParams? (.positional (callParams call))
          =
        some (⟨call.to, none, some call.data⟩, tag?) := by
  have htransaction : Rpc.EncodesTransaction call.to none (some call.data)
      (.object [("data", .string call.data), ("to", .string call.to.plain)]) := by
    apply Rpc.EncodesTransaction.object (Hex.spells_encode _) .absent (.text call.data)
    exact ⟨[], .swap _ _ _, by simp⟩
  apply Rpc.callParams?_of_encodes
  exact .positional htransaction (.text "latest") (by simp)

theorem isReadable_callMessage (id : Nat) (call : Call) : (callMessage id call).IsReadable := by
  have hid : (Json.ofNat id).IsReadable := .number (Json.isNumber_ofNat id)
  have htransaction : (Json.object
      [("data", .string call.data), ("to", .string call.to.plain)]).IsReadable := by
    apply Json.IsReadable.object
    simp [Json.IsReadable.string]
  have hparams : (Json.array (callParams call)).IsReadable := by
    apply Json.IsReadable.array
    simp [callParams, htransaction, Json.IsReadable.string]
  apply Json.IsReadable.object
  simp [hid, hparams, Json.IsReadable.string]

theorem ofJson?_callMessage (hid : id < 2 ^ 64)
    : Rpc.Request.ofJson? (callMessage id call)
        =
      some ⟨.number id, "eth_call", .positional (callParams call)⟩ := by
  change (Rpc.Id.ofJson? (Rpc.Id.number id).toJson >>= _) = _
  rw [Rpc.Id.ofJson?_toJson hid]
  rfl

theorem firstOfBody?_render_object (fields : List (String × Json))
    : Http.firstOfBody? (Json.object fields).render = some '\x7b' := by
  unfold Http.firstOfBody?
  rw [Json.toList_render_object]
  rfl

theorem exchange_request (config : Config) (node : Node) {url : Url} (id : Nat) (call : Call)
    (hpath : (Http.path? url.target).any (Http.isServed Identity.rpcPath))
    {connections maxConnections : Nat} (hfree : connections < maxConnections)
    : Http.exchange config node connections maxConnections (request url id call)
        =
      Http.serveBody config node (request url id call).body := by
  have hcontent : Http.isJsonContent (some "application/json") := by decide +kernel
  unfold Http.exchange request
  dsimp only
  rw [hpath, hcontent, if_neg (by decide), if_neg (Nat.not_le_of_lt hfree),
    if_neg (not_not_intro rfl), if_neg (by decide)]

theorem serveBody_callMessage (config : Config) (node : Node) (hid : id < 2 ^ 64) (call : Call)
    : let served := Rpc.serve config node ⟨.number id, "eth_call", .positional (callParams call)⟩
      Http.serveBody config node (callMessage id call).render
        =
      ⟨⟨200, served.1.toJson.render⟩, served.2⟩ := by
  have hfirst : Http.firstOfBody? (callMessage id call).render = some '\x7b' := by
    apply firstOfBody?_render_object
  have hparse := Json.parse_render (isReadable_callMessage id call)
  unfold Http.serveBody Http.serveSingle Http.serveMessage
  simp only [hfirst, hparse, ofJson?_callMessage hid]
  rfl

theorem serve_callParams (config : Config) (node : Node)
    : Rpc.serve config node ⟨.number id, "eth_call", .positional (callParams call)⟩
        =
      (⟨.number id, (Rpc.callAnswer config node ⟨call.to, none, some call.data⟩).payload⟩,
        (config.dispatch node call.to call.data).calls) := by
  rcases callParams?_callParams call with ⟨tag?, hparams⟩
  exact Rpc.serve_of_callParams rfl hparams

theorem readOutcome_ok (hid : id < 2 ^ 64) (text : String)
    : readOutcome id (Rpc.Response.mk (.number id) (.ok (.string text))).toJson = .ok text := by
  have hread : readResponse? (Rpc.Response.mk (.number id) (.ok (.string text))).toJson
      = some ⟨.number id, .ok (.string text)⟩ := by
    change (Rpc.Id.ofJson? (Rpc.Id.number id).toJson >>= _) = _
    rw [Rpc.Id.ofJson?_toJson hid]
    rfl
  unfold readOutcome
  rw [hread]
  exact if_pos rfl

theorem readOutcome_error (hid : id < 2 ^ 64) {e : Rpc.ErrorObject} (h : e.HasWireCode)
    : ∃ e', readOutcome id (Rpc.Response.mk (.number id) (.error e)).toJson = .error (.rpc e')
        ∧ e'.Agrees e := by
  rcases Rpc.ErrorObject.exists_ofJson?_toJson h with ⟨e', hobject, hagrees⟩
  refine ⟨e', ?_, hagrees⟩
  have hread : readResponse? (Rpc.Response.mk (.number id) (.error e)).toJson
      = some ⟨.number id, .error e'⟩ := by
    change (Rpc.Id.ofJson? (Rpc.Id.number id).toJson >>= _) = _
    rw [Rpc.Id.ofJson?_toJson hid]
    change (Rpc.ErrorObject.ofJson? e.toJson >>= _) = _
    rw [hobject]
    rfl
  unfold readOutcome
  rw [hread]

theorem outcome_of_isReadable {body : Json} (h : body.IsReadable) (id : Nat) (deadline : Duration)
    : outcome id deadline (.response ⟨200, body.render⟩) = readOutcome id body := by
  unfold outcome
  dsimp only
  rw [if_pos (by decide), Json.parse_render h]

theorem outcome_of_gateway (config : Config) (node : Node)
    (hcodes : ∀ object, node.FailsWith object → object.HasWireCode) (url : Url) (id : Nat)
    (hid : id < 2 ^ 64) (call : Call)
    : let run := config.dispatch node call.to call.data
      let served := Rpc.serve config node ⟨.number id, "eth_call", .positional (callParams call)⟩
      let body := served.1.toJson
      (∃ received tag?,
          Rpc.callParams? (.positional (callParams call)) = some (received, tag?)
            ∧ received.to = call.to
            ∧ received.calldata = call.data)
        ∧ (Http.serveBody config node (request url id call).body
            = ⟨⟨200, body.render⟩, run.calls⟩)
        ∧ (∀ out, run.result = .ok out →
            ∃ text, readOutcome id body = .ok text ∧ Hex.decode text = .ok out)
        ∧ (∀ e, run.result = .error e →
            ∃ object, readOutcome id body = .error (.rpc object) ∧ object.Agrees e.toObject)
        ∧ ((∀ object, node.FailsWith object → object.HasReadableData) →
            ∀ deadline,
              outcome id deadline (.response ⟨200, body.render⟩) = readOutcome id body) := by
  have hpayload := Rpc.payload_callAnswer config node ⟨call.to, none, some call.data⟩
  have hserve := serveBody_callMessage config node hid call
  rcases hpayload with ⟨hok, herror⟩
  rw [serve_callParams] at hserve ⊢
  refine ⟨?_, hserve, ?_, ?_, ?_⟩
  . rcases callParams?_callParams call with ⟨tag?, hparams⟩
    exact ⟨_, tag?, hparams, rfl, rfl⟩
  . intro out h
    rw [hok out h]
    exact ⟨_, readOutcome_ok hid _, Hex.decode_encode out⟩
  . intro e h
    rw [herror e h]
    apply readOutcome_error hid
    exact Config.toObject_of_dispatch (fun _ => Rpc.ErrorObject.hasWireCode_of_isOwn) hcodes h
  . intro hdata deadline
    apply outcome_of_isReadable
    cases hrun : (config.dispatch node call.to call.data).result with
    | ok out =>
      rw [hok out hrun]
      apply Rpc.Response.isReadable_result (.string _)
    | error e =>
      rw [herror e hrun]
      apply Rpc.Response.isReadable_error
      exact Config.toObject_of_dispatch
        (fun _ => Rpc.ErrorObject.hasReadableData_of_isOwn) hdata hrun

def nullDataNode : Node :=
  fun _ => .after (.ofMillis 5) (.error (.rpc ⟨3, "execution reverted", some .null⟩))

theorem failsWith_nullDataNode {object : Rpc.ErrorObject} (h : nullDataNode.FailsWith object)
    : object = ⟨3, "execution reverted", some .null⟩ := by
  rcases h with ⟨call, delay, h⟩
  cases h
  rfl

theorem outcome_of_nullDataNode
    : (∀ object, nullDataNode.FailsWith object → object.HasWireCode)
        ∧ 7 < 2 ^ 64
        ∧ (let call : Call := ⟨Config.sample.contract, Hex.encode Config.ownerCalldata⟩
          let exchange := Http.serveBody Config.sample nullDataNode
            (request Config.sample.nodeUrl 7 call).body
          ∃ object, object.Agrees ⟨3, "execution reverted", none⟩
            ∧ ∀ deadline, outcome 7 deadline (.response exchange.response) = .error (.rpc object))
    := by
  have hcodes : ∀ object, nullDataNode.FailsWith object → object.HasWireCode := by
    intro object h
    rw [failsWith_nullDataNode h]
    exact ⟨by decide, by decide⟩
  have hdata : ∀ object, nullDataNode.FailsWith object → object.HasReadableData := by
    intro object h data hdata
    rw [failsWith_nullDataNode h] at hdata
    cases hdata
    exact .null
  have hresult : (Config.sample.dispatch nullDataNode Config.sample.contract
      (Hex.encode Config.ownerCalldata)).result = _ :=
    congrArg Run.result (Config.dispatch_of_ask (Config.plan_ownerCalldata Config.sample))
  have hid : 7 < 2 ^ 64 := by decide
  refine ⟨hcodes, hid, ?_⟩
  rcases outcome_of_gateway Config.sample nullDataNode hcodes Config.sample.nodeUrl 7 hid
    ⟨Config.sample.contract, Hex.encode Config.ownerCalldata⟩ with
    ⟨-, hserve, -, herror, hread⟩
  rcases herror _ hresult with ⟨object, hobject, hagrees⟩
  refine ⟨object, ⟨hagrees.code, hagrees.message, hagrees.data⟩, ?_⟩
  intro deadline
  rw [hserve, hread hdata, hobject]

end Node.Client

end TokenGateway
