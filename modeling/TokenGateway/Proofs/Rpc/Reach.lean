import TokenGateway.Proofs.Dispatch.Plan
import TokenGateway.Rpc.Service

namespace TokenGateway

namespace Config

variable {config : Config} {target : Address} {data : String}

theorem asksNode_iff_selector {bytes : Bytes}
    : AsksNode config target data bytes
        ↔
      target = config.contract
        ∧ Hex.decode data = .ok bytes
        ∧ bytes.length = 36
        ∧ ∃ method : Method, method.IsForwarded ∧ bytes.take 4 = method.selector.toBytes := by
  constructor
  . intro h
    rcases h.forwarded with ⟨selector, method, hselector, hlookup, hforwarded⟩
    rw [Registry.lookup_standard_eq_some_iff] at hlookup
    exact ⟨h.contract, h.decodes, h.length, method, hforwarded, by rw [hselector, hlookup]⟩
  . intro h
    rcases h with ⟨hcontract, hdecode, hlength, method, hforwarded, hselector⟩
    refine ⟨hcontract, hdecode, hlength, method.selector, method, hselector, ?_, hforwarded⟩
    rw [Registry.lookup_standard_eq_some_iff]

end Config

namespace Rpc

structure ReachesNode (config : Config) (request : Request) (bytes : Bytes) : Prop where
  method : request.method = "eth_call"
  call : ∃ call tag?, callParams? request.params = some (call, tag?)
    ∧ call.to = config.contract
    ∧ Hex.decode call.calldata = .ok bytes
  length : bytes.length = 36
  selector : ∃ method : Method, method.IsForwarded ∧ bytes.take 4 = method.selector.toBytes

variable {config : Config} {request : Request}

theorem reachesNode_iff {bytes : Bytes}
    : ReachesNode config request bytes
        ↔
      request.method = "eth_call"
        ∧ ∃ call tag?, callParams? request.params = some (call, tag?)
            ∧ config.AsksNode call.to call.calldata bytes := by
  simp only [Config.asksNode_iff_selector]
  constructor
  . intro h
    rcases h.call with ⟨call, tag?, hparams, hcontract, hdecode⟩
    exact ⟨h.method, call, tag?, hparams, hcontract, hdecode, h.length, h.selector⟩
  . intro h
    rcases h with ⟨hmethod, call, tag?, hparams, hcontract, hdecode, hlength, hselector⟩
    exact ⟨hmethod, ⟨call, tag?, hparams, hcontract, hdecode⟩, hlength, hselector⟩

def IsPlain (answer : Node → Answer) : Prop :=
  ∃ payload, ∀ node, answer node = .plain payload

theorem isPlain_withParams {params? : Option α} {answer : Node → α → Answer}
    (h : ∀ params, params? = some params → IsPlain fun node => answer node params)
    : IsPlain fun node => withParams params? (answer node) := by
  cases params? with
  | none => exact ⟨.error .invalidParams, fun _ => rfl⟩
  | some params => exact h params rfl

theorem isPlain_plain (payload : Except ErrorObject Json) : IsPlain fun _ => .plain payload :=
  ⟨payload, fun _ => rfl⟩

theorem isPlain_blockAnswer (tag : String) : IsPlain fun _ => blockAnswer tag := by
  unfold blockAnswer
  cases resolveBlockTag tag with
  | none => apply isPlain_plain
  | some number => apply isPlain_plain

theorem isPlain_callAnswer {call : CallRequest}
    (h : ¬∃ bytes, config.AsksNode call.to call.calldata bytes)
    : IsPlain fun node => callAnswer config node call := by
  rcases Config.exists_dispatch_of_not_asksNode h with ⟨result, hdispatch⟩
  unfold callAnswer
  simp only [hdispatch]
  cases result with
  | error e => apply isPlain_plain
  | ok output => apply isPlain_plain

theorem isPlain_answer (h : ¬∃ bytes, ReachesNode config request bytes)
    : IsPlain fun node => answer config node request.method request.params := by
  have hcall : request.method = "eth_call" → ∀ call tag?,
      callParams? request.params = some (call, tag?) →
        ¬∃ bytes, config.AsksNode call.to call.calldata bytes := by
    intro hmethod call tag? hparams hasks
    rcases hasks with ⟨bytes, hasks⟩
    exact h ⟨bytes, reachesNode_iff.mpr ⟨hmethod, call, tag?, hparams, hasks⟩⟩
  unfold answer
  split
  . apply isPlain_plain
  . apply isPlain_plain
  . apply isPlain_withParams
    rintro ⟨tag, full?⟩ -
    apply isPlain_blockAnswer
  . next hmethod =>
    apply isPlain_withParams
    rintro ⟨call, tag?⟩ hparams
    apply isPlain_callAnswer
    exact hcall hmethod call tag? hparams
  . apply isPlain_withParams
    intro _ _
    apply isPlain_plain
  . apply isPlain_withParams
    intro _ _
    apply isPlain_plain
  . apply isPlain_plain
  . apply isPlain_plain
  . apply isPlain_plain

theorem calls_callAnswer (config : Config) (node : Node) (call : CallRequest)
    : (callAnswer config node call).calls = (config.dispatch node call.to call.calldata).calls := by
  unfold callAnswer
  dsimp only
  split
  . rfl
  . rfl

theorem serve_of_callParams {node : Node} {call : CallRequest} {tag? : Option String}
    (hmethod : request.method = "eth_call")
    (hparams : callParams? request.params = some (call, tag?))
    : serve config node request
        =
      (⟨request.id, (callAnswer config node call).payload⟩,
        (config.dispatch node call.to call.calldata).calls) := by
  unfold serve
  rw [hmethod, ← calls_callAnswer]
  unfold answer
  rw [hparams]
  rfl

theorem calls_of_reachesNode {bytes : Bytes} (h : ReachesNode config request bytes) (node : Node)
    : (serve config node request).2 = [⟨config.nodeContract, Hex.encode bytes⟩] := by
  rcases reachesNode_iff.mp h with ⟨hmethod, call, tag?, hparams, hasks⟩
  rcases Config.asksNode_iff.mp hasks with ⟨method, hplan⟩
  rw [serve_of_callParams hmethod hparams, Config.dispatch_of_ask hplan]
  rfl

theorem serveText_eq_of_not_reachesNode (config : Config) (text : String)
    : ((∀ request bytes, Request.ofText? text = some request → ¬ReachesNode config request bytes) →
          (∀ node node', serveText config node text = serveText config node' text)
            ∧ ∀ node response calls,
                serveText config node text = some (response, calls) → calls = [])
        ∧ ∀ request bytes, Request.ofText? text = some request → ReachesNode config request bytes →
            ∀ node, ∃ response, serveText config node text
              = some (response, [⟨config.nodeContract, Hex.encode bytes⟩]) := by
  unfold serveText
  constructor
  . intro h
    cases hrequest : Request.ofText? text with
    | none => simp
    | some request =>
      have hreach : ¬∃ bytes, ReachesNode config request bytes := by
        intro hreach
        rcases hreach with ⟨bytes, hreach⟩
        exact h request bytes hrequest hreach
      rcases isPlain_answer hreach with ⟨payload, hanswer⟩
      have hserve : ∀ node, serve config node request = (⟨request.id, payload⟩, []) := by
        intro node
        unfold serve
        simp only [hanswer]
        rfl
      simp [hserve]
  . intro request bytes hrequest hreach node
    rw [hrequest, Option.map_some, ← calls_of_reachesNode hreach node]
    exact ⟨_, rfl⟩

def shortCall : String :=
  "\x7b\"jsonrpc\":\"2.0\",\"id\":1,\"method\":\"eth_call\",\"params\":[\x7b\"to\":"
    ++ "\"0x0000000000000000000000000000000000000000\",\"data\":\"0x6352211e\"\x7d]\x7d"

set_option maxRecDepth 4000 in
theorem ofText?_shortCall
    : Request.ofText? shortCall
        =
      some ⟨.number 1, "eth_call",
        .positional [.object
          [("to", .string "0x0000000000000000000000000000000000000000"),
           ("data", .string "0x6352211e")]]⟩ := by
  rfl

theorem serveText_shortCall
    : (∀ request bytes, Request.ofText? shortCall = some request →
          ¬ReachesNode Config.sample request bytes)
        ∧ serveText Config.sample (fun _ => .never) shortCall
            = serveText Config.sample (fun _ => .after (.ofMillis 5) (.ok "0x")) shortCall := by
  have hreach : ∀ request bytes, Request.ofText? shortCall = some request →
      ¬ReachesNode Config.sample request bytes := by
    intro request bytes hrequest hreach
    rw [ofText?_shortCall] at hrequest
    cases hrequest
    rcases hreach.call with ⟨call, tag?, hparams, -, hdecode⟩
    have hcall : call.calldata = "0x6352211e" := by
      cases hparams
      rfl
    rw [hcall] at hdecode
    have hbytes : bytes = [0x63, 0x52, 0x21, 0x1e] := by
      cases hdecode
      rfl
    have := hreach.length
    rw [hbytes] at this
    cases this
  exact ⟨hreach, ((serveText_eq_of_not_reachesNode Config.sample shortCall).1 hreach).1 _ _⟩

end Rpc

end TokenGateway
