import TokenGateway.Dispatch
import TokenGateway.Proofs.Calldata
import TokenGateway.Proofs.Hex

namespace TokenGateway

def Method.IsForwarded (method : Method) : Prop :=
  method = .ownerOf ∨ method = .tokenURI ∨ method = .uri

namespace Plan

theorem map_ask_eq_ok_iff {α : Type} {x : Except CallError α} {calldata sent : Calldata}
    {method asked : Method}
    : (x.map fun _ => Plan.ask method calldata) = .ok (.ask asked sent)
        ↔
      asked = method ∧ sent = calldata ∧ ∃ a, x = .ok a := by
  rw [Except.map_eq_ok_iff]
  constructor
  . intro h
    rcases h with ⟨a, ha, heq⟩
    cases heq
    exact ⟨rfl, rfl, a, ha⟩
  . intro h
    rcases h with ⟨rfl, rfl, a, ha⟩
    exact ⟨a, ha, rfl⟩

variable {calldata sent : Calldata} {method asked : Method}

theorem exists_params_iff_of_isForwarded (hmethod : calldata.method = .ok method)
    (h : method.IsForwarded)
    : (∃ binding, calldata.params = .ok binding) ↔ calldata.bytes.length = 36 := by
  have hkinds : ∀ param ∈ method.params, param.kind = .uint256 := by
    rcases h with rfl | rfl | rfl <;> simp [Method.params]
  have hsize : method.params.length = 1 := by
    rcases h with rfl | rfl | rfl <;> rfl
  rw [Calldata.exists_params_iff_of_uint256 hmethod hkinds, hsize]

theorem ofMethod_eq_ask_iff (hmethod : calldata.method = .ok method)
    : ofMethod calldata method = .ok (.ask asked sent)
        ↔
      asked = method ∧ sent = calldata ∧ method.IsForwarded ∧ calldata.bytes.length = 36 := by
  have hparams := exists_params_iff_of_isForwarded hmethod
  unfold Method.IsForwarded at *
  cases method with
  | ownerOf =>
    have hparam := Calldata.exists_param_iff hmethod (List.mem_singleton.mpr rfl)
    rw [ofMethod, map_ask_eq_ok_iff, hparam, hparams (.inl rfl)]
    simp
  | tokenURI =>
    rw [ofMethod, map_ask_eq_ok_iff, hparams (.inr (.inl rfl))]
    simp
  | uri =>
    rw [ofMethod, map_ask_eq_ok_iff, hparams (.inr (.inr rfl))]
    simp
  -- All other methods are answered by the gateway itself.
  | balanceOf => simp [ofMethod, Except.map_eq_ok_iff]
  | supportsInterface => simp [ofMethod, Except.map_eq_ok_iff]
  | _ => simp [ofMethod]

end Plan

namespace Config

variable {config : Config} {node : Node} {target : Address} {data : String}

theorem plan_eq_ok_iff {plan : Plan}
    : config.plan target data = .ok plan
        ↔
      target = config.contract
        ∧ ∃ calldata method,
            Hex.decode data = .ok calldata.bytes
              ∧ calldata.method = .ok method
              ∧ Plan.ofMethod calldata method = .ok plan := by
  unfold Config.plan
  by_cases hcontract : target = config.contract
  . rw [if_neg (not_not_intro hcontract)]
    simp only [hcontract, true_and, Except.bind_eq_ok_iff, Calldata.ofHex_eq_ok_iff]
    constructor
    . intro h
      rcases h with ⟨calldata, hdecode, method, hmethod, hplan⟩
      exact ⟨calldata, method, hdecode, hmethod, hplan⟩
    . intro h
      rcases h with ⟨calldata, method, hdecode, hmethod, hplan⟩
      exact ⟨calldata, hdecode, method, hmethod, hplan⟩
  . rw [if_pos hcontract]
    simp [hcontract]

theorem plan_eq_ask_iff {method : Method} {calldata : Calldata}
    : config.plan target data = .ok (.ask method calldata)
        ↔
      target = config.contract
        ∧ Hex.decode data = .ok calldata.bytes
        ∧ calldata.method = .ok method
        ∧ method.IsForwarded
        ∧ calldata.bytes.length = 36 := by
  rw [plan_eq_ok_iff]
  constructor
  . intro h
    rcases h with ⟨hcontract, calldata', method', hdecode, hmethod, hplan⟩
    rcases (Plan.ofMethod_eq_ask_iff hmethod).mp hplan with ⟨rfl, rfl, hforwarded, hlength⟩
    exact ⟨hcontract, hdecode, hmethod, hforwarded, hlength⟩
  . intro h
    rcases h with ⟨hcontract, hdecode, hmethod, hforwarded, hlength⟩
    refine ⟨hcontract, calldata, method, hdecode, hmethod, ?_⟩
    exact (Plan.ofMethod_eq_ask_iff hmethod).mpr ⟨rfl, rfl, hforwarded, hlength⟩

theorem dispatch_of_ask {method : Method} {calldata : Calldata}
    (h : config.plan target data = .ok (.ask method calldata))
    : config.dispatch node target data
        =
      ⟨settle method (Hex.encode calldata.bytes)
          ((node (config.nodeCall calldata)).within config.timeout),
        [config.nodeCall calldata]⟩ := by
  unfold dispatch
  rw [h]
  rfl

theorem dispatch_of_answer {v : Abi.Value} (h : config.plan target data = .ok (.answer v))
    : config.dispatch node target data = ⟨.ok (Abi.pack [v]), []⟩ := by
  unfold dispatch
  rw [h]

theorem dispatch_of_error {e : CallError} (h : config.plan target data = .error e)
    : config.dispatch node target data = ⟨.error e, []⟩ := by
  unfold dispatch
  rw [h]

theorem calls_of_not_ask
    (h : ∀ method calldata, config.plan target data ≠ .ok (.ask method calldata))
    : (config.dispatch node target data).calls = [] := by
  unfold dispatch
  split
  . rfl
  . rfl
  . next hplan => exact absurd hplan (h _ _)

structure AsksNode (config : Config) (target : Address) (data : String) (bytes : Bytes) : Prop where
  contract : target = config.contract
  decodes : Hex.decode data = .ok bytes
  length : bytes.length = 36
  forwarded : ∃ (selector : Selector) (method : Method),
    bytes.take 4 = selector.toBytes
      ∧ Registry.standard.lookup selector = some method
      ∧ method.IsForwarded

theorem asksNode_iff {bytes : Bytes}
    : AsksNode config target data bytes
        ↔
      ∃ method, config.plan target data = .ok (.ask method ⟨bytes⟩) := by
  simp only [plan_eq_ask_iff, Calldata.method_eq_ok_iff, Calldata.selector_eq_ok_iff]
  constructor
  . intro h
    rcases h.forwarded with ⟨selector, method, hselector, hlookup, hforwarded⟩
    exact ⟨method, h.contract, h.decodes, ⟨selector, hselector, hlookup⟩, hforwarded, h.length⟩
  . intro h
    rcases h with ⟨method, hcontract, hdecode, ⟨selector, hselector, hlookup⟩, hforwarded, hlength⟩
    exact ⟨hcontract, hdecode, hlength, selector, method, hselector, hlookup, hforwarded⟩

theorem exists_dispatch_of_not_asksNode (h : ¬∃ bytes, AsksNode config target data bytes)
    : ∃ result, ∀ node, config.dispatch node target data = ⟨result, []⟩ := by
  cases hplan : config.plan target data with
  | error e => exact ⟨.error e, fun _ => dispatch_of_error hplan⟩
  | ok plan =>
    cases plan with
    | answer value => exact ⟨.ok (Abi.pack [value]), fun _ => dispatch_of_answer hplan⟩
    | ask method calldata =>
      exact absurd ⟨calldata.bytes, asksNode_iff.mpr ⟨method, hplan⟩⟩ h

theorem dispatch_cases (config : Config) (target : Address) {bytes : Bytes}
    (hdecode : Hex.decode data = .ok bytes)
    : (∃ result, ∀ node, config.dispatch node target data = ⟨result, []⟩)
        ∨ ∃ method, ∀ node,
            config.dispatch node target data
              =
            ⟨settle method (Hex.encode bytes)
                ((node (config.nodeCall ⟨bytes⟩)).within config.timeout),
              [config.nodeCall ⟨bytes⟩]⟩ := by
  by_cases hasks : ∃ bytes, AsksNode config target data bytes
  . rcases hasks with ⟨bytes', hasks⟩
    have hbytes := hasks.decodes
    rw [hdecode, Except.ok.injEq] at hbytes
    subst hbytes
    rcases asksNode_iff.mp hasks with ⟨method, hplan⟩
    exact .inr ⟨method, fun node => dispatch_of_ask hplan⟩
  . exact .inl (exists_dispatch_of_not_asksNode hasks)

theorem plan_selector_append {method : Method} {arguments : Bytes} (h : method.IsForwarded)
    (hlength : arguments.length = 32)
    : config.plan config.contract (Hex.encode (method.selector.toBytes ++ arguments))
        =
      .ok (.ask method ⟨method.selector.toBytes ++ arguments⟩) := by
  have hselector := method.selector.length_toBytes
  rw [plan_eq_ask_iff]
  refine ⟨rfl, Hex.decode_encode _, ?_, h, ?_⟩
  . apply Calldata.method_selector_append
  . rw [List.length_append]
    omega

theorem calls_of_dispatch (config : Config) (node : Node) (target : Address) (data : String)
    : (∀ bytes, AsksNode config target data bytes →
          (config.dispatch node target data).calls = [⟨config.nodeContract, Hex.encode bytes⟩]
            ∧ Hex.decode (Hex.encode bytes) = .ok bytes)
        ∧ ((¬∃ bytes, AsksNode config target data bytes) →
            (config.dispatch node target data).calls = []) := by
  constructor
  . intro bytes h
    rcases asksNode_iff.mp h with ⟨method, hplan⟩
    refine ⟨?_, Hex.decode_encode bytes⟩
    rw [dispatch_of_ask hplan]
    rfl
  . intro h
    apply calls_of_not_ask
    intro method calldata hplan
    apply h
    exact ⟨calldata.bytes, asksNode_iff.mpr ⟨method, hplan⟩⟩

def sample : Config where
  chainId := 1
  contract := .zero 20
  nodeUrl := ⟨"http", some ⟨"", "", "localhost", some 8545⟩, "/", none, none⟩
  nodeContract := ⟨List.replicate 20 0x11, rfl⟩
  timeout := .ofMillis 1000

def ownerCalldata : Bytes :=
  Method.ownerOf.selector.toBytes ++ (Bytes.zeros 31 ++ [1])

theorem plan_ownerCalldata (config : Config)
    : config.plan config.contract (Hex.encode ownerCalldata)
        =
      .ok (.ask .ownerOf ⟨ownerCalldata⟩) := by
  apply plan_selector_append (.inl rfl)
  decide

theorem calls_of_ownerCalldata
    : (sample.dispatch (fun _ => .never) sample.contract (Hex.encode ownerCalldata)).calls
        =
      [⟨sample.nodeContract, Hex.encode ownerCalldata⟩] := by
  have hcalls := calls_of_dispatch sample (fun _ => .never) sample.contract
    (Hex.encode ownerCalldata)
  have hasks := asksNode_iff.mpr ⟨_, plan_ownerCalldata sample⟩
  exact (hcalls.1 ownerCalldata hasks).1

end Config
end TokenGateway
