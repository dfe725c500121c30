import TokenGateway.Calldata
import TokenGateway.Proofs.Abi.Tuple
import TokenGateway.Proofs.Registry

namespace TokenGateway.Calldata

variable {c : Calldata} {method : Method} {e : CallError}

theorem ofHex_eq_ok_iff {text : String} : ofHex text = .ok c ↔ Hex.decode text = .ok c.bytes := by
  unfold ofHex
  cases c
  cases Hex.decode text with
  | error e => simp
  | ok bytes => simp

theorem selector_eq_ok_iff {selector : Selector}
    : c.selector = .ok selector ↔ c.bytes.take 4 = selector.toBytes := by
  rw [← FixedBytes.ofBytes?_eq_some_iff]
  unfold Calldata.selector selectorLength
  cases FixedBytes.ofBytes? 4 (c.bytes.take 4) with
  | none => simp
  | some selector => simp

theorem selector_eq_error_iff
    : c.selector = .error e ↔ c.bytes.length < 4 ∧ e = .shortCalldata (Hex.encode c.bytes) := by
  have hlength : (c.bytes.take 4).length = 4 ↔ 4 ≤ c.bytes.length := by
    rw [List.length_take]
    omega
  unfold Calldata.selector selectorLength FixedBytes.ofBytes?
  by_cases hshort : c.bytes.length < 4
  . rw [dif_neg (by omega)]
    simp [hshort, eq_comm]
  . rw [dif_pos (by omega)]
    simp [hshort]

theorem length_of_selector {selector : Selector} (h : c.selector = .ok selector)
    : 4 ≤ c.bytes.length := by
  have hlength := congrArg List.length (selector_eq_ok_iff.mp h)
  rw [selector.length_toBytes, List.length_take] at hlength
  omega

theorem method_eq_ok_iff
    : c.method = .ok method
        ↔
      ∃ selector, c.selector = .ok selector ∧ Registry.standard.lookup selector = some method := by
  unfold Calldata.method
  rw [Except.bind_eq_ok_iff]
  constructor
  . intro h
    rcases h with ⟨selector, hselector, hmethod⟩
    refine ⟨selector, hselector, ?_⟩
    split at hmethod
    . next hlookup =>
      cases hmethod
      exact hlookup
    . cases hmethod
  . intro h
    rcases h with ⟨selector, hselector, hlookup⟩
    refine ⟨selector, hselector, ?_⟩
    rw [hlookup]
    rfl

theorem method_eq_ok_iff_take
    : c.method = .ok method ↔ c.bytes.take 4 = method.selector.toBytes := by
  simp only [method_eq_ok_iff, selector_eq_ok_iff, Registry.lookup_standard_eq_some_iff]
  constructor
  . intro h
    rcases h with ⟨selector, htake, rfl⟩
    exact htake
  . intro h
    exact ⟨_, h, rfl⟩

theorem method_selector_append (method : Method) (bytes : Bytes)
    : (Calldata.mk (method.selector.toBytes ++ bytes)).method = .ok method := by
  rw [method_eq_ok_iff_take]
  apply List.take_left'
  exact method.selector.length_toBytes

theorem method_eq_error_iff
    : c.method = .error e
        ↔
      c.selector = .error e
        ∨ ∃ selector, c.selector = .ok selector
            ∧ Registry.standard.lookup selector = none
            ∧ e = .unknownMethod selector := by
  unfold Calldata.method
  cases c.selector with
  | error e' => simp
  | ok selector =>
    rw [Except.ok_bind]
    cases hlookup : Registry.standard.lookup selector with
    | none => simp [hlookup, eq_comm]
    | some method => simp [hlookup]

theorem length_of_method (h : c.method = .ok method) : 4 ≤ c.bytes.length := by
  rcases method_eq_ok_iff.mp h with ⟨selector, hselector, -⟩
  exact length_of_selector hselector

theorem length_arguments (h : c.method = .ok method)
    : c.bytes.length = 4 + c.arguments.length := by
  have := length_of_method h
  unfold Calldata.arguments selectorLength
  rw [List.length_drop]
  omega

theorem params_eq_ok_iff (hmethod : c.method = .ok method) {binding : Abi.Binding}
    : c.params = .ok binding ↔ Abi.unpack method.params c.arguments = .ok binding := by
  unfold Calldata.params
  rw [hmethod, Except.ok_bind]
  cases Abi.unpack method.params c.arguments with
  | error e => simp
  | ok binding => simp

theorem params_eq_error_iff (hmethod : c.method = .ok method)
    : c.params = .error e
        ↔
      ∃ cause, Abi.unpack method.params c.arguments = .error cause
        ∧ e = .malformedParameters method cause := by
  unfold Calldata.params
  rw [hmethod, Except.ok_bind]
  cases Abi.unpack method.params c.arguments with
  | error cause => simp [eq_comm]
  | ok binding => simp

section Param

variable {param : Abi.Param}

theorem param_eq_error_iff (hmethod : c.method = .ok method) (hparam : param ∈ method.params)
    : c.param param.name = .error e ↔ c.params = .error e := by
  have hany : method.params.any (·.name == param.name) = true := by
    rw [List.any_eq_true]
    exact ⟨param, hparam, by simp⟩
  unfold Calldata.param
  rw [hmethod, Except.ok_bind, if_pos hany]
  cases hparams : c.params with
  | error e' => simp
  -- Every name of the schema is bound, so looking one up cannot fail.
  | ok binding =>
    have hunpack := (params_eq_ok_iff hmethod).mp hparams
    rcases (Abi.unpack_eq_ok_iff.mp hunpack).2.2.exists_get? hparam with ⟨value, hvalue⟩
    rw [Except.ok_bind, hvalue]
    simp

theorem exists_param_iff (hmethod : c.method = .ok method) (hparam : param ∈ method.params)
    : (∃ value, c.param param.name = .ok value) ↔ ∃ binding, c.params = .ok binding := by
  apply Except.exists_ok_iff_of_error_iff
  intro e
  exact param_eq_error_iff hmethod hparam

end Param

theorem exists_params_iff_of_uint256 (hmethod : c.method = .ok method)
    (hkinds : ∀ param ∈ method.params, param.kind = .uint256)
    : (∃ binding, c.params = .ok binding) ↔ c.bytes.length = 4 + 32 * method.params.length := by
  simp only [params_eq_ok_iff hmethod]
  rw [Abi.exists_unpack_iff_of_uint256 hkinds, length_arguments hmethod]
  omega

end TokenGateway.Calldata
