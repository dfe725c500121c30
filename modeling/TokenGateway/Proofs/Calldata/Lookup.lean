import TokenGateway.Proofs.Calldata

namespace TokenGateway.Calldata

variable {c : Calldata} {method : Method} {name : String} {binding : Abi.Binding} {v : Abi.Value}
  {e : CallError}

theorem any_name_iff
    : method.params.any (·.name == name) = true ↔ name ∈ method.params.map (·.name) := by
  simp [List.any_eq_true]

theorem param_of_method_error (hmethod : c.method = .error e) : c.param name = .error e := by
  unfold Calldata.param
  rw [hmethod, Except.error_bind]

theorem params_of_method_error (hmethod : c.method = .error e) : c.params = .error e := by
  unfold Calldata.params
  rw [hmethod, Except.error_bind]

section Method

variable (hmethod : c.method = .ok method)

include hmethod

theorem param_of_not_mem (hname : name ∉ method.params.map (·.name))
    : c.param name = .error (.missingParameter method name) := by
  unfold Calldata.param
  rw [hmethod, Except.ok_bind, if_neg (mt any_name_iff.mp hname)]
  rfl

theorem params_ne_missingParameter : c.params ≠ .error (.missingParameter method name) := by
  intro h
  rcases (params_eq_error_iff hmethod).mp h with ⟨cause, -, heq⟩
  cases heq

section Mem

variable (hname : name ∈ method.params.map (·.name))

include hname

theorem exists_get?_of_mem (hparams : c.params = .ok binding)
    : ∃ value, binding.get? name = some value := by
  rcases List.mem_map.mp hname with ⟨param, hparam, rfl⟩
  have hunpack := (params_eq_ok_iff hmethod).mp hparams
  exact (Abi.unpack_eq_ok_iff.mp hunpack).2.2.exists_get? hparam

theorem param_eq_error_iff_of_mem : c.param name = .error e ↔ c.params = .error e := by
  rcases List.mem_map.mp hname with ⟨param, hparam, rfl⟩
  exact param_eq_error_iff hmethod hparam

theorem param_of_get? (hparams : c.params = .ok binding) (hget : binding.get? name = some v)
    : c.param name = .ok v := by
  unfold Calldata.param
  rw [hmethod, Except.ok_bind, if_pos (any_name_iff.mpr hname), hparams, Except.ok_bind, hget]
  rfl

theorem param_eq_ok_iff
    : c.param name = .ok v ↔ ∃ binding, c.params = .ok binding ∧ binding.get? name = some v := by
  constructor
  . intro h
    cases hparams : c.params with
    | error e =>
      rw [← param_eq_error_iff_of_mem hmethod hname, h] at hparams
      cases hparams
    | ok binding =>
      rcases exists_get?_of_mem hmethod hname hparams with ⟨value, hget⟩
      have heq := param_of_get? hmethod hname hparams hget
      rw [h, Except.ok.injEq] at heq
      exact ⟨binding, rfl, heq ▸ hget⟩
  . rintro ⟨binding, hparams, hget⟩
    exact param_of_get? hmethod hname hparams hget

end Mem

theorem param_eq_missingParameter_iff
    : c.param name = .error (.missingParameter method name)
        ↔
      name ∉ method.params.map (·.name) := by
  constructor
  . intro h hname
    rw [param_eq_error_iff_of_mem hmethod hname] at h
    exact params_ne_missingParameter hmethod h
  . exact param_of_not_mem hmethod

end Method

theorem param_agrees_params (c : Calldata) (name : String)
    : (∀ e, c.method = .error e → c.param name = .error e ∧ c.params = .error e)
        ∧ ∀ method, c.method = .ok method →
            (c.param name = .error (.missingParameter method name)
                ↔ name ∉ method.params.map (·.name))
              ∧ (name ∈ method.params.map (·.name) →
                  (∀ v, c.param name = .ok v
                      ↔ ∃ binding, c.params = .ok binding ∧ binding.get? name = some v)
                    ∧ (∀ e, c.param name = .error e ↔ c.params = .error e)
                    ∧ ∀ binding, c.params = .ok binding →
                        ∃ v, binding.get? name = some v) := by
  constructor
  . intro e hmethod
    exact ⟨param_of_method_error hmethod, params_of_method_error hmethod⟩
  . intro method hmethod
    refine ⟨param_eq_missingParameter_iff hmethod, ?_⟩
    intro hname
    refine ⟨?_, ?_, ?_⟩
    . intro v
      exact param_eq_ok_iff hmethod hname
    . intro e
      exact param_eq_error_iff_of_mem hmethod hname
    . intro binding
      exact exists_get?_of_mem hmethod hname

def shortArgument : Calldata :=
  ⟨Method.ownerOf.selector.toBytes ++ [0, 0]⟩

theorem param_of_shortArgument
    : shortArgument.method = .ok .ownerOf
        ∧ shortArgument.param "owner" = .error (.missingParameter .ownerOf "owner")
        ∧ shortArgument.params = .error (.malformedParameters .ownerOf (.misaligned [0, 0]))
        ∧ shortArgument.param "tokenId"
            =
          .error (.malformedParameters .ownerOf (.misaligned [0, 0]))
        ∧ Calldata.param ⟨[0x63]⟩ "tokenId" = .error (.shortCalldata "0x63") := by
  have hmethod : shortArgument.method = .ok .ownerOf := by apply method_selector_append
  have harguments : shortArgument.arguments = [0, 0] := by
    apply List.drop_left'
    exact Method.ownerOf.selector.length_toBytes
  have hparams : shortArgument.params
      = .error (.malformedParameters .ownerOf (.misaligned [0, 0])) := by
    rw [params_eq_error_iff hmethod, harguments]
    exact ⟨_, rfl, rfl⟩
  have hshort : (Calldata.mk [0x63]).method = .error (.shortCalldata "0x63") := by
    have hencode : Hex.encode [0x63] = "0x63" := by decide +kernel
    rw [method_eq_error_iff, selector_eq_error_iff, hencode]
    exact .inl ⟨by decide, rfl⟩
  have howner := ((param_agrees_params shortArgument "owner").2 .ownerOf hmethod).1
  have htokenId := ((param_agrees_params shortArgument "tokenId").2 .ownerOf hmethod).2 (by decide)
  refine ⟨hmethod, howner.mpr (by decide), hparams, ?_, ?_⟩
  . exact (htokenId.2.1 _).mpr hparams
  . exact ((param_agrees_params ⟨[0x63]⟩ "tokenId").1 _ hshort).1

end TokenGateway.Calldata
