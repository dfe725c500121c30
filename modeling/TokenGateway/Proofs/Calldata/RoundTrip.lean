import TokenGateway.Proofs.Abi.Canonical
import TokenGateway.Proofs.Calldata

namespace TokenGateway

theorem Method.kind_ne_string (method : Method) : ∀ param ∈ method.params, param.kind ≠ .string := by
  cases method <;> simp [Method.params]

namespace Calldata

variable {c : Calldata} {method : Method} {binding : Abi.Binding} {vs : List Abi.Value}

theorem bytes_eq_append (h : c.method = .ok method)
    : c.bytes = method.selector.toBytes ++ c.arguments := by
  rw [← method_eq_ok_iff_take.mp h, Calldata.arguments, selectorLength, List.take_append_drop]

theorem method_build : (build method vs).method = .ok method := by
  apply method_selector_append

theorem arguments_build : (build method vs).arguments = Abi.pack vs := by
  apply List.drop_left'
  exact method.selector.length_toBytes

theorem exists_params_build (hkinds : method.params.map (·.kind) = vs.map Abi.Value.kind)
    : ∃ binding, (build method vs).params = .ok binding ∧ binding.values = vs := by
  simp only [params_eq_ok_iff method_build, arguments_build]
  exact Abi.exists_unpack_pack method.kind_ne_string hkinds

theorem param_build {name : String} {v : Abi.Value} (hparam : method.params = [⟨name, v.kind⟩])
    : (build method [v]).param name = .ok v := by
  have haddressable : Abi.Addressable [v] := by
    apply Abi.addressable_of_static
    intro v' hv'
    rw [List.mem_singleton.mp hv']
    exact method.kind_ne_string ⟨name, v.kind⟩ (by simp [hparam])
  have hparams : (build method [v]).params = .ok ⟨[(name, v)]⟩ := by
    rw [params_eq_ok_iff method_build, arguments_build, hparam]
    exact Abi.unpack_pack rfl haddressable
  unfold Calldata.param
  rw [method_build, Except.ok_bind, hparams, hparam]
  simp [Abi.Binding.get?]

theorem bytes_eq_of_params (hmethod : c.method = .ok method) (hparams : c.params = .ok binding)
    : c.bytes = method.selector.toBytes ++ Abi.pack binding.values := by
  have hunpack := (params_eq_ok_iff hmethod).mp hparams
  have hpack := (Abi.unpack_eq_ok_iff_pack method.kind_ne_string).mp hunpack
  rw [bytes_eq_append hmethod, hpack.2.2]

theorem build_inverse_params (method : Method)
    : (∀ vs : List Abi.Value, method.params.map (·.kind) = vs.map Abi.Value.kind →
          (build method vs).method = .ok method
            ∧ ∃ binding, (build method vs).params = .ok binding ∧ binding.values = vs)
        ∧ (∀ (c : Calldata) binding, c.method = .ok method → c.params = .ok binding →
            c.bytes = method.selector.toBytes ++ Abi.pack binding.values)
        ∧ ∀ (c c' : Calldata) binding binding',
            c.method = .ok method → c.params = .ok binding →
            c'.method = .ok method → c'.params = .ok binding' →
            binding.values = binding'.values →
              c = c' := by
  refine ⟨?_, ?_, ?_⟩
  . intro vs hkinds
    exact ⟨method_build, exists_params_build hkinds⟩
  . intro c binding hmethod hparams
    exact bytes_eq_of_params hmethod hparams
  . intro c c' binding binding' hmethod hparams hmethod' hparams' hvalues
    have hbytes : c.bytes = c'.bytes := by
      rw [bytes_eq_of_params hmethod hparams, bytes_eq_of_params hmethod' hparams', hvalues]
    cases c
    cases c'
    rw [Calldata.mk.injEq]
    exact hbytes

theorem params_of_interface
    : ∃ (c : Calldata) (binding : Abi.Binding),
        c = build .supportsInterface [.bytes4 (.zero 4)]
          ∧ c.method = .ok .supportsInterface
          ∧ c.params = .ok binding
          ∧ binding.values = [.bytes4 (.zero 4)]
          ∧ c.bytes = [0x01, 0xff, 0xc9, 0xa7] ++ Bytes.zeros 32 := by
  rcases build_inverse_params .supportsInterface with ⟨hbuild, hunique, -⟩
  rcases hbuild [.bytes4 (.zero 4)] rfl with ⟨hmethod, binding, hparams, hvalues⟩
  refine ⟨_, binding, rfl, hmethod, hparams, hvalues, ?_⟩
  rw [hunique _ binding hmethod hparams, hvalues, Method.toBytes_selector]
  rfl

end Calldata
end TokenGateway
