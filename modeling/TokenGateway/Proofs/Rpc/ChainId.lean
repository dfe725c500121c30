import TokenGateway.Proofs.ChainId
import TokenGateway.Proofs.Dispatch.Plan
import TokenGateway.Proofs.Text.Minimal
import TokenGateway.Rpc.Service

namespace TokenGateway

namespace ChainId

variable {w front back : String} {radix n : Nat}

theorem ofText_append (hfront : ∀ c ∈ front.toList, Text.isBlank c)
    (hback : ∀ c ∈ back.toList, Text.isBlank c) (hw : ∀ c ∈ w.toList, Text.isBlank c = false)
    (h : IsChainId w n)
    : ofText (front ++ w ++ back) = .ok n := by
  rw [ofText_eq_ok_iff, Text.trim_append hfront hback hw]
  exact .inl h

theorem isBlank_of_isMinimal (hradix : 1 < radix) (hradix' : radix ≤ 16)
    (h : Text.IsMinimal radix w.toList n)
    : ∀ c ∈ w.toList, Text.isBlank c = false := by
  have hall : ∀ d < 16, Text.isBlank d.digitChar = false := by decide
  rw [Text.isMinimal_iff hradix hradix'] at h
  intro c hc
  rw [h] at hc
  rcases Text.exists_digitChar_of_mem_toDigits hradix hradix' hc with ⟨d, hd, rfl⟩
  exact hall d (by omega)

section Minimal

variable (hfront : ∀ c ∈ front.toList, Text.isBlank c) (hback : ∀ c ∈ back.toList, Text.isBlank c)
  (hn : n < 2 ^ 64)

include hfront hback hn

theorem ofText_hexadecimal (h : Text.IsMinimal 16 w.toList n)
    : ofText (front ++ ("0x" ++ w) ++ back) = .ok n := by
  have htext : ("0x" ++ w).toList = '0' :: 'x' :: w.toList := String.toList_append
  have hdigits := isBlank_of_isMinimal (by decide) (by decide) h
  refine ofText_append hfront hback ?_ (.hexadecimal htext (.inl rfl) h.denotes hn)
  rw [htext, List.forall_mem_cons, List.forall_mem_cons]
  exact ⟨by decide, by decide, hdigits⟩

theorem ofText_decimal (h : Text.IsMinimal 10 w.toList n)
    : ofText (front ++ w ++ back) = .ok n := by
  have hdigits := isBlank_of_isMinimal (by decide) (by decide) h
  exact ofText_append hfront hback hdigits (.decimal h.denotes hn)

end Minimal

end ChainId

namespace Rpc

theorem answer_of_chainId {config : Config} (node : Node) (params : Params)
    (hn : config.chainId < 2 ^ 64)
    : ∃ hexadecimal decimal : String,
        (∀ w, Text.IsMinimal 16 w.toList config.chainId ↔ w = hexadecimal)
          ∧ (∀ w, Text.IsMinimal 10 w.toList config.chainId ↔ w = decimal)
          ∧ answer config node "eth_chainId" params = .plain (.ok (.string ("0x" ++ hexadecimal)))
          ∧ answer config node "net_version" params = .plain (.ok (.string decimal))
          ∧ ∀ front back : String, (∀ c ∈ front.toList, Text.isBlank c) →
              (∀ c ∈ back.toList, Text.isBlank c) →
                ChainId.ofText (front ++ ("0x" ++ hexadecimal) ++ back) = .ok config.chainId
                  ∧ ChainId.ofText (front ++ decimal ++ back) = .ok config.chainId := by
  have hhexadecimal : ∀ w : String, Text.IsMinimal 16 w.toList config.chainId
      ↔ w = String.ofList (Nat.toDigits 16 config.chainId) := by
    intro w
    exact Text.isMinimal_toList_iff (by decide) (Nat.le_refl 16)
  have hdecimal : ∀ w : String, Text.IsMinimal 10 w.toList config.chainId
      ↔ w = toString config.chainId := by
    intro w
    rw [Nat.toString_eq_ofList_toDigits]
    exact Text.isMinimal_toList_iff (by decide) (by decide)
  refine ⟨_, _, hhexadecimal, hdecimal, ?_, rfl, ?_⟩
  . rw [← Text.quantity_eq]
    rfl
  . intro front back hfront hback
    exact ⟨ChainId.ofText_hexadecimal hfront hback hn ((hhexadecimal _).mpr rfl),
      ChainId.ofText_decimal hfront hback hn ((hdecimal _).mpr rfl)⟩

theorem answer_of_largestChainId
    : let config := { Config.sample with chainId := 2 ^ 64 - 1 }
      config.chainId < 2 ^ 64
        ∧ answer config (fun _ => .never) "eth_chainId" .absent
            =
          .plain (.ok (.string "0xffffffffffffffff"))
        ∧ ChainId.ofText "\t0xffffffffffffffff\n" = .ok (2 ^ 64 - 1) := by
  intro config
  have hn : config.chainId < 2 ^ 64 := by decide
  rcases answer_of_chainId (fun _ => .never) .absent hn with
    ⟨hexadecimal, decimal, hminimal, -, hanswer, -, hread⟩
  have hdigits : hexadecimal = "ffffffffffffffff" := by
    symm
    rw [← hminimal, Text.isMinimal_toList_iff (by decide) (Nat.le_refl 16)]
    decide +kernel
  subst hdigits
  have hfront : "\t".toList.all Text.isBlank := by decide +kernel
  have hback : "\n".toList.all Text.isBlank := by decide +kernel
  have htext := (hread _ _ (List.all_eq_true.mp hfront) (List.all_eq_true.mp hback)).1
  exact ⟨hn, hanswer, htext⟩

end Rpc
end TokenGateway
