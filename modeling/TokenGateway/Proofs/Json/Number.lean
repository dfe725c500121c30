import Mathlib.Data.List.TakeDrop
import Mathlib.Data.List.TakeWhile
import TokenGateway.Json.Reader
import TokenGateway.Proofs.Text.Numeral

namespace TokenGateway.Json

section Characters

def IsNumberChar (c : Char) : Prop :=
  c.isDigit ∨ c ∈ ['-', '+', '.', 'e', 'E']

def Takes (cs rest : List Char) : Prop :=
  ∃ front, cs = front ++ rest ∧ ∀ c ∈ front, IsNumberChar c

variable {cs rest : List Char}

theorem takes_refl (cs : List Char) : Takes cs cs :=
  ⟨[], rfl, by simp⟩

theorem Takes.cons {c : Char} (hc : IsNumberChar c) (h : Takes cs rest) : Takes (c :: cs) rest := by
  rcases h with ⟨front, rfl, hfront⟩
  exact ⟨c :: front, rfl, List.forall_mem_cons.mpr ⟨hc, hfront⟩⟩

theorem Takes.trans {middle : List Char} (h : Takes cs middle) (h' : Takes middle rest)
    : Takes cs rest := by
  rcases h with ⟨front, rfl, hfront⟩
  rcases h' with ⟨back, rfl, hback⟩
  exact ⟨front ++ back, (List.append_assoc _ _ _).symm, List.forall_mem_append.mpr ⟨hfront, hback⟩⟩

theorem takes_of_someDigits (h : someDigits cs = some rest) : Takes cs rest := by
  unfold someDigits at h
  rw [List.span_eq_takeWhile_dropWhile] at h
  split at h
  . cases h
  . next heq =>
    cases heq
    cases h
    refine ⟨cs.takeWhile Char.isDigit, List.takeWhile_append_dropWhile.symm, ?_⟩
    intro c hc
    exact .inl (List.mem_takeWhile_imp hc)

theorem takes_of_wholePart (h : wholePart cs = some rest) : Takes cs rest := by
  unfold wholePart at h
  split at h
  . next rest' =>
    split at h
    . cases h
    . cases h
      exact .cons (.inl (by decide)) (takes_refl _)
  . exact takes_of_someDigits h

theorem takes_of_fractionPart (h : fractionPart cs = some rest) : Takes cs rest := by
  unfold fractionPart at h
  split at h
  . exact .cons (.inr (by simp)) (takes_of_someDigits h)
  . cases h
    exact takes_refl _

theorem takes_of_exponentPart (h : exponentPart cs = some rest) : Takes cs rest := by
  unfold exponentPart at h
  split at h
  . next e cs =>
    split at h
    . next he =>
      have he' : IsNumberChar e := by
        rcases he with rfl | rfl
        . exact .inr (by simp)
        . exact .inr (by simp)
      split at h
      . exact .cons he' (.cons (.inr (by simp)) (takes_of_someDigits h))
      . exact .cons he' (.cons (.inr (by simp)) (takes_of_someDigits h))
      . exact .cons he' (takes_of_someDigits h)
    . cases h
      exact takes_refl _
  . cases h
    exact takes_refl _

theorem isNumberChar_of_isNumber (h : isNumber cs = true) : ∀ c ∈ cs, IsNumberChar c := by
  have hunsigned : ∀ unsigned,
      (wholePart unsigned >>= fractionPart >>= exponentPart) = some [] → Takes unsigned [] := by
    intro unsigned h
    rcases Option.bind_eq_some_iff.mp h with ⟨exponent, h, hexponent⟩
    rcases Option.bind_eq_some_iff.mp h with ⟨fraction, hwhole, hfraction⟩
    exact (takes_of_wholePart hwhole).trans
      ((takes_of_fractionPart hfraction).trans (takes_of_exponentPart hexponent))
  have htakes : Takes cs [] := by
    unfold isNumber at h
    dsimp only at h
    rw [beq_iff_eq] at h
    split at h
    . exact .cons (.inr (by simp)) (hunsigned _ h)
    . exact hunsigned _ h
  rcases htakes with ⟨front, rfl, hfront⟩
  rwa [List.append_nil]

theorem ne_nil_of_isNumber (h : isNumber cs = true) : cs ≠ [] := by
  rintro rfl
  cases h

end Characters

section Whole

theorem isDigit_toDigits (n : Nat) : ∀ c ∈ Nat.toDigits 10 n, c.isDigit := by
  intro c hc
  exact Nat.isDigit_of_mem_toDigits (by decide) (by decide) hc

theorem someDigits_of_forall {cs : List Char} (hne : cs ≠ []) (h : ∀ c ∈ cs, c.isDigit)
    : someDigits cs = some [] := by
  unfold someDigits
  rw [List.span_eq_takeWhile_dropWhile, List.takeWhile_eq_self_iff.mpr h,
    List.dropWhile_eq_nil_iff.mpr h]
  cases cs with
  | nil => exact absurd rfl hne
  | cons c cs => rfl

theorem wholePart_toDigits (n : Nat) : wholePart (Nat.toDigits 10 n) = some [] := by
  unfold wholePart
  split
  . next rest hdigits =>
    have hzero := Text.eq_zero_of_toDigits (by decide) (by decide) hdigits
    subst hzero
    cases hdigits
    rfl
  . exact someDigits_of_forall Nat.toDigits_ne_nil (isDigit_toDigits n)

theorem isNumber_toDigits (n : Nat) : isNumber (Nat.toDigits 10 n) = true := by
  have hradix : 1 < 10 := by decide
  rcases Text.exists_toDigits_eq_cons hradix (by decide) n with ⟨c, cs, hdigits, -, hminus⟩
  have hwhole := wholePart_toDigits n
  unfold isNumber
  rw [hdigits] at hwhole ⊢
  split
  . next heq => exact absurd (List.head_eq_of_cons_eq heq) hminus
  . dsimp only
    rw [hwhole]
    rfl

theorem isNumber_minus_toDigits (n : Nat) : isNumber ('-' :: Nat.toDigits 10 n) = true := by
  simp only [isNumber, wholePart_toDigits]
  rfl

theorem toList_toString_nat (n : Nat) : (toString n).toList = Nat.toDigits 10 n := by
  rw [Nat.toString_eq_repr, Nat.toList_repr]

theorem toList_toString_negSucc (n : Nat)
    : (toString (Int.negSucc n)).toList = '-' :: Nat.toDigits 10 (n + 1) := by
  change ("-" ++ (n + 1).repr).toList = _
  rw [String.toList_append, Nat.toList_repr]
  rfl

theorem natBelow?_ofNat {n limit : Nat} (h : n < limit) : (ofNat n).natBelow? limit = some n := by
  unfold ofNat natBelow?
  dsimp only
  rw [toList_toString_nat, if_pos (List.all_eq_true.mpr (isDigit_toDigits n)),
    Text.readUnsigned_toDigits (by decide) (by decide) h]
  rfl

theorem intWithin?_ofInt {n : Int} {limit : Nat} (h : -limit ≤ n) (h' : n < limit)
    : (ofInt n).intWithin? limit = some n := by
  have hdigits : ∀ n : Nat, ∀ c ∈ Nat.toDigits 10 n, (c.isDigit || c = '-') = true := by
    intro n c hc
    rw [isDigit_toDigits n c hc, Bool.true_or]
  unfold ofInt intWithin?
  dsimp only
  cases n with
  | ofNat n =>
    have hn : n < limit := Int.ofNat_lt.mp h'
    have hliteral : (toString (Int.ofNat n)).toList = Nat.toDigits 10 n := toList_toString_nat n
    rw [hliteral, if_pos (List.all_eq_true.mpr (hdigits n)),
      Text.readSigned_toDigits (by decide) (by decide) hn]
    rfl
  | negSucc n =>
    have hn : n + 1 ≤ limit := by omega
    rw [toList_toString_negSucc, List.all_cons, if_pos,
      Text.readSigned_minus_toDigits (by decide) (by decide) hn]
    . rfl
    . rw [List.all_eq_true.mpr (hdigits (n + 1))]
      rfl

theorem isNumber_ofNat (n : Nat) : isNumber (toString n).toList = true := by
  rw [toList_toString_nat]
  apply isNumber_toDigits

theorem isNumber_ofInt (n : Int) : isNumber (toString n).toList = true := by
  cases n with
  | ofNat n => apply isNumber_ofNat
  | negSucc n =>
    rw [toList_toString_negSucc]
    apply isNumber_minus_toDigits

end Whole

end TokenGateway.Json
