import Mathlib.Data.List.Forall2
import Mathlib.Data.Nat.Digits.Defs
import TokenGateway.Proofs.Text.Numeral

namespace TokenGateway.Text

variable {radix limit : Nat} {c : Char} {cs : List Char} {d n m : Nat}

def IsDigit (radix : Nat) (c : Char) (d : Nat) : Prop :=
  d < radix ∧ c.toLower = d.digitChar

instance : Decidable (IsDigit radix c d) :=
  inferInstanceAs (Decidable (_ ∧ _))

/--
Whether characters are the digits of a number, the highest first. There is at least one, and there
may be zeros in front.
-/
structure Denotes (radix : Nat) (cs : List Char) (n : Nat) : Prop where
  nonempty : cs ≠ []
  value : ∃ ds, List.Forall₂ (IsDigit radix) cs ds ∧ Nat.ofDigits radix ds.reverse = n

def DenotesSigned (radix : Nat) (cs : List Char) (n : Nat) : Prop :=
  ∃ ds, cs = '+' :: ds ∧ Denotes radix ds n

theorem denotesSigned_cons_iff
    : DenotesSigned radix (c :: cs) n ↔ c = '+' ∧ Denotes radix cs n := by
  simp [DenotesSigned, and_assoc]

section Digit

theorem toNat_lt_of_digitValue? (h : digitValue? radix c = some d) : c.toNat < 128 := by
  unfold digitValue? at h
  rw [Option.filter_eq_some_iff] at h
  have hvalue := h.1
  split at hvalue
  . next hrange =>
    have : c.toNat ≤ 57 := hrange.2
    omega
  . split at hvalue
    . next hrange =>
      have : c.toNat ≤ 122 := hrange.2
      omega
    . split at hvalue
      . next hrange =>
        have : c.toNat ≤ 90 := hrange.2
        omega
      . cases hvalue

theorem digitValue?_sixteen_of_ascii (hc : c.toNat < 128) (hd : d < 16)
    : digitValue? 16 c = some d ↔ c.toLower = d.digitChar := by
  have hall : ∀ m < 128, ∀ d < 16,
      digitValue? 16 (Char.ofNat m) = some d ↔ (Char.ofNat m).toLower = d.digitChar := by
    decide +kernel
  have := hall c.toNat hc d hd
  rwa [Char.ofNat_toNat] at this

variable (hradix : radix ≤ 16)

include hradix

theorem digitValue?_eq_some_iff_sixteen
    : digitValue? radix c = some d ↔ d < radix ∧ digitValue? 16 c = some d := by
  unfold digitValue?
  simp only [Option.filter_eq_some_iff, decide_eq_true_eq]
  constructor
  . intro h
    exact ⟨h.2, h.1, by omega⟩
  . intro h
    exact ⟨h.2.1, h.1⟩

theorem digitValue?_eq_some_iff : digitValue? radix c = some d ↔ IsDigit radix c d := by
  have hsmall : ∀ d < 16, d.digitChar.toNat < 128 := by decide
  rw [digitValue?_eq_some_iff_sixteen hradix]
  apply and_congr_right
  intro hd
  have hd' : d < 16 := by omega
  constructor
  . intro h
    exact (digitValue?_sixteen_of_ascii (toNat_lt_of_digitValue? h) hd').mp h
  . intro h
    have hc : c.toNat < 128 := by
      apply toNat_lt_of_toLower
      rw [h]
      exact hsmall d hd'
    exact (digitValue?_sixteen_of_ascii hc hd').mpr h

end Digit

theorem le_foldl_digits (hradix : 0 < radix) (ds : List Nat)
    : ∀ n, n ≤ ds.foldl (fun n d => n * radix + d) n := by
  induction ds with
  | nil =>
    intro n
    exact Nat.le_refl n
  | cons d ds ih =>
    intro n
    calc
      n ≤ n * radix := Nat.le_mul_of_pos_right n hradix
      _ ≤ n * radix + d := Nat.le_add_right _ d
      _ ≤ ds.foldl (fun n d => n * radix + d) (n * radix + d) := ih _

theorem ofDigits_reverse_eq_foldl (ds : List Nat)
    : Nat.ofDigits radix ds.reverse = ds.foldl (fun n d => n * radix + d) 0 := by
  rw [Nat.ofDigits_eq_foldr, List.foldr_reverse]
  congr
  funext n d
  rw [Nat.cast_id, Nat.mul_comm, Nat.add_comm]

section Read

variable (hradix : 0 < radix) (hradix' : radix ≤ 16)

include hradix'

theorem exists_digits_cons_iff
    : (∃ ds, List.Forall₂ (IsDigit radix) (c :: cs) ds
          ∧ ds.foldl (fun n d => n * radix + d) n = m)
        ↔
      ∃ d, digitValue? radix c = some d
        ∧ ∃ ds, List.Forall₂ (IsDigit radix) cs ds
            ∧ ds.foldl (fun n d => n * radix + d) (n * radix + d) = m := by
  simp only [List.forall₂_cons_left_iff, digitValue?_eq_some_iff hradix']
  constructor
  . rintro ⟨-, ⟨d, ds, hd, hds, rfl⟩, hvalue⟩
    exact ⟨d, hd, ds, hds, hvalue⟩
  . rintro ⟨d, hd, ds, hds, hvalue⟩
    exact ⟨d :: ds, ⟨d, ds, hd, hds, rfl⟩, hvalue⟩

include hradix

theorem readDigits_eq_ok_iff (cs : List Char)
    : ∀ n < limit,
        readDigits radix limit n cs = .ok m
          ↔
        m < limit
          ∧ ∃ ds, List.Forall₂ (IsDigit radix) cs ds
            ∧ ds.foldl (fun n d => n * radix + d) n = m := by
  induction cs with
  | nil =>
    intro n hn
    simp only [readDigits, Except.ok.injEq, List.forall₂_nil_left_iff]
    constructor
    . rintro rfl
      exact ⟨hn, [], rfl, rfl⟩
    . rintro ⟨-, ds, rfl, hvalue⟩
      exact hvalue
  | cons c cs ih =>
    intro n hn
    rw [exists_digits_cons_iff hradix', readDigits]
    cases digitValue? radix c with
    | none => simp
    | some d =>
      simp only [Option.some.injEq, exists_eq_left']
      split
      . next hlimit => exact ih (n * radix + d) hlimit
      . next hlimit =>
        simp only [reduceCtorEq, false_iff]
        rintro ⟨hm, ds, -, hvalue⟩
        -- Further digits make no number smaller.
        have := le_foldl_digits hradix ds (n * radix + d)
        omega

theorem readDigits_zero_eq_ok_iff (hcs : cs ≠ []) (hlimit : 0 < limit)
    : readDigits radix limit 0 cs = .ok n ↔ n < limit ∧ Denotes radix cs n := by
  rw [readDigits_eq_ok_iff hradix hradix' cs 0 hlimit]
  simp only [← ofDigits_reverse_eq_foldl]
  apply and_congr_right
  intro _
  constructor
  . intro h
    exact ⟨hcs, h⟩
  . intro h
    exact h.value

omit hradix in
theorem not_denotes_plus : ¬Denotes radix ('+' :: cs) n := by
  intro h
  rcases h.value with ⟨ds, hds, -⟩
  cases hds with
  | cons hd hds =>
    rw [← digitValue?_eq_some_iff hradix'] at hd
    cases hd

theorem readUnsigned_eq_ok_iff (hlimit : 0 < limit)
    : readUnsigned radix limit cs = .ok n
        ↔
      n < limit ∧ (Denotes radix cs n ∨ DenotesSigned radix cs n) := by
  have hnil : ¬Denotes radix [] n := fun h => h.nonempty rfl
  cases cs with
  | nil => simp [readUnsigned, DenotesSigned, hnil]
  | cons c cs =>
    by_cases hc : c = '+'
    . subst hc
      simp only [not_denotes_plus hradix', false_or, denotesSigned_cons_iff, true_and]
      cases cs with
      | nil => simp [readUnsigned, hnil]
      | cons c cs => exact readDigits_zero_eq_ok_iff hradix hradix' (by simp) hlimit
    . simp only [denotesSigned_cons_iff, hc, false_and, or_false]
      rw [readUnsigned_of_ne_plus hc]
      exact readDigits_zero_eq_ok_iff hradix hradix' (by simp) hlimit

end Read

end TokenGateway.Text
