import TokenGateway.Proofs.Except
import TokenGateway.Text.Numeral

namespace TokenGateway.Text

variable {radix limit : Nat}

theorem toNat_lt_of_toLower {c : Char} (h : c.toLower.toNat < 128) : c.toNat < 128 := by
  unfold Char.toLower at h
  split at h
  . next hupper =>
    have : c.toNat ≤ 90 := hupper.2
    omega
  . exact h

section Digit

variable (hradix : radix ≤ 16) {d : Nat} (hd : d < radix)

include hradix hd

theorem digitValue?_digitChar : digitValue? radix d.digitChar = some d := by
  have hall : ∀ radix < 17, ∀ d < radix, digitValue? radix d.digitChar = some d := by decide
  exact hall radix (by omega) d hd

theorem digitChar_ne_sign : d.digitChar ≠ '+' ∧ d.digitChar ≠ '-' := by
  have hall : ∀ d < 16, d.digitChar ≠ '+' ∧ d.digitChar ≠ '-' := by decide
  exact hall d (by omega)

end Digit

theorem eq_zero_of_digitChar {d : Nat} (hd : d < 16) (h : d.digitChar = '0') : d = 0 := by
  have hall : ∀ d < 16, d.digitChar = '0' → d = 0 := by decide
  exact hall d hd h

theorem readDigits_append (cs ds : List Char)
    : ∀ n : Nat,
        readDigits radix limit n (cs ++ ds)
          =
        readDigits radix limit n cs >>= fun m => readDigits radix limit m ds := by
  induction cs with
  | nil =>
    intro n
    rfl
  | cons c cs ih =>
    intro n
    rw [List.cons_append, readDigits, readDigits]
    cases digitValue? radix c with
    | none => rfl
    | some d =>
      dsimp only
      split
      . apply ih
      . rfl

theorem readUnsigned_of_ne_plus {c : Char} {cs : List Char} (hc : c ≠ '+')
    : readUnsigned radix limit (c :: cs) = readDigits radix limit 0 (c :: cs) := by
  unfold readUnsigned
  split
  . next heq => cases heq
  . next heq => exact absurd (List.head_eq_of_cons_eq heq) hc
  . next heq => exact absurd (List.head_eq_of_cons_eq heq) hc
  . rfl

section ToDigits

variable (hradix : 1 < radix) (hradix' : radix ≤ 16)

include hradix hradix'

theorem readDigits_toDigits (n : Nat) (hn : n < limit)
    : readDigits radix limit 0 (Nat.toDigits radix n) = .ok n := by
  induction n using Nat.strongRecOn with
  | ind n ih =>
    rw [Nat.toDigits_eq_if hradix]
    split
    . next hsmall =>
      rw [readDigits, digitValue?_digitChar hradix' hsmall]
      dsimp only
      rw [Nat.zero_mul, Nat.zero_add, if_pos hn]
      rfl
    -- The last digit is read after all others, which are those of the quotient.
    . next hlarge =>
      have hdiv : n / radix < n := Nat.div_lt_self (by omega) hradix
      have hmod : n % radix < radix := Nat.mod_lt n (by omega)
      rw [readDigits_append, ih (n / radix) hdiv (by omega), Except.ok_bind, readDigits,
        digitValue?_digitChar hradix' hmod]
      dsimp only
      rw [Nat.div_add_mod', if_pos hn]
      rfl

theorem exists_digitChar_of_mem_toDigits {n : Nat} {c : Char} (h : c ∈ Nat.toDigits radix n)
    : ∃ d < radix, c = d.digitChar := by
  induction n using Nat.strongRecOn with
  | ind n ih =>
    rw [Nat.toDigits_eq_if hradix] at h
    split at h
    . next hsmall => exact ⟨n, hsmall, List.mem_singleton.mp h⟩
    . next hlarge =>
      rcases List.mem_append.mp h with hmem | hlast
      . exact ih (n / radix) (Nat.div_lt_self (by omega) hradix) hmem
      . exact ⟨n % radix, Nat.mod_lt n (by omega), List.mem_singleton.mp hlast⟩

theorem exists_toDigits_eq_cons (n : Nat)
    : ∃ c cs, Nat.toDigits radix n = c :: cs ∧ c ≠ '+' ∧ c ≠ '-' := by
  cases hdigits : Nat.toDigits radix n with
  | nil => exact absurd hdigits Nat.toDigits_ne_nil
  | cons c cs =>
    have hmem : c ∈ Nat.toDigits radix n := by simp [hdigits]
    rcases exists_digitChar_of_mem_toDigits hradix hradix' hmem with ⟨d, hd, rfl⟩
    exact ⟨_, cs, rfl, digitChar_ne_sign hradix' hd⟩

theorem eq_zero_of_toDigits {n : Nat} {cs : List Char} (h : Nat.toDigits radix n = '0' :: cs)
    : n = 0 := by
  induction n using Nat.strongRecOn generalizing cs with
  | ind n ih =>
    rw [Nat.toDigits_eq_if hradix] at h
    split at h
    . next hsmall => exact eq_zero_of_digitChar (by omega) (List.head_eq_of_cons_eq h)
    . next hlarge =>
      have hdiv : n / radix < n := Nat.div_lt_self (by omega) hradix
      cases hdigits : Nat.toDigits radix (n / radix) with
      | nil => exact absurd hdigits Nat.toDigits_ne_nil
      | cons c ds =>
        rw [hdigits] at h
        rw [List.head_eq_of_cons_eq h] at hdigits
        have hzero := ih (n / radix) hdiv hdigits
        rw [Nat.div_eq_zero_iff] at hzero
        omega

theorem readUnsigned_toDigits {n : Nat} (hn : n < limit)
    : readUnsigned radix limit (Nat.toDigits radix n) = .ok n := by
  rcases exists_toDigits_eq_cons hradix hradix' n with ⟨c, cs, hdigits, hplus, -⟩
  have hread := readDigits_toDigits hradix hradix' n hn
  rw [hdigits] at hread ⊢
  rw [readUnsigned_of_ne_plus hplus]
  exact hread

theorem readSigned_toDigits {n : Nat} (hn : n < limit)
    : readSigned radix limit (Nat.toDigits radix n) = .ok n := by
  rcases exists_toDigits_eq_cons hradix hradix' n with ⟨c, cs, hdigits, -, hminus⟩
  have hread := readUnsigned_toDigits hradix hradix' hn
  rw [hdigits] at hread ⊢
  unfold readSigned
  split
  . next heq => simp_all
  . next heq => simp_all
  . rw [hread]
    rfl

theorem readSigned_minus_toDigits {n : Nat} (hn : n ≤ limit)
    : readSigned radix limit ('-' :: Nat.toDigits radix n) = .ok (-n) := by
  rcases exists_toDigits_eq_cons hradix hradix' n with ⟨c, cs, hdigits, -, -⟩
  have hn' : n < limit + 1 := Nat.lt_succ_of_le hn
  have hread := readDigits_toDigits hradix hradix' n hn'
  rw [hdigits] at hread ⊢
  simp only [readSigned, hread]

end ToDigits

end TokenGateway.Text
