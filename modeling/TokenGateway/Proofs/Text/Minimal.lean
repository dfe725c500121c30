import TokenGateway.Proofs.Text.Denotation

namespace TokenGateway.Text

variable {radix n : Nat} {cs : List Char}

structure IsMinimal (radix : Nat) (cs : List Char) (n : Nat) : Prop where
  denotes : Denotes radix cs n
  lower : ∀ c ∈ cs, c.toLower = c
  head : ∀ ds, cs = '0' :: ds → ds = []

def minimalDigits (radix n : Nat) : List Nat :=
  if n = 0 then [0] else (Nat.digits radix n).reverse

theorem isDigits_iff {ds : List Nat}
    : List.Forall₂ (IsDigit radix) cs ds
        ↔
      (∀ d ∈ ds, d < radix) ∧ cs.map Char.toLower = ds.map Nat.digitChar := by
  induction ds generalizing cs with
  | nil => simp
  | cons d ds ih =>
    cases cs with
    | nil => simp
    | cons c cs =>
      rw [List.forall₂_cons, ih, List.forall_mem_cons, List.map_cons, List.map_cons,
        List.cons_eq_cons]
      exact and_and_and_comm

theorem eq_map_digitChar {ds : List Nat} (hds : List.Forall₂ (IsDigit radix) cs ds)
    (hlower : ∀ c ∈ cs, c.toLower = c)
    : cs = ds.map Nat.digitChar := by
  rw [← (isDigits_iff.mp hds).2, List.map_congr_left hlower, List.map_id']

theorem toLower_digitChar {d : Nat} (hd : d < 16) : d.digitChar.toLower = d.digitChar := by
  have hall : ∀ d < 16, d.digitChar.toLower = d.digitChar := by decide
  exact hall d hd

theorem eq_zero_of_toLower {c : Char} (h : c.toLower = '0') : c = '0' := by
  have hall : ∀ m < 128, (Char.ofNat m).toLower = '0' → Char.ofNat m = '0' := by
    decide +kernel
  have hc : c.toNat < 128 := toNat_lt_of_toLower (by rw [h]; decide)
  have := hall c.toNat hc
  rw [Char.ofNat_toNat] at this
  exact this h

section Radix

variable (hradix : 1 < radix)

include hradix

theorem reverse_digits_ofDigits {d : Nat} {ds : List Nat} (hlt : ∀ e ∈ d :: ds, e < radix)
    (hd : d ≠ 0)
    : (Nat.digits radix (Nat.ofDigits radix (d :: ds).reverse)).reverse = d :: ds := by
  rw [Nat.digits_ofDigits radix hradix]
  . exact List.reverse_reverse _
  . intro e he
    exact hlt e (List.mem_reverse.mp he)
  . intro hne
    rwa [List.getLast_reverse]

theorem IsMinimal.eq_map (h : IsMinimal radix cs n)
    : cs = (minimalDigits radix n).map Nat.digitChar := by
  rcases h.denotes.value with ⟨ds, hds, hvalue⟩
  have hcs := eq_map_digitChar hds h.lower
  have hlt := (isDigits_iff.mp hds).1
  cases ds with
  | nil => exact absurd hcs h.denotes.nonempty
  | cons d ds =>
    by_cases hd : d = 0
    -- A zero in front is the only digit.
    . subst hd
      have hnil := List.map_eq_nil_iff.mp (h.head _ hcs)
      subst hnil
      have hn : n = 0 := hvalue.symm
      rw [hcs, minimalDigits, if_pos hn]
    . have hdigits := reverse_digits_ofDigits hradix hlt hd
      rw [hvalue] at hdigits
      have hn : n ≠ 0 := by
        rintro rfl
        rw [Nat.digits_zero] at hdigits
        cases hdigits
      rw [minimalDigits, if_neg hn, hdigits]
      exact hcs

variable (hradix' : radix ≤ 16)

include hradix'

theorem isMinimal_toDigits (n : Nat) : IsMinimal radix (Nat.toDigits radix n) n := by
  constructor
  . have hread := readDigits_toDigits hradix hradix' n (Nat.lt_succ_self n)
    rw [readDigits_zero_eq_ok_iff (by omega) hradix' Nat.toDigits_ne_nil (by omega)] at hread
    exact hread.2
  . intro c hc
    rcases exists_digitChar_of_mem_toDigits hradix hradix' hc with ⟨d, hd, rfl⟩
    exact toLower_digitChar (by omega)
  . intro ds hzero
    rw [eq_zero_of_toDigits hradix hradix' hzero, Nat.toDigits_zero] at hzero
    exact (List.tail_eq_of_cons_eq hzero).symm

theorem isMinimal_iff : IsMinimal radix cs n ↔ cs = Nat.toDigits radix n := by
  constructor
  . intro h
    rw [h.eq_map hradix, (isMinimal_toDigits hradix hradix' n).eq_map hradix]
  . rintro rfl
    exact isMinimal_toDigits hradix hradix' n

theorem exists_zeros_of_digits {ds : List Nat} (hds : ds ≠ []) (hlt : ∀ d ∈ ds, d < radix)
    : ∃ zeros,
        ds.map Nat.digitChar
          =
        List.replicate zeros '0' ++ Nat.toDigits radix (Nat.ofDigits radix ds.reverse) := by
  induction ds with
  | nil => exact absurd rfl hds
  | cons d ds ih =>
    by_cases hzero : d = 0 ∧ ds ≠ []
    . rcases hzero with ⟨rfl, hne⟩
      rcases ih hne (List.forall_mem_cons.mp hlt).2 with ⟨zeros, hdigits⟩
      refine ⟨zeros + 1, ?_⟩
      rw [List.map_cons, hdigits, List.reverse_cons, Nat.ofDigits_append_zero]
      rfl
    -- What does not begin with a zero, or is the digit zero alone, is the shortest numeral itself.
    . have hlower : ∀ c ∈ (d :: ds).map Nat.digitChar, c.toLower = c := by
        intro c hc
        rcases List.mem_map.mp hc with ⟨e, he, rfl⟩
        exact toLower_digitChar (Nat.lt_of_lt_of_le (hlt e he) hradix')
      refine ⟨0, ?_⟩
      rw [List.replicate_zero, List.nil_append, ← isMinimal_iff hradix hradix']
      refine ⟨⟨by simp, d :: ds, isDigits_iff.mpr ⟨hlt, ?_⟩, rfl⟩, hlower, ?_⟩
      . rw [List.map_congr_left hlower, List.map_id']
      . intro cs hcs
        rw [List.map_cons, List.cons_eq_cons] at hcs
        have hd := eq_zero_of_digitChar (Nat.lt_of_lt_of_le (hlt d (by simp)) hradix') hcs.1
        rw [← hcs.2, List.map_eq_nil_iff]
        by_contra hne
        exact hzero ⟨hd, hne⟩

theorem denotes_iff_padded
    : Denotes radix cs n
        ↔
      ∃ zeros, cs.map Char.toLower = List.replicate zeros '0' ++ Nat.toDigits radix n := by
  constructor
  . intro h
    rcases h.value with ⟨ds, hds, rfl⟩
    rcases isDigits_iff.mp hds with ⟨hlt, hlower⟩
    have hne : ds ≠ [] := by
      rintro rfl
      exact h.nonempty (List.map_eq_nil_iff.mp hlower)
    rw [hlower]
    exact exists_zeros_of_digits hradix hradix' hne hlt
  . rintro ⟨zeros, hcs⟩
    have hminimal := isMinimal_toDigits hradix hradix' n
    rcases hminimal.denotes.value with ⟨ds, hds, hvalue⟩
    have hdigits := eq_map_digitChar hds hminimal.lower
    refine ⟨?_, List.replicate zeros 0 ++ ds, isDigits_iff.mpr ⟨?_, ?_⟩, ?_⟩
    . rintro rfl
      exact Nat.toDigits_ne_nil (List.append_eq_nil_iff.mp hcs.symm).2
    . intro d hd
      rcases List.mem_append.mp hd with hzero | hd
      . rw [List.eq_of_mem_replicate hzero]
        omega
      . exact (isDigits_iff.mp hds).1 d hd
    . rw [hcs, hdigits, List.map_append, List.map_replicate]
      rfl
    . rw [List.reverse_append, List.reverse_replicate, Nat.ofDigits_append_replicate_zero, hvalue]

theorem isMinimal_toList_iff {w : String}
    : IsMinimal radix w.toList n ↔ w = String.ofList (Nat.toDigits radix n) := by
  rw [isMinimal_iff hradix hradix', ← String.toList_inj, String.toList_ofList]

theorem eq_zeros_of_denotes_zero (h : Denotes radix cs 0)
    : ∃ zeros, cs = '0' :: List.replicate zeros '0' := by
  rcases (denotes_iff_padded hradix hradix').mp h with ⟨zeros, hcs⟩
  rw [Nat.toDigits_zero, ← List.replicate_succ', List.eq_replicate_iff, List.length_map] at hcs
  refine ⟨zeros, ?_⟩
  rw [← List.replicate_succ, List.eq_replicate_iff]
  refine ⟨hcs.1, ?_⟩
  intro c hc
  exact eq_zero_of_toLower (hcs.2 _ (List.mem_map_of_mem hc))

end Radix

theorem quantity_eq (n : Nat) : quantity n = "0x" ++ String.ofList (Nat.toDigits 16 n) := by
  have hmark : "0x" = String.ofList ['0', 'x'] := rfl
  rw [hmark, ← String.ofList_append]
  rfl

end TokenGateway.Text
