import TokenGateway.Hex
import TokenGateway.Proofs.Text.Numeral
import TokenGateway.Proofs.Text.Utf8

namespace TokenGateway.Hex

/--
Whether a text spells a byte string: its digits, each in either case, behind a mark or without one.
-/
def Spells (bs : Bytes) (text : String) : Prop :=
  ∃ mark cs, text.toList = mark ++ cs
    ∧ mark ∈ [[], ['0', 'x'], ['0', 'X']]
    ∧ cs.map Char.toLower = digits bs

theorem toNat_div_sixteen (b : UInt8) : (b / 16).toNat = b.toNat / 16 := by
  rw [UInt8.toNat_div]
  rfl

theorem toNat_mod_sixteen (b : UInt8) : (b % 16).toNat = b.toNat % 16 := by
  rw [UInt8.toNat_mod]
  rfl

theorem toNat_mul_sixteen_add (v w : UInt8)
    : (v * 16 + w).toNat = (v.toNat * 16 + w.toNat) % 256 := by
  rw [UInt8.toNat_add, UInt8.toNat_mul]
  change (v.toNat * 16 % 256 + w.toNat) % 256 = _
  omega

theorem toNat_div_lt (b : UInt8) : (b / 16).toNat < 16 := by
  have := b.toNat_lt
  rw [toNat_div_sixteen]
  omega

theorem toNat_mod_lt (b : UInt8) : (b % 16).toNat < 16 := by
  rw [toNat_mod_sixteen]
  omega

theorem div_mul_add_mod (b : UInt8) : b / 16 * 16 + b % 16 = b := by
  have := b.toNat_lt
  apply UInt8.toNat_inj.mp
  rw [toNat_mul_sixteen_add, toNat_div_sixteen, toNat_mod_sixteen]
  omega

theorem mem_digits {bs : Bytes} {c : Char} (h : c ∈ digits bs)
    : ∃ v : UInt8, v.toNat < 16 ∧ c = digit v := by
  rcases List.mem_flatMap.mp h with ⟨b, -, hmem⟩
  simp only [List.mem_cons, List.not_mem_nil, or_false] at hmem
  cases hmem with
  | inl h => exact ⟨_, toNat_div_lt b, h⟩
  | inr h => exact ⟨_, toNat_mod_lt b, h⟩

theorem length_digits (bs : Bytes) : (digits bs).length = 2 * bs.length := by
  induction bs with
  | nil => rfl
  | cons b bs ih =>
    unfold digits at *
    rw [List.flatMap_cons, List.length_append, ih]
    simp
    omega

theorem map_digits {f : Char → Char}
    (h : ∀ n < 16, f (digit (UInt8.ofNat n)) = digit (UInt8.ofNat n)) (bs : Bytes)
    : (digits bs).map f = digits bs := by
  have hdigit : ∀ c ∈ digits bs, f c = id c := by
    intro c hc
    rcases mem_digits hc with ⟨v, hv, rfl⟩
    have := h v.toNat hv
    rwa [UInt8.ofNat_toNat] at this
  rw [List.map_congr_left hdigit, List.map_id]

theorem digits_cons (b : UInt8) (bs : Bytes)
    : digits (b :: bs) = digit (b / 16) :: digit (b % 16) :: digits bs := by
  rfl

section Digit

variable {c : Char} {v : UInt8} (hv : v.toNat < 16) (hc : c.toLower = digit v)

include hv hc

theorem toNat_lt_of_toLower : c.toNat < 128 := by
  have hall : ∀ n < 16, (digit (UInt8.ofNat n)).toNat < 128 := by decide
  have hdigit := hall v.toNat hv
  rw [UInt8.ofNat_toNat, ← hc] at hdigit
  exact Text.toNat_lt_of_toLower hdigit

theorem digit_of_toLower
    : nibble? (UInt8.ofNat c.toNat) = some v ∧ c ≠ 'x' ∧ c ≠ 'X' := by
  have hall : ∀ n < 16, ∀ m < 128, (Char.ofNat m).toLower = digit (UInt8.ofNat n) →
      nibble? (UInt8.ofNat (Char.ofNat m).toNat) = some (UInt8.ofNat n)
        ∧ Char.ofNat m ≠ 'x' ∧ Char.ofNat m ≠ 'X' := by
    decide +kernel
  have := hall v.toNat hv c.toNat (toNat_lt_of_toLower hv hc)
  rw [UInt8.ofNat_toNat, Char.ofNat_toNat] at this
  exact this hc

end Digit

section Digits

variable {bs : Bytes} {cs : List Char} (hcs : cs.map Char.toLower = digits bs)

include hcs

theorem exists_digit_of_mem {c : Char} (h : c ∈ cs)
    : ∃ v : UInt8, v.toNat < 16 ∧ c.toLower = digit v := by
  have hlower := List.mem_map_of_mem (f := Char.toLower) h
  rw [hcs] at hlower
  exact mem_digits hlower

theorem unmark_digits : unmark cs = cs := by
  have hmark : ∀ c ∈ cs, c ≠ 'x' ∧ c ≠ 'X' := by
    intro c h
    rcases exists_digit_of_mem hcs h with ⟨v, hv, hc⟩
    exact (digit_of_toLower hv hc).2
  unfold unmark
  split
  . exact absurd rfl (hmark 'x' (by simp)).1
  . exact absurd rfl (hmark 'X' (by simp)).2
  . rfl

theorem utf8_digits : Text.utf8 (String.ofList cs) = cs.map fun c => UInt8.ofNat c.toNat := by
  apply Text.utf8_ofList_ascii
  intro c h
  rcases exists_digit_of_mem hcs h with ⟨v, hv, hc⟩
  exact toNat_lt_of_toLower hv hc

end Digits

theorem readPairs_digits (bs : Bytes)
    : ∀ (cs : List Char) (index : Nat), cs.map Char.toLower = digits bs →
        readPairs index (cs.map fun c => UInt8.ofNat c.toNat) = .ok bs := by
  induction bs with
  | nil =>
    intro cs index hcs
    rw [List.map_eq_nil_iff.mp hcs]
    rfl
  -- The place is told by failures only, and no pair fails.
  | cons b bs ih =>
    intro cs index hcs
    rw [digits_cons, List.map_eq_cons_iff] at hcs
    rcases hcs with ⟨high, cs, rfl, hhigh, hcs⟩
    rw [List.map_eq_cons_iff] at hcs
    rcases hcs with ⟨low, cs, rfl, hlow, hcs⟩
    have hhigh := (digit_of_toLower (toNat_div_lt b) hhigh).1
    have hlow := (digit_of_toLower (toNat_mod_lt b) hlow).1
    simp only [List.map_cons, readPairs, hhigh, hlow, ih cs _ hcs, Except.map, div_mul_add_mod]

theorem spells_encode (bs : Bytes) : Spells bs (encode bs) := by
  refine ⟨['0', 'x'], digits bs, by simp [encode], by simp, ?_⟩
  exact map_digits (by decide) bs

section Spells

variable {bs : Bytes} {text : String} (h : Spells bs text)

include h

theorem readPairs_of_spells
    : (Text.utf8 (stripMark text)).length = 2 * bs.length
        ∧ readPairs 0 (Text.utf8 (stripMark text)) = .ok bs := by
  rcases h with ⟨mark, cs, htext, hmark, hcs⟩
  have hunmark : unmark text.toList = cs := by
    simp only [List.mem_cons, List.not_mem_nil, or_false] at hmark
    rw [htext]
    rcases hmark with rfl | rfl | rfl
    . exact unmark_digits hcs
    . rfl
    . rfl
  have hlength := congrArg List.length hcs
  rw [List.length_map, length_digits] at hlength
  unfold stripMark
  rw [hunmark, utf8_digits hcs, List.length_map]
  exact ⟨hlength, readPairs_digits bs cs 0 hcs⟩

theorem decode_of_spells : decode text = .ok bs := by
  rcases readPairs_of_spells h with ⟨hlength, hread⟩
  unfold decode
  dsimp only
  rw [if_neg (by omega), hread]

end Spells

@[simp]
theorem decode_encode (bs : Bytes) : decode (encode bs) = .ok bs := by
  apply decode_of_spells
  apply spells_encode

end TokenGateway.Hex
