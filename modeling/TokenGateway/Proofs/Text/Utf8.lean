import TokenGateway.Text.Utf8

namespace TokenGateway.Text

abbrev charOfByte (b : UInt8) : Char :=
  Char.ofNat b.toNat

structure FirstStray (p : α → Prop) (xs : List α) (index : Nat) (x : α) : Prop where
  here : xs[index]? = some x
  stray : ¬p x
  before : ∀ i < index, ∀ y ∈ xs[i]?, p y

section FirstStray

variable {p : α → Prop} {x y : α} {xs : List α} {index : Nat}

theorem not_firstStray_nil : ¬FirstStray p [] index x := by
  intro h
  cases h.here

theorem firstStray_cons_of_neg (hy : ¬p y)
    : FirstStray p (y :: xs) index x ↔ index = 0 ∧ y = x := by
  constructor
  . intro h
    cases index with
    | zero => exact ⟨rfl, Option.some.inj h.here⟩
    | succ index => exact absurd (h.before 0 (Nat.succ_pos index) y rfl) hy
  . rintro ⟨rfl, rfl⟩
    exact ⟨rfl, hy, fun i hi => absurd hi (Nat.not_lt_zero i)⟩

theorem firstStray_cons_of_pos (hy : p y)
    : FirstStray p (y :: xs) index x ↔ ∃ i, index = i + 1 ∧ FirstStray p xs i x := by
  constructor
  . intro h
    cases index with
    | zero =>
      cases h.here
      exact absurd hy h.stray
    | succ index => exact ⟨index, rfl, h.here, h.stray, fun i hi => h.before (i + 1) (by omega)⟩
  . rintro ⟨i, rfl, h⟩
    refine ⟨h.here, h.stray, ?_⟩
    intro j hj
    cases j with
    | zero =>
      intro z hz
      cases hz
      exact hy
    | succ j => exact h.before j (by omega)

theorem FirstStray.mem (h : FirstStray p xs index x) : x ∈ xs :=
  List.mem_of_getElem? h.here

end FirstStray

section Utf8

variable {c : Char} {cs : List Char}

theorem toNat_charOfByte (b : UInt8) : (charOfByte b).toNat = b.toNat := by
  have hall : ∀ n < 256, (Char.ofNat n).toNat = n := by decide +kernel
  exact hall b.toNat b.toNat_lt

theorem charOfByte_ofNat (hc : c.toNat < 256) : charOfByte (UInt8.ofNat c.toNat) = c := by
  unfold charOfByte
  rw [UInt8.toNat_ofNat_of_lt' hc, Char.ofNat_toNat]

theorem utf8_ofList_append (cs ds : List Char)
    : utf8 (String.ofList (cs ++ ds)) = utf8 (String.ofList cs) ++ utf8 (String.ofList ds) := by
  unfold utf8
  rw [String.ofList_append, String.toByteArray_append, ByteArray.data_append]
  apply Array.toList_append

theorem utf8_singleton (c : Char) : utf8 (String.singleton c) = String.utf8EncodeChar c := by
  unfold utf8
  rw [String.singleton_eq_ofList, String.toByteArray_ofList, List.utf8Encode_singleton,
    List.data_toByteArray]

theorem utf8_ofList_cons (c : Char) (cs : List Char)
    : utf8 (String.ofList (c :: cs)) = utf8 (String.singleton c) ++ utf8 (String.ofList cs) := by
  rw [String.singleton_eq_ofList]
  exact utf8_ofList_append [c] cs

theorem utf8_singleton_ascii (hc : c.toNat < 128)
    : utf8 (String.singleton c) = [UInt8.ofNat c.toNat] := by
  have hle : c.val.toNat ≤ 127 := Nat.le_of_lt_succ hc
  rw [utf8_singleton, String.utf8EncodeChar, if_pos hle]
  rfl

theorem utf8_ofList_ascii (h : ∀ c ∈ cs, c.toNat < 128)
    : utf8 (String.ofList cs) = cs.map fun c => UInt8.ofNat c.toNat := by
  induction cs with
  | nil => rfl
  | cons c cs ih =>
    rw [utf8_ofList_cons, utf8_singleton_ascii (h c (by simp)), List.map_cons, ← ih]
    . rfl
    . intro d hd
      exact h d (by simp [hd])

theorem utf8_injective {s t : String} (h : utf8 s = utf8 t) : s = t := by
  have heq := ofUtf8?_utf8 s
  rw [h, ofUtf8?_utf8] at heq
  exact (Option.some.inj heq).symm

theorem toList_of_utf8_ascii {s : String} (h : ∀ b ∈ utf8 s, b.toNat < 128)
    : s.toList = (utf8 s).map charOfByte := by
  have hascii : ∀ c ∈ (utf8 s).map charOfByte, c.toNat < 128 := by
    intro c hc
    rcases List.mem_map.mp hc with ⟨b, hb, rfl⟩
    rw [toNat_charOfByte]
    exact h b hb
  have hbytes : utf8 (String.ofList ((utf8 s).map charOfByte)) = utf8 s := by
    rw [utf8_ofList_ascii hascii, List.map_map]
    simp [Function.comp_def, toNat_charOfByte]
  rw [← utf8_injective hbytes, String.toList_ofList]
  simp [hbytes]

theorem exists_leadByte (c : Char)
    : ∃ b bs, utf8 (String.singleton c) = b :: bs
        ∧ (b.toNat < 128 ↔ c.toNat < 128)
        ∧ (charOfByte b = c ↔ c.toNat < 128 ∨ c = 'Ã') := by
  have hcode : ∀ b, charOfByte b = c ↔ b.toNat = c.toNat := by
    intro b
    rw [← Char.toNat_inj, toNat_charOfByte]
  -- Of all characters outside ASCII this one has the code of its own first byte.
  have hexception : c = 'Ã' ↔ c.toNat = 0xc3 := by
    rw [← Char.toNat_inj]
    rfl
  have hvalid : c.toNat < 0xd800 ∨ (0xdfff < c.toNat ∧ c.toNat < 0x110000) := c.valid
  have hval : c.val.toNat = c.toNat := rfl
  simp only [hcode, hexception, utf8_singleton, String.utf8EncodeChar, hval]
  split
  . refine ⟨_, _, rfl, ?_⟩
    simp only [UInt8.toNat_ofNat']
    omega
  . split
    . have hdiv : c.toNat / 64 < 32 := by omega
      refine ⟨_, _, rfl, ?_⟩
      rw [UInt8.toNat_ofNat', Nat.mod_eq_of_lt hdiv, Nat.mod_eq_of_lt (by omega)]
      omega
    . split
      . refine ⟨_, _, rfl, ?_⟩
        simp only [UInt8.toNat_ofNat']
        omega
      . refine ⟨_, _, rfl, ?_⟩
        simp only [UInt8.toNat_ofNat']
        omega

theorem firstStray_utf8_iff {p : Char → Prop} (hp : ∀ c, p c → c.toNat < 128) (cs : List Char)
    : ∀ (index : Nat) (b : UInt8),
        FirstStray (p ∘ charOfByte) (utf8 (String.ofList cs)) index b
          ↔
        ∃ c, FirstStray p cs index c ∧ (utf8 (String.singleton c)).head? = some b := by
  induction cs with
  | nil =>
    intro index b
    constructor
    . intro h
      exact absurd h not_firstStray_nil
    . rintro ⟨c, h, -⟩
      exact absurd h not_firstStray_nil
  | cons c cs ih =>
    intro index b
    rw [utf8_ofList_cons]
    by_cases hc : p c
    -- A character in place is one byte, so that the places do not drift apart.
    . have hbyte : p (charOfByte (UInt8.ofNat c.toNat)) := by
        rwa [charOfByte_ofNat (Nat.lt_trans (hp c hc) (by decide))]
      rw [utf8_singleton_ascii (hp c hc), List.singleton_append,
        firstStray_cons_of_pos (p := p ∘ charOfByte) hbyte]
      simp only [firstStray_cons_of_pos hc, ih]
      constructor
      . rintro ⟨i, rfl, d, hd, hb⟩
        exact ⟨d, ⟨i, rfl, hd⟩, hb⟩
      . rintro ⟨d, ⟨i, rfl, hd⟩, hb⟩
        exact ⟨i, rfl, d, hd, hb⟩
    . rcases exists_leadByte c with ⟨lead, bs, hutf8, hascii, hcode⟩
      have hlead : ¬p (charOfByte lead) := by
        intro h
        have hlt := hp _ h
        rw [toNat_charOfByte, hascii] at hlt
        rw [hcode.mpr (.inl hlt)] at h
        exact hc h
      rw [hutf8, List.cons_append, firstStray_cons_of_neg (p := p ∘ charOfByte) hlead]
      simp only [firstStray_cons_of_neg hc]
      constructor
      . rintro ⟨rfl, rfl⟩
        exact ⟨c, ⟨rfl, rfl⟩, by rw [hutf8]; rfl⟩
      . rintro ⟨d, ⟨rfl, rfl⟩, hb⟩
        rw [hutf8] at hb
        exact ⟨rfl, Option.some.inj hb⟩

end Utf8

end TokenGateway.Text
