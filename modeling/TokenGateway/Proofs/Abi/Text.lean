import TokenGateway.Proofs.Abi.RoundTrip

namespace TokenGateway.Abi

variable {data : Bytes} {s : String}

theorem unpack_text_eq_ok {name : String} {binding : Binding}
    (h : unpack [⟨name, .string⟩] data = .ok binding)
    : ∃ s, binding = ⟨[(name, .string s)]⟩ := by
  have hholds := (unpack_eq_ok_iff.mp h).2.2
  rcases hholds.entries 0 (by simp) with ⟨v, hentry, hkind, -⟩
  rcases List.length_eq_one_iff.mp hholds.size with ⟨entry, hentries⟩
  rcases binding with ⟨entries⟩
  dsimp only at hentry hentries
  rw [hentries, List.getElem?_cons_zero, Option.some.injEq] at hentry
  cases v with
  | string s =>
    refine ⟨s, ?_⟩
    rw [hentries, hentry]
    rfl
  | _ => simp [Value.kind] at hkind

theorem decodeString_eq_ok_iff
    : decodeString data = .ok s
        ↔
      unpack [⟨"value", .string⟩] data = .ok ⟨[("value", .string s)]⟩ := by
  unfold decodeString
  rw [Except.bind_eq_ok_iff]
  constructor
  . intro h
    rcases h with ⟨binding, hunpack, hresult⟩
    rcases unpack_text_eq_ok hunpack with ⟨s', rfl⟩
    cases hresult
    exact hunpack
  . intro h
    exact ⟨_, h, rfl⟩

theorem length_lt_of_decodeString (h : decodeString data = .ok s)
    : (Text.utf8 s).length < 2 ^ 64 := by
  rcases unpack_eq_ok_iff.mp (decodeString_eq_ok_iff.mp h) with ⟨-, hfits, hholds⟩
  rcases hholds.entries 0 (by simp) with ⟨v, hentry, -, hdenotes⟩
  have hlength : wordAt data (wordAt data 0) < 2 ^ 64 := (hfits 0 (by simp)).2
  cases hentry
  have hpayload : payloadAt data 0 = Text.utf8 s := hdenotes
  rw [← hpayload, payloadAt, Bytes.length_slice]
  omega

theorem decodeString_pack (hlength : (Text.utf8 s).length < 2 ^ 64)
    : decodeString (pack [.string s]) = .ok s := by
  rw [decodeString_eq_ok_iff]
  apply unpack_pack
  . rfl
  . apply addressable_singleton hlength

/--
Whether a buffer holds a text: its one head slot leads to a word behind it, this word is the number
of the bytes that follow it, and these spell the text.
-/
structure HoldsText (data : Bytes) (s : String) : Prop where
  aligned : data.length % 32 = 0
  nonempty : 0 < data.length
  behind : 32 ≤ wordAt data 0
  pointer : wordAt data 0 + 32 ≤ data.length
  text : wordAt data 0 + 32 + wordAt data (wordAt data 0) ≤ data.length
  payload : Bytes.slice data (wordAt data 0 + 32) (wordAt data (wordAt data 0)) = Text.utf8 s

theorem HoldsText.admissible (h : HoldsText data s) : Admissible data 32 0 .string :=
  ⟨h.behind, h.pointer, h.text, s, h.payload.symm⟩

theorem decodeString_eq_ok_iff_holdsText
    : decodeString data = .ok s ↔ HoldsText data s ∧ PointersFit data 0 .string := by
  rw [decodeString_eq_ok_iff, unpack_eq_ok_iff]
  constructor
  . intro h
    rcases h with ⟨htuple, hfits, hholds⟩
    rcases hholds.entries 0 (by simp) with ⟨v, hentry, -, hpayload⟩
    rcases htuple.slots 0 (by simp) with ⟨hbehind, hpointer, htext, -⟩
    have hheads := htuple.heads
    cases hentry
    simp only [List.length_singleton, Nat.mul_one] at hheads
    exact ⟨⟨htuple.aligned, by omega, hbehind, hpointer, htext, hpayload⟩, hfits 0 (by simp)⟩
  . intro h
    rcases h with ⟨hholds, hfits⟩
    have haligned := hholds.aligned
    have hnonempty := hholds.nonempty
    refine ⟨⟨haligned, ?_, by simp, ?_⟩, ?_, ⟨rfl, ?_⟩⟩
    . rw [List.length_singleton]
      omega
    . intro i hi
      obtain rfl := Nat.lt_one_iff.mp hi
      exact hholds.admissible
    . intro i hi
      obtain rfl := Nat.lt_one_iff.mp hi
      exact hfits
    . intro i hi
      obtain rfl := Nat.lt_one_iff.mp hi
      exact ⟨_, rfl, rfl, hholds.payload⟩

theorem decodeString_eq_ok_iff_of_length_lt (hlength : data.length < 2 ^ 63)
    : decodeString data = .ok s ↔ HoldsText data s := by
  rw [decodeString_eq_ok_iff_holdsText]
  constructor
  . intro h
    exact h.1
  . intro h
    exact ⟨h, pointersFit_of_admissible hlength h.admissible⟩

theorem HoldsText.length_utf8 (h : HoldsText data s)
    : (Text.utf8 s).length = wordAt data (wordAt data 0) := by
  rw [← h.payload, Bytes.length_slice_of_le h.text]

theorem length_pack_text (s : String)
    : (pack [.string s]).length = 64 + 32 * (((Text.utf8 s).length + 31) / 32) := by
  rw [length_pack, tails, List.flatMap_singleton, Value.tail, length_textTail, paddedLength,
    slotLength, List.length_singleton]
  omega

theorem HoldsText.length_pack_le (h : HoldsText data s)
    : (pack [.string s]).length ≤ data.length := by
  have haligned := h.aligned
  have hbehind := h.behind
  have htext := h.text
  rw [length_pack_text, h.length_utf8]
  -- The text may end anywhere in its last slot, and the buffer has the whole of this slot.
  omega

theorem length_pack_le_of_decodeString (h : decodeString data = .ok s)
    : (pack [.string s]).length ≤ data.length :=
  (decodeString_eq_ok_iff_holdsText.mp h).1.length_pack_le

end TokenGateway.Abi
