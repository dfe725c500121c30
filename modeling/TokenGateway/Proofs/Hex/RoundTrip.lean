import Mathlib.Logic.Function.Defs
import TokenGateway.Proofs.Hex.Reading

/-!
What is read from a text and written again is the text with one mark and its digits in lower case.
-/

namespace TokenGateway.Hex

variable {text : String} {body bs : Bytes} {v : UInt8}

theorem digit_eq_digitChar (hv : v.toNat < 16) : digit v = v.toNat.digitChar := by
  have hall : ∀ n < 16, digit (UInt8.ofNat n) = n.digitChar := by decide
  have := hall v.toNat hv
  rwa [UInt8.ofNat_toNat] at this

theorem DigitPairs.map_toLower (h : DigitPairs body bs)
    : (body.map Text.charOfByte).map Char.toLower = digits bs := by
  induction h with
  | nil => rfl
  | @cons hi lo b high low body bs hhigh hlow hbyte hrest ih =>
    have hlt := hlow.1
    have hdiv : (b / 16).toNat = high := by
      rw [toNat_div_sixteen]
      omega
    have hmod : (b % 16).toNat = low := by
      rw [toNat_mod_sixteen]
      omega
    rw [digits_cons, List.map_cons, List.map_cons, List.map_cons, List.map_cons, ih, hhigh.2,
      hlow.2, digit_eq_digitChar (toNat_div_lt b), digit_eq_digitChar (toNat_mod_lt b), hdiv, hmod]

theorem decode_eq_ok_iff_toLower
    : decode text = .ok bs ↔ (stripMark text).toList.map Char.toLower = digits bs := by
  constructor
  . intro h
    rw [decode_eq_ok_iff] at h
    have hascii : ∀ b ∈ Text.utf8 (stripMark text), b.toNat < 128 := by
      intro b hb
      rw [← Text.toNat_charOfByte]
      exact toNat_lt_of_isDigit (h.isDigit b hb)
    rw [Text.toList_of_utf8_ascii hascii]
    exact h.map_toLower
  . intro h
    rcases exists_unmark text.toList with ⟨mark, hmark, htext⟩
    have hstrip : (stripMark text).toList = unmark text.toList := String.toList_ofList
    rw [hstrip] at h
    exact decode_of_spells ⟨mark, _, htext, hmark, h⟩

theorem toList_toLower (s : String) : s.toLower.toList = s.toList.map Char.toLower :=
  String.toList_map

theorem encode_injective : Function.Injective encode := by
  intro bs bs' h
  have hdecode := decode_encode bs
  rw [h, decode_encode] at hdecode
  exact (Except.ok.inj hdecode).symm

theorem encode_eq_of_decode (h : decode text = .ok bs)
    : encode bs = "0x" ++ (stripMark text).toLower := by
  rw [decode_eq_ok_iff_toLower] at h
  apply String.toList_inj.mp
  unfold encode
  rw [String.toList_ofList, String.toList_append, toList_toLower, h]
  rfl

theorem encode_inverse_decode
    : (∀ bs, decode (encode bs) = .ok bs)
        ∧ (∀ text bs, decode text = .ok bs → encode bs = "0x" ++ (stripMark text).toLower)
        ∧ Function.Injective encode
        ∧ ∀ text text' bs, decode text = .ok bs →
            (decode text' = .ok bs ↔ (stripMark text').toLower = (stripMark text).toLower) := by
  refine ⟨decode_encode, fun text bs => encode_eq_of_decode, encode_injective, ?_⟩
  intro text text' bs h
  rw [decode_eq_ok_iff_toLower] at h ⊢
  rw [← h, ← String.toList_inj, toList_toLower, toList_toLower]

theorem encode_of_mixedCase
    : decode "0XaBcD" = .ok [0xab, 0xcd]
        ∧ encode [0xab, 0xcd] = "0x" ++ (stripMark "0XaBcD").toLower
        ∧ decode "AbCd" = .ok [0xab, 0xcd] := by
  have hdecode : decode "0XaBcD" = .ok [0xab, 0xcd] := by decide +kernel
  rcases encode_inverse_decode with ⟨-, hencode, -, hunique⟩
  refine ⟨hdecode, hencode _ _ hdecode, ?_⟩
  rw [hunique "0XaBcD" "AbCd" _ hdecode, ← String.toList_inj, toList_toLower, toList_toLower]
  decide +kernel

end TokenGateway.Hex
