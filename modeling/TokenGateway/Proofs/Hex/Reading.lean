import TokenGateway.Proofs.Except
import TokenGateway.Proofs.Hex
import TokenGateway.Proofs.Text.Denotation

namespace TokenGateway.Hex

def IsDigit (c : Char) : Prop :=
  ∃ v, Text.IsDigit 16 c v

abbrev IsDigitByte : UInt8 → Prop :=
  IsDigit ∘ Text.charOfByte

inductive DigitPairs : Bytes → Bytes → Prop
  | nil : DigitPairs [] []
  | cons {hi lo b : UInt8} {high low : Nat} {body bs : Bytes}
      (hhigh : Text.IsDigit 16 (Text.charOfByte hi) high)
      (hlow : Text.IsDigit 16 (Text.charOfByte lo) low)
      (hbyte : b.toNat = 16 * high + low) (hrest : DigitPairs body bs)
    : DigitPairs (hi :: lo :: body) (b :: bs)

def Marked (text : String) (cs : List Char) : Prop :=
  ∃ mark, (mark = 'x' ∨ mark = 'X') ∧ text.toList = '0' :: mark :: cs

/--
Whether a text is another one without the mark in front, if there is one. A second mark stays.
-/
inductive Unmarks (text rest : String) : Prop
  | marked (h : Marked text rest.toList)
  | bare (h : ¬∃ cs, Marked text cs) (hrest : rest = text)

variable {text rest input : String} {body bs : Bytes} {b v : UInt8} {c : Char} {index i : Nat}

section Mark

theorem unmark_of_marked {cs : List Char} (h : Marked text cs) : unmark text.toList = cs := by
  rcases h with ⟨mark, hmark, htext⟩
  rw [htext]
  rcases hmark with rfl | rfl
  . rfl
  . rfl

theorem unmark_of_bare (h : ¬∃ cs, Marked text cs) : unmark text.toList = text.toList := by
  unfold unmark
  split
  . next cs heq => exact absurd ⟨cs, 'x', .inl rfl, heq⟩ h
  . next cs heq => exact absurd ⟨cs, 'X', .inr rfl, heq⟩ h
  . rfl

theorem unmarks_iff : Unmarks text rest ↔ rest = stripMark text := by
  unfold stripMark
  constructor
  . intro h
    cases h with
    | marked h => rw [unmark_of_marked h, String.ofList_toList]
    | bare h hrest => rw [unmark_of_bare h, String.ofList_toList, hrest]
  . rintro rfl
    by_cases h : ∃ cs, Marked text cs
    . rcases h with ⟨cs, h⟩
      refine .marked ?_
      rwa [unmark_of_marked h, String.toList_ofList]
    . refine .bare h ?_
      rw [unmark_of_bare h, String.ofList_toList]

theorem exists_unmark (cs : List Char)
    : ∃ mark ∈ [[], ['0', 'x'], ['0', 'X']], cs = mark ++ unmark cs := by
  unfold unmark
  split
  . exact ⟨['0', 'x'], by simp, rfl⟩
  . exact ⟨['0', 'X'], by simp, rfl⟩
  . exact ⟨[], by simp, rfl⟩

theorem length_stripMark_le (text : String)
    : (Text.utf8 (stripMark text)).length ≤ (Text.utf8 text).length := by
  rcases exists_unmark text.toList with ⟨mark, -, htext⟩
  have hutf8 := Text.utf8_ofList_append mark (unmark text.toList)
  rw [← htext, String.ofList_toList] at hutf8
  rw [hutf8, List.length_append]
  unfold stripMark
  omega

end Mark

section Digit

theorem digitValue_unique {m n : Nat} (hm : Text.IsDigit 16 c m) (hn : Text.IsDigit 16 c n)
    : m = n := by
  rw [← Text.digitValue?_eq_some_iff (Nat.le_refl 16)] at hm hn
  rw [hm] at hn
  exact Option.some.inj hn

theorem toNat_lt_of_isDigit (h : IsDigit c) : c.toNat < 128 := by
  rcases h with ⟨v, hv⟩
  rw [← Text.digitValue?_eq_some_iff (Nat.le_refl 16)] at hv
  exact Text.toNat_lt_of_digitValue? hv

theorem nibble?_eq_digitValue? (b : UInt8)
    : nibble? b = (Text.digitValue? 16 (Text.charOfByte b)).map UInt8.ofNat := by
  have hall : ∀ n < 256,
      nibble? (UInt8.ofNat n) = (Text.digitValue? 16 (Char.ofNat n)).map UInt8.ofNat := by
    decide +kernel
  have := hall b.toNat b.toNat_lt
  rwa [UInt8.ofNat_toNat] at this

theorem nibble?_eq_some_iff
    : nibble? b = some v ↔ Text.IsDigit 16 (Text.charOfByte b) v.toNat := by
  rw [nibble?_eq_digitValue?, Option.map_eq_some_iff]
  simp only [Text.digitValue?_eq_some_iff (Nat.le_refl 16)]
  constructor
  . rintro ⟨n, hn, rfl⟩
    have hlt : n < 16 := hn.1
    rwa [UInt8.toNat_ofNat', Nat.mod_eq_of_lt (by omega)]
  . intro h
    exact ⟨v.toNat, h, UInt8.ofNat_toNat⟩

theorem nibble?_eq_none_iff : nibble? b = none ↔ ¬IsDigitByte b := by
  rw [nibble?_eq_digitValue?, Option.map_eq_none_iff, Option.eq_none_iff_forall_ne_some]
  simp only [ne_eq, Text.digitValue?_eq_some_iff (Nat.le_refl 16)]
  exact not_exists.symm

theorem isDigit_of_nibble? (h : nibble? b = some v) : IsDigitByte b :=
  ⟨v.toNat, nibble?_eq_some_iff.mp h⟩

end Digit

theorem DigitPairs.length_eq (h : DigitPairs body bs) : body.length = 2 * bs.length := by
  induction h with
  | nil => rfl
  | cons hhigh hlow hbyte hrest ih =>
    simp only [List.length_cons, ih]
    omega

theorem DigitPairs.isDigit (h : DigitPairs body bs) : ∀ b ∈ body, IsDigitByte b := by
  induction h with
  | nil => simp
  | cons hhigh hlow hbyte hrest ih =>
    simp only [List.forall_mem_cons]
    exact ⟨⟨_, hhigh⟩, ⟨_, hlow⟩, ih⟩

section ReadPairs

theorem digitPairs_nil_iff : DigitPairs [] bs ↔ [] = bs := by
  constructor
  . intro h
    cases h
    rfl
  . rintro rfl
    exact .nil

theorem digitPairs_cons_iff {hi lo high low : UInt8} (hhigh : nibble? hi = some high)
    (hlow : nibble? lo = some low)
    : DigitPairs (hi :: lo :: body) bs
        ↔
      ∃ tail, DigitPairs body tail ∧ (high * 16 + low) :: tail = bs := by
  have hhigh' := nibble?_eq_some_iff.mp hhigh
  have hlow' := nibble?_eq_some_iff.mp hlow
  have hbyte : (high * 16 + low).toNat = 16 * high.toNat + low.toNat := by
    have := hhigh'.1
    have := hlow'.1
    rw [toNat_mul_sixteen_add]
    omega
  constructor
  . intro h
    cases h with
    | cons hm hn hb hrest =>
      rw [digitValue_unique hm hhigh', digitValue_unique hn hlow', ← hbyte] at hb
      exact ⟨_, hrest, congrArg (· :: _) (UInt8.toNat_inj.mp hb).symm⟩
  . rintro ⟨tail, htail, rfl⟩
    exact .cons hhigh' hlow' hbyte htail

theorem eq_nil_of_short (hshort : ∀ hi lo rest, body = hi :: lo :: rest → False)
    (heven : body.length % 2 = 0)
    : body = [] := by
  match body, hshort, heven with
  | [], _, _ => rfl
  | hi :: lo :: rest, hshort, _ => exact absurd rfl (hshort hi lo rest)

-- A last byte without a partner is never looked at, so there must be none.
variable (heven : body.length % 2 = 0)

include heven

theorem readPairs_eq_ok_iff : readPairs index body = .ok bs ↔ DigitPairs body bs := by
  fun_induction readPairs index body generalizing bs with
  | case1 index hi lo rest hhi =>
    simp only [reduceCtorEq, false_iff]
    intro h
    exact nibble?_eq_none_iff.mp hhi (h.isDigit hi (by simp))
  | case2 index hi lo rest high hlo hhi =>
    simp only [reduceCtorEq, false_iff]
    intro h
    exact nibble?_eq_none_iff.mp hlo (h.isDigit lo (by simp))
  | case3 index hi lo rest high low hlo hhi ih =>
    rw [digitPairs_cons_iff hhi hlo, Except.map_eq_ok_iff]
    rw [List.length_cons, List.length_cons, Nat.add_assoc, Nat.add_mod_right] at heven
    simp only [ih heven]
  | case4 body index hshort =>
    rw [eq_nil_of_short hshort heven, digitPairs_nil_iff, Except.ok.injEq]

theorem readPairs_eq_error_iff
    : readPairs index body = .error (b, i)
        ↔
      ∃ k, i = index + k ∧ Text.FirstStray IsDigitByte body k b := by
  fun_induction readPairs index body with
  | case1 index hi lo rest hhi =>
    have hhi' : ¬IsDigitByte hi := nibble?_eq_none_iff.mp hhi
    simp [Text.firstStray_cons_of_neg hhi', eq_comm, and_comm]
  | case2 index hi lo rest high hlo hhi =>
    have hlo' : ¬IsDigitByte lo := nibble?_eq_none_iff.mp hlo
    have hhi' : IsDigitByte hi := isDigit_of_nibble? hhi
    simp [Text.firstStray_cons_of_pos hhi', Text.firstStray_cons_of_neg hlo', eq_comm, and_comm]
  | case3 index hi lo rest high low hlo hhi ih =>
    rw [List.length_cons, List.length_cons, Nat.add_assoc, Nat.add_mod_right] at heven
    have hlo' : IsDigitByte lo := isDigit_of_nibble? hlo
    have hhi' : IsDigitByte hi := isDigit_of_nibble? hhi
    rw [Except.map_eq_error_iff, ih heven]
    simp only [Text.firstStray_cons_of_pos hhi', Text.firstStray_cons_of_pos hlo']
    constructor
    . rintro ⟨k, rfl, h⟩
      exact ⟨k + 2, by omega, k + 1, rfl, k, rfl, h⟩
    . rintro ⟨-, rfl, -, rfl, k, rfl, h⟩
      exact ⟨k, by omega, h⟩
  | case4 body index hshort =>
    simp [eq_nil_of_short hshort heven, Text.not_firstStray_nil]

end ReadPairs

section Decode

theorem decode_of_odd (hodd : (Text.utf8 (stripMark text)).length % 2 = 1)
    : decode text = .error (.oddLength text) := by
  unfold decode
  dsimp only
  rw [if_pos hodd]

theorem decode_of_even (heven : (Text.utf8 (stripMark text)).length % 2 = 0)
    : decode text
        =
      (readPairs 0 (Text.utf8 (stripMark text))).mapError fun e =>
        .invalidCharacter text (Text.charOfByte e.1) e.2 := by
  unfold decode
  dsimp only
  rw [if_neg (by omega)]
  cases readPairs 0 (Text.utf8 (stripMark text)) with
  | ok bs => rfl
  | error e => rfl

theorem decode_eq_ok_iff : decode text = .ok bs ↔ DigitPairs (Text.utf8 (stripMark text)) bs := by
  rcases Nat.mod_two_eq_zero_or_one (Text.utf8 (stripMark text)).length with heven | hodd
  . rw [decode_of_even heven, Except.mapError_eq_ok_iff, readPairs_eq_ok_iff heven]
  . rw [decode_of_odd hodd]
    simp only [reduceCtorEq, false_iff]
    intro h
    have := h.length_eq
    omega

theorem length_of_decode (h : decode text = .ok bs) : 2 * bs.length ≤ (Text.utf8 text).length := by
  have hstrip := length_stripMark_le text
  rw [decode_eq_ok_iff] at h
  have hlength := h.length_eq
  omega

theorem decode_eq_oddLength_iff
    : decode text = .error (.oddLength input)
        ↔
      input = text ∧ (Text.utf8 (stripMark text)).length % 2 = 1 := by
  rcases Nat.mod_two_eq_zero_or_one (Text.utf8 (stripMark text)).length with heven | hodd
  . rw [decode_of_even heven, Except.mapError_eq_error_iff]
    simp [heven]
  . rw [decode_of_odd hodd]
    simp [hodd, eq_comm]

theorem decode_eq_invalidCharacter_iff
    : decode text = .error (.invalidCharacter input c index)
        ↔
      input = text
        ∧ (Text.utf8 (stripMark text)).length % 2 = 0
        ∧ ∃ b, Text.FirstStray IsDigitByte (Text.utf8 (stripMark text)) index b
          ∧ c = Text.charOfByte b := by
  rcases Nat.mod_two_eq_zero_or_one (Text.utf8 (stripMark text)).length with heven | hodd
  . rw [decode_of_even heven, Except.mapError_eq_error_iff]
    simp only [Prod.exists, readPairs_eq_error_iff heven, Nat.zero_add, exists_eq_left',
      Error.invalidCharacter.injEq, heven, true_and]
    constructor
    . rintro ⟨b, i, hstray, rfl, rfl, rfl⟩
      exact ⟨rfl, b, hstray, rfl⟩
    . rintro ⟨rfl, b, hstray, rfl⟩
      exact ⟨b, index, hstray, rfl, rfl, rfl⟩
  . rw [decode_of_odd hodd]
    simp [hodd]

theorem exists_decode_iff
    : (∃ bs, decode text = .ok bs)
        ↔
      (Text.utf8 (stripMark text)).length % 2 = 0
        ∧ ∀ b ∈ Text.utf8 (stripMark text), IsDigitByte b := by
  constructor
  . rintro ⟨bs, h⟩
    rw [decode_eq_ok_iff] at h
    have hlength := h.length_eq
    exact ⟨by omega, h.isDigit⟩
  . rintro ⟨heven, hdigits⟩
    cases h : decode text with
    | ok bs => exact ⟨bs, rfl⟩
    | error e =>
      cases e with
      | oddLength input =>
        have hodd := (decode_eq_oddLength_iff.mp h).2
        omega
      | invalidCharacter input c index =>
        rcases decode_eq_invalidCharacter_iff.mp h with ⟨-, -, b, hstray, -⟩
        exact absurd (hdigits b hstray.mem) hstray.stray

end Decode

theorem decode_classifies (text : String)
    : let body := Text.utf8 (stripMark text)
      (∀ rest, Unmarks text rest ↔ rest = stripMark text)
        ∧ (∀ input, decode text = .error (.oddLength input) ↔ input = text ∧ body.length % 2 = 1)
        ∧ ((∃ bs, decode text = .ok bs)
            ↔
          body.length % 2 = 0 ∧ ∀ b ∈ body, IsDigitByte b)
        ∧ (∀ bs, decode text = .ok bs ↔ DigitPairs body bs ∧ bs.length = body.length / 2)
        ∧ ∀ input c index, decode text = .error (.invalidCharacter input c index)
            ↔
          input = text
            ∧ body.length % 2 = 0
            ∧ ∃ b, Text.FirstStray IsDigitByte body index b
              ∧ c = Text.charOfByte b := by
  intro body
  refine ⟨fun rest => unmarks_iff, fun input => decode_eq_oddLength_iff, exists_decode_iff, ?_,
    fun input c index => decode_eq_invalidCharacter_iff⟩
  intro bs
  rw [decode_eq_ok_iff]
  constructor
  . intro h
    have hlength : body.length = 2 * bs.length := h.length_eq
    exact ⟨h, by omega⟩
  . intro h
    exact h.1

example : decode "0x0x12" = .error (.invalidCharacter "0x0x12" 'x' 1) := by
  decide +kernel

/--
What is told of a text with a byte that is no digit: the place of the first character that is no
digit, and for the character itself the byte that it begins with. This is the character if it is
ASCII, and else in one case only.
-/
theorem decode_tells_character (h : decode text = .error (.invalidCharacter input c index))
    : input = text
        ∧ ¬IsDigit c
        ∧ ∃ d, Text.FirstStray IsDigit (stripMark text).toList index d
          ∧ (∃ b, (Text.utf8 (String.singleton d)).head? = some b ∧ c = Text.charOfByte b)
          ∧ (c = d ↔ d.toNat < 128 ∨ d = 'Ã') := by
  rcases decode_eq_invalidCharacter_iff.mp h with ⟨hinput, -, b, hbyte, rfl⟩
  have hstray := hbyte.stray
  rw [← String.ofList_toList (s := stripMark text),
    Text.firstStray_utf8_iff fun c => toNat_lt_of_isDigit] at hbyte
  rcases hbyte with ⟨d, hd, hhead⟩
  rcases Text.exists_leadByte d with ⟨lead, bs, hutf8, -, hcode⟩
  refine ⟨hinput, hstray, d, hd, ⟨b, hhead, rfl⟩, ?_⟩
  rw [hutf8] at hhead
  cases hhead
  exact hcode

theorem decode_tells_letter
    : decode "0xagé" = .error (.invalidCharacter "0xagé" 'g' 1)
        ∧ ∃ d, Text.FirstStray IsDigit (stripMark "0xagé").toList 1 d
          ∧ ('g' = d ↔ d.toNat < 128 ∨ d = 'Ã') := by
  have hdecode : decode "0xagé" = .error (.invalidCharacter "0xagé" 'g' 1) := by decide +kernel
  rcases decode_tells_character hdecode with ⟨-, -, d, hd, -, hcode⟩
  exact ⟨hdecode, d, hd, hcode⟩

theorem decode_tells_leadByte
    : decode "0xabé" = .error (.invalidCharacter "0xabé" 'Ã' 2)
        ∧ (stripMark "0xabé").toList[2]? = some 'é'
        ∧ 'Ã' ≠ 'é' := by
  decide +kernel

end TokenGateway.Hex
