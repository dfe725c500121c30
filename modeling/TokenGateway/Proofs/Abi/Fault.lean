import TokenGateway.Proofs.Abi.Tuple

namespace TokenGateway.Abi

def Readable (data : Bytes) (headLength position : Nat) (kind : Kind) : Prop :=
  Admissible data headLength position kind ∧ PointersFit data position kind

structure TextInside (data : Bytes) (headLength position : Nat) : Prop where
  behind : headLength ≤ wordAt data position
  inside : wordAt data position + 32 + wordAt data (wordAt data position) ≤ data.length
  fits : PointersFit data position .string

/--
The ways in which the text that a head slot leads to is out of reach, each one with what is told of
it. Of several the first one is told.
-/
inductive LeadsOutside (data : Bytes) (headLength position : Nat) : Reach → Prop
  | offsetTooLarge (hoffset : 2 ^ 64 ≤ wordAt data position)
    : LeadsOutside data headLength position (.tooLarge .offset (wordAt data position))
  | insideHead (hoffset : wordAt data position < 2 ^ 64) (hhead : wordAt data position < headLength)
    : LeadsOutside data headLength position (.insideHead (wordAt data position) headLength)
  | wordOutside (hoffset : wordAt data position < 2 ^ 64)
    (hbehind : headLength ≤ wordAt data position)
    (hword : data.length < wordAt data position + 32)
    : LeadsOutside data headLength position (.slotOutside .length (wordAt data position))
  | lengthTooLarge (hoffset : wordAt data position < 2 ^ 64)
    (hbehind : headLength ≤ wordAt data position)
    (hword : wordAt data position + 32 ≤ data.length)
    (hlength : 2 ^ 64 ≤ wordAt data (wordAt data position))
    : LeadsOutside data headLength position
        (.tooLarge .length (wordAt data (wordAt data position)))
  | textOutside (hoffset : wordAt data position < 2 ^ 64)
    (hbehind : headLength ≤ wordAt data position)
    (hword : wordAt data position + 32 ≤ data.length)
    (hlength : wordAt data (wordAt data position) < 2 ^ 64)
    (htext : data.length < wordAt data position + 32 + wordAt data (wordAt data position))
    : LeadsOutside data headLength position
        (.textOutside (wordAt data (wordAt data position)) (wordAt data position + 32))

inductive ParamFault (data : Bytes) (headLength position : Nat) (param : Param) : Error → Prop
  | dirty (hstatic : param.kind ≠ .string)
    (hslot : ¬Admissible data headLength position param.kind)
    : ParamFault data headLength position param
        (.dirtySlot param.name param.kind (slotAt data position))
  | outOfReach {reach : Reach} (htext : param.kind = .string)
    (hreach : LeadsOutside data headLength position reach)
    : ParamFault data headLength position param (.outOfBounds param.name data.length reach)
  | noText (htext : param.kind = .string) (hinside : TextInside data headLength position)
    (hspells : ∀ s, Text.utf8 s ≠ payloadAt data position)
    : ParamFault data headLength position param
        (.invalidUtf8 param.name (payloadAt data position))

variable {data : Bytes} {headLength position index : Nat} {param : Param} {e : Error}
  {reach : Reach}

theorem readStatic_eq_error_iff {name : String} {kind : Kind} {slot : Bytes}
    : readStatic name kind slot = .error e
        ↔
      (∀ v, readStatic name kind slot ≠ .ok v) ∧ e = .dirtySlot name kind slot := by
  unfold readStatic
  dsimp only
  split
  . simp
  . simp [eq_comm]

theorem readParam_eq_error_iff_of_static (hslot : index * 32 + 32 ≤ data.length)
    (hstatic : param.kind ≠ .string)
    : readParam data headLength index param = .error e
        ↔
      ¬Admissible data headLength (index * 32) param.kind
        ∧ e = .dirtySlot param.name param.kind (slotAt data (index * 32)) := by
  rw [readParam_of_static hstatic, readStatic_eq_error_iff]
  have hok : (∀ v, readStatic param.name param.kind (slotAt data (index * 32)) ≠ .ok v)
      ↔ ¬Admissible data headLength (index * 32) param.kind := by
    simp only [ne_eq, readStatic_eq_ok_iff headLength hslot hstatic]
    constructor
    . intro h hadmissible
      rcases exists_denotes hslot hadmissible with ⟨v, hkind, hdenotes⟩
      exact h v ⟨hadmissible, hkind, hdenotes⟩
    . intro h v hv
      exact h hv.1
  rw [hok]

theorem textInside_or_leadsOutside (data : Bytes) (headLength position : Nat)
    : TextInside data headLength position ∨ ∃ reach, LeadsOutside data headLength position reach := by
  by_cases hoffset : wordAt data position < 2 ^ 64
  . by_cases hbehind : headLength ≤ wordAt data position
    . by_cases hword : wordAt data position + 32 ≤ data.length
      . by_cases hlength : wordAt data (wordAt data position) < 2 ^ 64
        . by_cases htext : wordAt data position + 32 + wordAt data (wordAt data position)
              ≤ data.length
          . exact .inl ⟨hbehind, htext, hoffset, hlength⟩
          . exact .inr ⟨_, .textOutside hoffset hbehind hword hlength (by omega)⟩
        . exact .inr ⟨_, .lengthTooLarge hoffset hbehind hword (by omega)⟩
      . exact .inr ⟨_, .wordOutside hoffset hbehind (by omega)⟩
    . exact .inr ⟨_, .insideHead hoffset (by omega)⟩
  . exact .inr ⟨_, .offsetTooLarge (by omega)⟩

theorem readPointer_of_outside {pointer : Pointer} (h : data.length < position + 32)
    : readPointer data position pointer = .error (.slotOutside pointer position) := by
  unfold readPointer slotLength
  rw [if_neg (by omega)]

theorem readPointer_of_tooLarge {pointer : Pointer} (hslot : position + 32 ≤ data.length)
    (h : 2 ^ 64 ≤ wordAt data position)
    : readPointer data position pointer = .error (.tooLarge pointer (wordAt data position)) := by
  have htoo : ¬Bytes.toNat (Bytes.slice data position 32) < Nat.pow 2 64 := Nat.not_lt.mpr h
  unfold readPointer slotLength
  dsimp only
  rw [if_pos hslot, if_neg htoo]
  rfl

theorem readPayload_of_offset {offset : Nat}
    (hoffset : readPointer data (index * 32) .offset = .ok offset)
    (hbehind : headLength ≤ offset)
    : readPayload data headLength index
        =
      (readPointer data offset .length >>= fun length =>
        if offset + 32 + length ≤ data.length then
          .ok (Bytes.slice data (offset + 32) length)
        else
          .error (.textOutside length (offset + 32))) := by
  unfold readPayload slotLength
  rw [hoffset, Except.ok_bind, if_neg (Nat.not_lt.mpr hbehind)]
  rfl

section Text

variable (hslot : index * 32 + 32 ≤ data.length)

include hslot

theorem readPayload_of_textInside (h : TextInside data headLength (index * 32))
    : readPayload data headLength index = .ok (payloadAt data (index * 32)) := by
  have hinside := h.inside
  rw [readPayload_eq_ok_iff hslot]
  exact ⟨h.behind, by omega, hinside, h.fits, rfl⟩

theorem readPayload_of_leadsOutside (h : LeadsOutside data headLength (index * 32) reach)
    : readPayload data headLength index = .error reach := by
  have hpointer (hoffset : wordAt data (index * 32) < 2 ^ 64)
      : readPointer data (index * 32) .offset = .ok (wordAt data (index * 32)) :=
    readPointer_eq_ok_iff.mpr ⟨hslot, rfl, hoffset⟩
  cases h with
  | offsetTooLarge hoffset =>
    unfold readPayload slotLength
    rw [readPointer_of_tooLarge hslot hoffset, Except.error_bind]
  | insideHead hoffset hhead =>
    unfold readPayload slotLength
    rw [hpointer hoffset, Except.ok_bind, if_pos hhead]
    rfl
  | wordOutside hoffset hbehind hword =>
    rw [readPayload_of_offset (hpointer hoffset) hbehind, readPointer_of_outside hword,
      Except.error_bind]
  | lengthTooLarge hoffset hbehind hword hlength =>
    rw [readPayload_of_offset (hpointer hoffset) hbehind, readPointer_of_tooLarge hword hlength,
      Except.error_bind]
  | textOutside hoffset hbehind hword hlength htext =>
    rw [readPayload_of_offset (hpointer hoffset) hbehind,
      readPointer_eq_ok_iff.mpr ⟨hword, rfl, hlength⟩, Except.ok_bind, if_neg (by omega)]

theorem exists_readParam_iff
    : (∃ v, readParam data headLength index param = .ok v)
        ↔
      Readable data headLength (index * 32) param.kind := by
  simp only [readParam_eq_ok_iff hslot]
  constructor
  . intro h
    rcases h with ⟨v, hadmissible, hfits, -⟩
    exact ⟨hadmissible, hfits⟩
  . intro h
    rcases exists_denotes hslot h.1 with ⟨v, hkind, hdenotes⟩
    exact ⟨v, h.1, h.2, hkind, hdenotes⟩

theorem readParam_of_fault (h : ParamFault data headLength (index * 32) param e)
    : readParam data headLength index param = .error e := by
  cases h with
  | dirty hstatic hdirty =>
    rw [readParam_eq_error_iff_of_static hslot hstatic]
    exact ⟨hdirty, rfl⟩
  | outOfReach htext hreach =>
    rw [readParam_of_text htext, readText, readPayload_of_leadsOutside hslot hreach]
    rfl
  | noText htext hinside hspells =>
    have hnone : Text.ofUtf8? (payloadAt data (index * 32)) = none := by
      rw [Option.eq_none_iff_forall_ne_some]
      intro s hs
      exact hspells s (Text.ofUtf8?_eq_some_iff.mp hs).symm
    rw [readParam_of_text htext, readText, readPayload_of_textInside hslot hinside]
    dsimp only
    rw [hnone]
    rfl

end Text

theorem readable_or_fault (data : Bytes) (headLength position : Nat) (param : Param)
    : Readable data headLength position param.kind
        ∨ ∃ e, ParamFault data headLength position param e := by
  by_cases htext : param.kind = .string
  . rcases textInside_or_leadsOutside data headLength position with hinside | ⟨reach, hreach⟩
    . by_cases hspells : ∃ s, Text.utf8 s = payloadAt data position
      . left
        rw [htext]
        have htail := hinside.inside
        exact ⟨⟨hinside.behind, by omega, htail, hspells⟩, hinside.fits⟩
      . exact .inr ⟨_, .noText htext hinside (not_exists.mp hspells)⟩
    . exact .inr ⟨_, .outOfReach htext hreach⟩
  . by_cases hadmissible : Admissible data headLength position param.kind
    . exact .inl ⟨hadmissible, pointersFit_of_static htext⟩
    . exact .inr ⟨_, .dirty htext hadmissible⟩

theorem ParamFault.not_readable (h : ParamFault data headLength position param e)
    : ¬Readable data headLength position param.kind := by
  rintro ⟨hadmissible, hfits⟩
  cases h with
  | dirty hstatic hdirty => exact hdirty hadmissible
  | outOfReach htext hreach =>
    rw [htext] at hadmissible hfits
    rcases hadmissible with ⟨hbehind, hword, hinside, -⟩
    rcases hfits with ⟨hoffset, hlength⟩
    cases hreach with
    | _ => omega
  | noText htext hinside hspells =>
    rw [htext] at hadmissible
    rcases hadmissible with ⟨-, -, -, s, hs⟩
    exact hspells s hs

theorem readParam_eq_error_iff (hslot : index * 32 + 32 ≤ data.length)
    : readParam data headLength index param = .error e
        ↔
      ParamFault data headLength (index * 32) param e := by
  constructor
  . intro h
    rcases readable_or_fault data headLength (index * 32) param with hreadable | ⟨e', he'⟩
    . rcases (exists_readParam_iff hslot).mpr hreadable with ⟨v, hv⟩
      rw [h] at hv
      cases hv
    . have hread := readParam_of_fault hslot he'
      rw [h, Except.error.injEq] at hread
      rw [hread]
      exact he'
  . apply readParam_of_fault hslot

theorem readParams_eq_error_iff (schema : List Param)
    : ∀ index : Nat,
        readParams data headLength index schema = .error e
          ↔
        ∃ (i : Nat) (hi : i < schema.length),
          (∀ (j : Nat) (hj : j < i), ∃ v, readParam data headLength (index + j) schema[j] = .ok v)
            ∧ readParam data headLength (index + i) schema[i] = .error e := by
  induction schema with
  | nil =>
    intro index
    simp [readParams]
  | cons param rest ih =>
    intro index
    simp only [readParams, Except.bind_eq_error_iff, Except.pure_eq_ok, reduceCtorEq, and_false,
      exists_false, or_false, ih]
    constructor
    . intro h
      rcases h with hhead | ⟨v, hv, i, hi, hbefore, hfault⟩
      . exact ⟨0, by simp, by simp, hhead⟩
      . refine ⟨i + 1, by simpa using hi, ?_, ?_⟩
        . intro j hj
          cases j with
          | zero => exact ⟨v, hv⟩
          | succ j =>
            rw [← Nat.add_assoc, Nat.add_right_comm]
            exact hbefore j (by omega)
        . rw [← Nat.add_assoc, Nat.add_right_comm]
          exact hfault
    . intro h
      rcases h with ⟨i, hi, hbefore, hfault⟩
      cases i with
      | zero => exact .inl hfault
      | succ i =>
        rcases hbefore 0 (by omega) with ⟨v, hv⟩
        refine .inr ⟨v, hv, i, by simpa using hi, ?_, ?_⟩
        . intro j hj
          rw [Nat.add_right_comm, Nat.add_assoc]
          exact hbefore (j + 1) (by omega)
        . rw [Nat.add_right_comm, Nat.add_assoc]
          exact hfault

theorem unpack_eq_error_iff {schema : List Param}
    : unpack schema data = .error e
        ↔
      (data.length % 32 ≠ 0 ∧ e = .misaligned data)
        ∨ (data.length % 32 = 0
            ∧ ¬LengthFits schema data
            ∧ e = .lengthMismatch (32 * schema.length) data)
        ∨ (data.length % 32 = 0
            ∧ LengthFits schema data
            ∧ readParams data (32 * schema.length) 0 schema = .error e) := by
  by_cases haligned : data.length % 32 = 0
  . by_cases hfits : LengthFits schema data
    . rw [unpack_of_lengthFits haligned hfits, Except.map_eq_error_iff]
      simp [haligned, hfits]
    . rw [unpack_of_not_lengthFits haligned hfits]
      simp [haligned, hfits, eq_comm]
  . rw [unpack_of_misaligned haligned]
    simp [haligned, eq_comm]

section Single

variable (hstatic : param.kind ≠ .string)

include hstatic

theorem lengthFits_single_iff : LengthFits [param] data ↔ data.length = 32 := by
  unfold LengthFits
  simp [hstatic]
  omega

theorem readParams_single_eq_error_iff (hlength : data.length = 32)
    : readParams data 32 0 [param] = .error e
        ↔
      ¬Admissible data 32 0 param.kind ∧ e = .dirtySlot param.name param.kind data := by
  have hslot : slotAt data (0 * 32) = data := by
    rw [slotAt, ← hlength, Nat.zero_mul, Bytes.slice_length]
  have hread : readParams data 32 0 [param] = .error e ↔ readParam data 32 0 param = .error e := by
    simp [readParams, Except.bind_eq_error_iff]
  rw [hread, readParam_eq_error_iff_of_static (by omega) hstatic, hslot, Nat.zero_mul]

theorem unpack_single_eq_error_iff
    : unpack [param] data = .error e
        ↔
      (data.length % 32 ≠ 0 ∧ e = .misaligned data)
        ∨ (data.length % 32 = 0 ∧ data.length ≠ 32 ∧ e = .lengthMismatch 32 data)
        ∨ (data.length = 32
            ∧ ¬Admissible data 32 0 param.kind
            ∧ e = .dirtySlot param.name param.kind data) := by
  rw [unpack_eq_error_iff, lengthFits_single_iff hstatic, List.length_singleton, Nat.mul_one]
  have hlast : (data.length % 32 = 0 ∧ data.length = 32 ∧ readParams data 32 0 [param] = .error e)
      ↔ (data.length = 32
          ∧ ¬Admissible data 32 0 param.kind
          ∧ e = .dirtySlot param.name param.kind data) := by
    constructor
    . intro h
      rcases h with ⟨-, hlength, hread⟩
      exact ⟨hlength, (readParams_single_eq_error_iff hstatic hlength).mp hread⟩
    . intro h
      rcases h with ⟨hlength, hread⟩
      exact ⟨by omega, hlength, (readParams_single_eq_error_iff hstatic hlength).mpr hread⟩
  rw [hlast]

end Single

end TokenGateway.Abi
