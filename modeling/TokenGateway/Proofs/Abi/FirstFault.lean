import TokenGateway.Proofs.Abi.Fault
import TokenGateway.Proofs.Abi.Locality

namespace TokenGateway.Abi

variable {data data' : Bytes} {headLength position index : Nat} {param : Param} {e : Error}

structure FirstFault (schema : List Param) (data : Bytes) (i : Nat) (e : Error) : Prop where
  lt : i < schema.length
  before : ∀ (j : Nat) (hlt : j < schema.length), j < i →
    Readable data (32 * schema.length) (32 * j) schema[j].kind
  unreadable : ¬Readable data (32 * schema.length) (32 * i) schema[i].kind
  fault : ParamFault data (32 * schema.length) (32 * i) schema[i] e

section Tuple

variable {schema : List Param} {i : Nat}

theorem firstFault_iff (hheads : 32 * schema.length ≤ data.length)
    : FirstFault schema data i e
        ↔
      ∃ hi : i < schema.length,
        (∀ (j : Nat) (hj : j < i), ∃ v,
            readParam data (32 * schema.length) j schema[j] = .ok v)
          ∧ readParam data (32 * schema.length) i schema[i] = .error e := by
  constructor
  . intro h
    have hi := h.lt
    refine ⟨hi, ?_, ?_⟩
    . intro j hj
      rw [exists_readParam_iff (by omega), Nat.mul_comm j]
      exact h.before j (by omega) hj
    . rw [readParam_eq_error_iff (by omega), Nat.mul_comm i]
      exact h.fault
  . intro h
    rcases h with ⟨hi, hbefore, hfault⟩
    rw [readParam_eq_error_iff (by omega), Nat.mul_comm i] at hfault
    refine ⟨hi, ?_, hfault.not_readable, hfault⟩
    intro j _ hj
    have hread := hbefore j hj
    rw [exists_readParam_iff (by omega), Nat.mul_comm j] at hread
    exact hread

theorem unpack_eq_error_iff_firstFault (haligned : data.length % 32 = 0)
    (hfits : LengthFits schema data)
    : unpack schema data = .error e ↔ ∃ i, FirstFault schema data i e := by
  rw [unpack_of_lengthFits haligned hfits, Except.map_eq_error_iff, readParams_eq_error_iff]
  simp only [firstFault_iff hfits.1, Nat.zero_add]

end Tuple

/--
Whether two tuples are alike as far as the parameter number `i` goes: behind it the parameters may
be others, as many as there were, and their head slots may hold anything else.
-/
structure AgreeUpTo (i : Nat) (schema schema' : List Param) (data data' : Bytes) : Prop where
  size : schema'.length = schema.length
  params : schema'.take (i + 1) = schema.take (i + 1)
  length : data'.length = data.length
  slots : ∀ place < 32 * (i + 1), data'[place]? = data[place]?
  tails : ∀ place, 32 * schema.length ≤ place → data'[place]? = data[place]?

section Agree

variable (hlength : data'.length = data.length)

include hlength

theorem readPointer_congr {pointer : Pointer} (hslot : slotAt data' position = slotAt data position)
    : readPointer data' position pointer = readPointer data position pointer := by
  unfold slotAt at hslot
  unfold readPointer slotLength
  rw [hlength, hslot]

variable (hslot : slotAt data' (index * 32) = slotAt data (index * 32))
  (htails : ∀ place, headLength ≤ place → data'[place]? = data[place]?)

include hslot htails

theorem readPayload_congr
    : readPayload data' headLength index = readPayload data headLength index := by
  have hpointer : readPointer data' (index * 32) .offset = readPointer data (index * 32) .offset :=
    readPointer_congr hlength hslot
  cases hoffset : readPointer data (index * 32) .offset with
  | error reach =>
    rw [hoffset] at hpointer
    unfold readPayload slotLength
    rw [hpointer, hoffset]
    rfl
  | ok offset =>
    rw [hoffset] at hpointer
    -- A text that is read lies behind the heads, so of these only its own slot counts.
    by_cases hbehind : headLength ≤ offset
    . have hword : slotAt data' offset = slotAt data offset := by
        apply slotAt_congr
        intro place hstart _
        apply htails
        omega
      have hslice : ∀ length,
          Bytes.slice data' (offset + 32) length = Bytes.slice data (offset + 32) length := by
        intro length
        apply Bytes.slice_congr
        intro place hstart _
        apply htails
        omega
      rw [readPayload_of_offset hpointer hbehind, readPayload_of_offset hoffset hbehind]
      rw [readPointer_congr hlength hword, hlength]
      simp only [hslice]
    . unfold readPayload slotLength
      rw [hpointer, hoffset, Except.ok_bind, Except.ok_bind, if_pos (Nat.not_le.mp hbehind),
        if_pos (Nat.not_le.mp hbehind)]
      rfl

theorem readParam_congr
    : readParam data' headLength index param = readParam data headLength index param := by
  by_cases htext : param.kind = .string
  . rw [readParam_of_text htext, readParam_of_text htext]
    unfold readText
    rw [readPayload_congr hlength hslot htails, hlength]
  . rw [readParam_of_static htext, readParam_of_static htext, hslot]

end Agree

theorem firstFault_of_agreeUpTo {schema schema' : List Param} {i : Nat}
    (hheads : 32 * schema.length ≤ data.length) (hagree : AgreeUpTo i schema schema' data data')
    (h : FirstFault schema data i e)
    : FirstFault schema' data' i e := by
  have hlength := hagree.length
  have hsize := hagree.size
  have hread : ∀ (j : Nat) (hj : j ≤ i) (hlt : j < schema.length) (hlt' : j < schema'.length),
      readParam data' (32 * schema'.length) j schema'[j]
        =
      readParam data (32 * schema.length) j schema[j] := by
    intro j hj hlt hlt'
    have hparam : schema'[j] = schema[j] := by
      have hplace := congrArg (·[j]?) hagree.params
      rw [List.getElem?_take_of_lt (by omega), List.getElem?_take_of_lt (by omega)] at hplace
      simpa [hlt, hlt'] using hplace
    rw [hparam, hsize]
    apply readParam_congr hlength
    . apply slotAt_congr
      intro place _ hend
      apply hagree.slots
      omega
    . exact hagree.tails
  rw [firstFault_iff hheads] at h
  rw [firstFault_iff (by omega)]
  rcases h with ⟨hi, hbefore, hfault⟩
  refine ⟨by omega, ?_, ?_⟩
  . intro j hj
    rw [hread j (by omega) (by omega) (by omega)]
    exact hbefore j hj
  . rw [hread i (by omega) hi (by omega)]
    exact hfault

def Error.shown? : Error → Option Bytes
  | .misaligned data => some data
  | .lengthMismatch _ data => some data
  | .dirtySlot _ _ slot => some slot
  | .outOfBounds _ _ _ => none
  | .invalidUtf8 _ payload => some payload

theorem Error.message_of_shown? {bytes : Bytes} (h : e.shown? = some bytes)
    : ∃ front, e.message = front ++ Hex.encode bytes := by
  cases e with
  | outOfBounds name length reach => cases h
  | _ =>
    cases h
    exact ⟨_, rfl⟩

/--
The first thing that is wrong is told: that there are no whole slots, that their number does not
fit, or else the fault of the first parameter that cannot be read. What parameters are behind that
one, and what their head slots hold, makes no difference. The bytes that an error is about are shown
in hexadecimal form.
-/
theorem unpack_tells_first_fault (schema : List Param) (data : Bytes)
    : (data.length % 32 ≠ 0 → unpack schema data = .error (.misaligned data))
        ∧ (data.length % 32 = 0 → ¬LengthFits schema data →
            unpack schema data = .error (.lengthMismatch (32 * schema.length) data))
        ∧ (data.length % 32 = 0 → LengthFits schema data →
            ∀ e, unpack schema data = .error e ↔ ∃ i, FirstFault schema data i e)
        ∧ (data.length % 32 = 0 → LengthFits schema data → ∀ i e, FirstFault schema data i e →
            ∀ schema' data', AgreeUpTo i schema schema' data data' → LengthFits schema' data' →
              unpack schema' data' = .error e)
        ∧ ∀ (e : Error) bytes, e.shown? = some bytes →
            ∃ front, e.message = front ++ Hex.encode bytes := by
  refine ⟨unpack_of_misaligned, unpack_of_not_lengthFits, ?_, ?_, ?_⟩
  . intro haligned hfits e
    exact unpack_eq_error_iff_firstFault haligned hfits
  . intro haligned hfits i e hfault schema' data' hagree hfits'
    rw [← hagree.length] at haligned
    rw [unpack_eq_error_iff_firstFault haligned hfits']
    exact ⟨i, firstFault_of_agreeUpTo hfits.1 hagree hfault⟩
  . intro e bytes hshown
    exact Error.message_of_shown? hshown

def faultyTuple : Bytes :=
  Bytes.zeros 31 ++ [1] ++ Bytes.zeros 31 ++ [32] ++ List.replicate 32 0xff

def faultySchema (last : Param) : List Param :=
  [⟨"approved", .bool⟩, ⟨"uri", .string⟩, last]

theorem firstFault_faultyTuple
    : FirstFault (faultySchema ⟨"owner", .address⟩) faultyTuple 1
        (.outOfBounds "uri" 96 (.insideHead 32 96)) := by
  have hflag : wordAt faultyTuple 0 = 1 := by decide +kernel
  have hoffset : wordAt faultyTuple 32 = 32 := by decide +kernel
  refine ⟨by decide, ?_, ?_, ?_⟩
  . intro j _ hj
    obtain rfl := Nat.lt_one_iff.mp hj
    exact ⟨.inr hflag, trivial⟩
  . intro h
    have hbehind : 96 ≤ wordAt faultyTuple 32 := h.1.1
    omega
  . have hreach : LeadsOutside faultyTuple 96 32 (.insideHead (wordAt faultyTuple 32) 96) :=
      .insideHead (by omega) (by omega)
    rw [hoffset] at hreach
    exact .outOfReach rfl hreach

theorem unpack_faultyTuple
    : unpack (faultySchema ⟨"owner", .address⟩) faultyTuple
          = .error (.outOfBounds "uri" 96 (.insideHead 32 96))
        ∧ unpack (faultySchema ⟨"decimals", .uint8⟩) (faultyTuple.take 64 ++ Bytes.zeros 32)
          = .error (.outOfBounds "uri" 96 (.insideHead 32 96)) := by
  have haligned : faultyTuple.length % 32 = 0 := by decide +kernel
  have hfits : LengthFits (faultySchema ⟨"owner", .address⟩) faultyTuple :=
    ⟨by decide +kernel, fun _ => by decide +kernel⟩
  have hagree : AgreeUpTo 1 (faultySchema ⟨"owner", .address⟩) (faultySchema ⟨"decimals", .uint8⟩)
      faultyTuple (faultyTuple.take 64 ++ Bytes.zeros 32) := by
    refine ⟨rfl, rfl, by decide +kernel, by decide +kernel, ?_⟩
    intro place hplace
    have hend : 96 ≤ place := hplace
    rw [List.getElem?_eq_none, List.getElem?_eq_none]
    . exact hend
    . exact hend
  rcases unpack_tells_first_fault (faultySchema ⟨"owner", .address⟩) faultyTuple with
    ⟨-, -, htold, hsame, -⟩
  refine ⟨(htold haligned hfits _).mpr ⟨1, firstFault_faultyTuple⟩, ?_⟩
  apply hsame haligned hfits 1 _ firstFault_faultyTuple _ _ hagree
  exact ⟨by decide +kernel, fun _ => by decide +kernel⟩

end TokenGateway.Abi
