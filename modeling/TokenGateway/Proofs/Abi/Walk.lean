import TokenGateway.Proofs.Abi.FirstFault
import TokenGateway.Proofs.Abi.Text

/-!
The reader of tuples as it walks over a buffer in a machine whose numbers are words of 64 bits. It
writes down each step which would go wrong if something did not hold that is not looked at there.
-/

namespace TokenGateway.Abi

inductive Step
  | take (bytes : Bytes) (start length : Nat)
  | add (a b : Nat)
  | textInSlot
  | textMissing

/--
Whether a step goes well in a walk over a buffer: what is taken is there, and a sum is a position in
the buffer, so that no word overflows. The other steps never go well.
-/
def Step.IsSafe (data : Bytes) : Step → Prop
  | .take bytes start length => start + length ≤ bytes.length
  | .add a b => a + b ≤ data.length ∧ a + b < 2 ^ 64
  | .textInSlot => False
  | .textMissing => False

structure Walk (ε α : Type) where
  steps : List Step
  result : Except ε α

namespace Walk

variable {ε ε' α β : Type}

def succeed (a : α) : Walk ε α :=
  ⟨[], .ok a⟩

def fail (e : ε) : Walk ε α :=
  ⟨[], .error e⟩

def andThen (x : Walk ε α) (f : α → Walk ε β) : Walk ε β :=
  match x.result with
  | .ok a => ⟨x.steps ++ (f a).steps, (f a).result⟩
  | .error e => ⟨x.steps, .error e⟩

instance : Monad (Walk ε) where
  pure := succeed
  bind := andThen

def mapError (f : ε → ε') (x : Walk ε α) : Walk ε' α :=
  ⟨x.steps, x.result.mapError f⟩

def take (bytes : Bytes) (start length : Nat) : Walk ε Bytes :=
  ⟨[.take bytes start length], .ok (Bytes.slice bytes start length)⟩

def add (a b : Nat) : Walk ε Nat :=
  ⟨[.add a b], .ok ((a + b) % 2 ^ 64)⟩

def takeChecked (data : Bytes) (start length : Nat) (e : ε) : Walk ε Bytes :=
  if start + length < 2 ^ 64 ∧ start + length ≤ data.length then
    take data start length
  else
    fail e

def readPointer (data : Bytes) (position : Nat) (pointer : Pointer) : Walk Reach Nat := do
  let word ← takeChecked data position slotLength (.slotOutside pointer position)
  let value := Bytes.toNat word
  if value < Nat.pow 2 64 then
    succeed value
  else
    fail (.tooLarge pointer value)

def readPayload (data : Bytes) (headLength index : Nat) : Walk Reach Bytes := do
  let offset ← readPointer data (index * slotLength) .offset
  if offset < headLength then
    fail (.insideHead offset headLength)
  else do
    let length ← readPointer data offset .length
    let start ← add offset slotLength
    takeChecked data start length (.textOutside length start)

def readText (data : Bytes) (headLength index : Nat) (name : String) : Walk Error String := do
  let payload ← (readPayload data headLength index).mapError (.outOfBounds name data.length)
  match Text.ofUtf8? payload with
  | some s => succeed s
  | none => fail (.invalidUtf8 name payload)

def slotSteps (slot : Bytes) : Kind → List Step
  | .uint8 => [.take slot 0 31, .take slot 31 1]
  | .uint256 => []
  | .address => [.take slot 0 12, .take slot 12 20]
  | .bool => [.take slot 0 31, .take slot 31 1]
  | .bytes4 => [.take slot 4 28, .take slot 0 4]
  | .string => [.textInSlot]

def readStatic (name : String) (kind : Kind) (slot : Bytes) : Walk Error Value :=
  ⟨slotSteps slot kind, Abi.readStatic name kind slot⟩

def readParam (data : Bytes) (headLength index : Nat) (param : Param) : Walk Error Value :=
  if param.kind.isDynamic then do
    let s ← readText data headLength index param.name
    succeed (.string s)
  else do
    let slot ← take data (index * slotLength) slotLength
    readStatic param.name param.kind slot

def readParams (data : Bytes) (headLength : Nat) :
    (index : Nat) → List Param → Walk Error (List (String × Value))
  | _, [] => succeed []
  | index, param :: rest => do
    let value ← readParam data headLength index param
    let entries ← readParams data headLength (index + 1) rest
    succeed ((param.name, value) :: entries)

def unpack (schema : List Param) (data : Bytes) : Walk Error Binding :=
  -- The schema does not come with the buffer, so no buffer makes this product overflow.
  let headLength := schema.length * slotLength
  let hasTails := schema.any (·.kind.isDynamic)
  if data.length % slotLength ≠ 0 then
    fail (.misaligned data)
  else if data.length < headLength || (!hasTails && data.length != headLength) then
    fail (.lengthMismatch headLength data)
  else do
    let entries ← readParams data headLength 0 schema
    succeed ⟨entries⟩

def decodeString (data : Bytes) : Walk Error String := do
  let binding ← unpack [⟨"value", .string⟩] data
  match binding.get? "value" with
  | some (.string s) => succeed s
  | _ => ⟨[.textMissing], .error (.lengthMismatch (2 * slotLength) data)⟩

structure Reads (data : Bytes) (result : Except ε α) (x : Walk ε α) : Prop where
  result_eq : x.result = result
  isSafe : ∀ step ∈ x.steps, step.IsSafe data

section Laws

variable {data : Bytes}

theorem reads_succeed (a : α) : (succeed a : Walk ε α).Reads data (.ok a) where
  result_eq := rfl
  isSafe := by simp [succeed]

theorem reads_fail (e : ε) : (fail e : Walk ε α).Reads data (.error e) where
  result_eq := rfl
  isSafe := by simp [fail]

theorem reads_bind {x : Walk ε α} {r : Except ε α} {f : α → Walk ε β} {g : α → Except ε β}
    (hx : x.Reads data r) (hf : ∀ a, r = .ok a → (f a).Reads data (g a))
    : (x >>= f).Reads data (r >>= g) := by
  rcases x with ⟨steps, result⟩
  rcases hx with ⟨rfl, hsteps⟩
  cases result with
  | error e => exact ⟨rfl, hsteps⟩
  | ok a =>
    rcases hf a rfl with ⟨hresult, hmore⟩
    refine ⟨hresult, ?_⟩
    intro step hstep
    rcases List.mem_append.mp hstep with hstep | hstep
    . exact hsteps step hstep
    . exact hmore step hstep

theorem reads_bind_of_ok {x : Walk ε α} {a : α} {r : Except ε β} {f : α → Walk ε β}
    (hx : x.Reads data (.ok a)) (hf : (f a).Reads data r)
    : (x >>= f).Reads data r := by
  have hbind : (x >>= f).Reads data (.ok a >>= fun _ => r) := by
    apply reads_bind hx
    intro b heq
    cases heq
    exact hf
  exact hbind

theorem reads_mapError {x : Walk ε α} {r : Except ε α} (f : ε → ε') (hx : x.Reads data r)
    : (x.mapError f).Reads data (r.mapError f) where
  result_eq := by rw [mapError, hx.result_eq]
  isSafe := hx.isSafe

theorem reads_take {bytes : Bytes} {start length : Nat} (h : start + length ≤ bytes.length)
    : (take bytes start length : Walk ε Bytes).Reads data (.ok (Bytes.slice bytes start length)) where
  result_eq := rfl
  isSafe := by
    intro step hstep
    rw [List.mem_singleton.mp hstep]
    exact h

end Laws

section Buffer

variable {data : Bytes} (hlength : data.length < 2 ^ 63)

include hlength

theorem reads_add {a b : Nat} (h : a + b ≤ data.length)
    : (add a b : Walk ε Nat).Reads data (.ok (a + b)) where
  result_eq := by
    rw [add, Nat.mod_eq_of_lt]
    omega
  isSafe := by
    intro step hstep
    rw [List.mem_singleton.mp hstep]
    exact ⟨h, by omega⟩

theorem reads_takeChecked (start length : Nat) (e : ε)
    : (takeChecked data start length e).Reads data
        (if start + length ≤ data.length then
          .ok (Bytes.slice data start length)
        else
          .error e) := by
  unfold takeChecked
  by_cases hinside : start + length ≤ data.length
  . rw [if_pos hinside, if_pos ⟨by omega, hinside⟩]
    apply reads_take hinside
  . rw [if_neg hinside, if_neg (fun h => hinside h.2)]
    apply reads_fail

theorem reads_readPointer (position : Nat) (pointer : Pointer)
    : (readPointer data position pointer).Reads data (Abi.readPointer data position pointer) := by
  have hword : Abi.readPointer data position pointer
      = ((if position + slotLength ≤ data.length then
            .ok (Bytes.slice data position slotLength)
          else
            .error (.slotOutside pointer position)) >>= fun word =>
          if Bytes.toNat word < Nat.pow 2 64 then
            .ok (Bytes.toNat word)
          else
            .error (.tooLarge pointer (Bytes.toNat word))) := by
    unfold Abi.readPointer
    split
    . rfl
    . rfl
  rw [hword]
  apply reads_bind (reads_takeChecked hlength _ _ _)
  intro word _
  dsimp only
  split
  . apply reads_succeed
  . apply reads_fail

theorem reads_readPayload (headLength index : Nat)
    : (readPayload data headLength index).Reads data (Abi.readPayload data headLength index) := by
  unfold Abi.readPayload
  apply reads_bind (reads_readPointer hlength _ _)
  intro offset _
  by_cases hhead : offset < headLength
  . rw [if_pos hhead, if_pos hhead]
    apply reads_fail
  . rw [if_neg hhead, if_neg hhead]
    apply reads_bind (reads_readPointer hlength _ _)
    intro length hpointer
    -- The word for the length has been read, so the position behind it is in the buffer.
    have hword := (readPointer_eq_ok_iff.mp hpointer).1
    apply reads_bind_of_ok (reads_add hlength hword)
    apply reads_takeChecked hlength

theorem reads_readText (headLength index : Nat) (name : String)
    : (readText data headLength index name).Reads data (Abi.readText data headLength index name) := by
  have htext : Abi.readText data headLength index name
      = ((Abi.readPayload data headLength index).mapError (.outOfBounds name data.length) >>=
          fun payload =>
            match Text.ofUtf8? payload with
            | some s => .ok s
            | none => .error (.invalidUtf8 name payload)) := by
    unfold Abi.readText
    cases Abi.readPayload data headLength index with
    | error reach => rfl
    | ok payload => rfl
  rw [htext]
  apply reads_bind
  . apply reads_mapError _ (reads_readPayload hlength _ _)
  . intro payload _
    split
    . apply reads_succeed
    . apply reads_fail

omit hlength in
theorem reads_readStatic (name : String) {kind : Kind} {slot : Bytes} (hslot : slot.length = 32)
    (hstatic : kind ≠ .string)
    : (readStatic name kind slot).Reads data (Abi.readStatic name kind slot) where
  result_eq := rfl
  isSafe := by
    cases kind with
    | string => contradiction
    | _ => simp [readStatic, slotSteps, Step.IsSafe, hslot]

theorem reads_readParam {headLength index : Nat} (param : Param)
    (hslot : index * 32 + 32 ≤ data.length)
    : (readParam data headLength index param).Reads data
        (Abi.readParam data headLength index param) := by
  unfold readParam Abi.readParam
  by_cases hdynamic : param.kind.isDynamic
  . rw [if_pos hdynamic, if_pos hdynamic]
    apply reads_bind (reads_readText hlength _ _ _)
    intro s _
    apply reads_succeed
  . rw [if_neg hdynamic, if_neg hdynamic]
    have hstatic : param.kind ≠ .string := by
      intro htext
      rw [htext] at hdynamic
      exact hdynamic rfl
    apply reads_bind_of_ok (reads_take hslot)
    apply reads_readStatic _ (Bytes.length_slice_of_le hslot) hstatic

theorem reads_readParams {headLength : Nat} (schema : List Param)
    : ∀ index, (index + schema.length) * 32 ≤ data.length →
        (readParams data headLength index schema).Reads data
          (Abi.readParams data headLength index schema) := by
  induction schema with
  | nil =>
    intro index _
    apply reads_succeed
  | cons param rest ih =>
    intro index hheads
    rw [List.length_cons] at hheads
    apply reads_bind (reads_readParam hlength param (by omega))
    intro value _
    apply reads_bind (ih (index + 1) (by omega))
    intro entries _
    apply reads_succeed

theorem reads_unpack (schema : List Param)
    : (unpack schema data).Reads data (Abi.unpack schema data) := by
  unfold unpack Abi.unpack
  dsimp only
  split
  . apply reads_fail
  . split
    . apply reads_fail
    . next hfits =>
      rw [Bool.or_eq_true, not_or, decide_eq_true_eq, Nat.not_lt] at hfits
      have hheads : schema.length * 32 ≤ data.length := hfits.1
      apply reads_bind (reads_readParams hlength schema 0 (by omega))
      intro entries _
      apply reads_succeed

theorem reads_decodeString : (decodeString data).Reads data (Abi.decodeString data) := by
  apply reads_bind (reads_unpack hlength _)
  intro binding hbinding
  rcases unpack_text_eq_ok hbinding with ⟨s, rfl⟩
  apply reads_succeed

end Buffer

end Walk

theorem unpack_of_leadsOutside {schema : List Param} {data : Bytes} {i : Nat}
    (haligned : data.length % 32 = 0) (hfits : LengthFits schema data) (hi : i < schema.length)
    (htext : schema[i].kind = .string)
    (hbefore : ∀ (j : Nat) (hlt : j < schema.length), j < i →
      Readable data (32 * schema.length) (32 * j) schema[j].kind)
    (houtside : wordAt data (32 * i) < 32 * schema.length
      ∨ data.length < wordAt data (32 * i) + 32 + wordAt data (wordAt data (32 * i)))
    : ∃ reach, unpack schema data = .error (.outOfBounds schema[i].name data.length reach) := by
  rcases textInside_or_leadsOutside data (32 * schema.length) (32 * i) with hinside | ⟨reach, hreach⟩
  . have hbehind := hinside.behind
    have htail := hinside.inside
    omega
  . have hfault := ParamFault.outOfReach htext hreach
    refine ⟨reach, ?_⟩
    rw [unpack_eq_error_iff_firstFault haligned hfits]
    exact ⟨i, hi, hbefore, hfault.not_readable, hfault⟩

/--
Reading a tuple, or an answer that holds a text, is safe on every buffer that fits the memory. What
is taken is there, the position behind a word for a length is one in the buffer, no text is looked
for in its head slot, and an answer that was read holds a text. Numbers that are no positions are
told as such.
-/
theorem reading_is_safe (schema : List Param) (data : Bytes) (hlength : data.length < 2 ^ 63)
    : (Walk.unpack schema data).Reads data (unpack schema data)
        ∧ (Walk.decodeString data).Reads data (decodeString data)
        ∧ (data.length % 32 = 0 → LengthFits schema data →
            ∀ (i : Nat) (hi : i < schema.length), schema[i].kind = .string →
              (∀ (j : Nat) (hlt : j < schema.length), j < i →
                Readable data (32 * schema.length) (32 * j) schema[j].kind) →
              (wordAt data (32 * i) < 32 * schema.length
                ∨ data.length < wordAt data (32 * i) + 32 + wordAt data (wordAt data (32 * i))) →
                ∃ reach,
                  unpack schema data = .error (.outOfBounds schema[i].name data.length reach)) := by
  refine ⟨?_, ?_, ?_⟩
  . apply Walk.reads_unpack hlength
  . apply Walk.reads_decodeString hlength
  . intro haligned hfits i hi htext hbefore houtside
    exact unpack_of_leadsOutside haligned hfits hi htext hbefore houtside

def hugeText : Bytes :=
  Bytes.zeros 31 ++ [32] ++ List.replicate 32 0xff

theorem reading_hugeText
    : hugeText.length < 2 ^ 63
        ∧ (Walk.decodeString hugeText).Reads hugeText (decodeString hugeText)
        ∧ wordAt hugeText 32 = 2 ^ 256 - 1
        ∧ ∃ reach,
            unpack [⟨"value", .string⟩] hugeText = .error (.outOfBounds "value" 64 reach) := by
  have hlength : hugeText.length < 2 ^ 63 := by decide +kernel
  have hoffset : wordAt hugeText 0 = 32 := by decide +kernel
  have hword : wordAt hugeText 32 = 2 ^ 256 - 1 := by decide +kernel
  have hfits : LengthFits [⟨"value", .string⟩] hugeText :=
    ⟨by decide +kernel, fun hstatic => absurd rfl (hstatic _ List.mem_cons_self)⟩
  have houtside : wordAt hugeText 0 < 32
      ∨ hugeText.length < wordAt hugeText 0 + 32 + wordAt hugeText (wordAt hugeText 0) := by
    rw [hoffset, hword]
    omega
  rcases reading_is_safe [⟨"value", .string⟩] hugeText hlength with ⟨-, hwalk, htold⟩
  refine ⟨hlength, hwalk, hword, ?_⟩
  apply htold (by decide +kernel) hfits 0 (by decide) rfl _ houtside
  intro j _ hj
  omega

end TokenGateway.Abi
