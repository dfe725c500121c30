import TokenGateway.Abi.Basic

/-!
This module contains the logic to read a tuple of values back from bytes. Heads are strict: each
padding byte has to be zero. Tails are lenient: they may stand anywhere after the heads, in any
order, with anything between and behind them.
-/

namespace TokenGateway.Abi

inductive Pointer
  | offset
  | length
  deriving Repr, DecidableEq, Inhabited

def Pointer.name : Pointer → String
  | .offset => "offset"
  | .length => "length"

inductive Reach
  | slotOutside (pointer : Pointer) (position : Nat)
  | tooLarge (pointer : Pointer) (value : Nat)
  | insideHead (offset headLength : Nat)
  | textOutside (length start : Nat)
  deriving Repr, DecidableEq, Inhabited

def Reach.message : Reach → String
  | .slotOutside pointer position => pointer.name ++ " slot at " ++ toString position
  | .tooLarge pointer value => pointer.name ++ " " ++ toString value
  | .insideHead offset headLength =>
    "offset " ++ toString offset ++ " inside the " ++ toString headLength ++ "-byte head"
  | .textOutside length start =>
    "string of " ++ toString length ++ " bytes at " ++ toString start

inductive Error
  | misaligned (data : Bytes)
  | lengthMismatch (expected : Nat) (data : Bytes)
  | dirtySlot (name : String) (kind : Kind) (slot : Bytes)
  | outOfBounds (name : String) (length : Nat) (reach : Reach)
  | invalidUtf8 (name : String) (payload : Bytes)
  deriving Repr, DecidableEq, Inhabited

def Error.message : Error → String
  | .misaligned data =>
    "buffer of " ++ toString data.length ++ " bytes is not 32-byte aligned: " ++ Hex.encode data
  | .lengthMismatch expected data =>
    "expected " ++ toString expected ++ " bytes, got " ++ toString data.length ++ ": "
      ++ Hex.encode data
  | .dirtySlot name kind slot =>
    "parameter `" ++ name ++ "` is not a valid " ++ kind.name ++ ": slot " ++ Hex.encode slot
  | .outOfBounds name length reach =>
    "parameter `" ++ name ++ "` points outside the " ++ toString length ++ "-byte buffer ("
      ++ reach.message ++ ")"
  | .invalidUtf8 name payload =>
    "parameter `" ++ name ++ "` is not valid UTF-8: " ++ Hex.encode payload

def readPointer (data : Bytes) (position : Nat) (pointer : Pointer) : Except Reach Nat :=
  if position + slotLength ≤ data.length then
    let value := Bytes.toNat (Bytes.slice data position slotLength)
    if value < Nat.pow 2 64 then .ok value else .error (.tooLarge pointer value)
  else
    .error (.slotOutside pointer position)

def readPayload (data : Bytes) (headLength index : Nat) : Except Reach Bytes := do
  let offset ← readPointer data (index * slotLength) .offset
  if offset < headLength then
    throw (.insideHead offset headLength)
  let length ← readPointer data offset .length
  let start := offset + slotLength
  if start + length ≤ data.length then
    return Bytes.slice data start length
  else
    throw (.textOutside length start)

def readText (data : Bytes) (headLength index : Nat) (name : String) : Except Error String :=
  match readPayload data headLength index with
  | .error reach => .error (.outOfBounds name data.length reach)
  | .ok payload =>
    match Text.ofUtf8? payload with
    | some s => .ok s
    | none => .error (.invalidUtf8 name payload)

def readStatic (name : String) (kind : Kind) (slot : Bytes) : Except Error Value :=
  let value? : Option Value :=
    match kind with
    | .uint256 => some (.uint256 (BitVec.ofNat 256 (Bytes.toNat slot)))
    | .uint8 =>
      if Bytes.isZero (slot.take 31) then
        some (.uint8 (UInt8.ofNat (Bytes.toNat (slot.drop 31))))
      else
        none
    | .address =>
      if Bytes.isZero (slot.take 12) then
        (FixedBytes.ofBytes? 20 (slot.drop 12)).map Value.address
      else
        none
    | .bool =>
      if Bytes.isZero (slot.take 31) then
        match slot.drop 31 with
        | [0] => some (.bool false)
        | [1] => some (.bool true)
        | _ => none
      else
        none
    | .bytes4 =>
      if Bytes.isZero (slot.drop 4) then
        (FixedBytes.ofBytes? 4 (slot.take 4)).map Value.bytes4
      else
        none
    | .string => none
  match value? with
  | some value => .ok value
  | none => .error (.dirtySlot name kind slot)

def readParam (data : Bytes) (headLength index : Nat) (param : Param) : Except Error Value :=
  if param.kind.isDynamic then
    (readText data headLength index param.name).map Value.string
  else
    readStatic param.name param.kind (Bytes.slice data (index * slotLength) slotLength)

def readParams (data : Bytes) (headLength : Nat) :
    (index : Nat) → List Param → Except Error (List (String × Value))
  | _, [] => .ok []
  | index, param :: rest => do
    let value ← readParam data headLength index param
    let entries ← readParams data headLength (index + 1) rest
    return (param.name, value) :: entries

def unpack (schema : List Param) (data : Bytes) : Except Error Binding :=
  let headLength := schema.length * slotLength
  let hasTails := schema.any (·.kind.isDynamic)
  if data.length % slotLength ≠ 0 then
    .error (.misaligned data)
  -- There is a head slot for each parameter, and nothing else if no parameter is dynamic.
  else if data.length < headLength || (!hasTails && data.length != headLength) then
    .error (.lengthMismatch headLength data)
  else
    (readParams data headLength 0 schema).map Binding.mk

def decodeString (data : Bytes) : Except Error String := do
  let binding ← unpack [⟨"value", .string⟩] data
  match binding.get? "value" with
  | some (.string s) => return s
  | _ => throw (.lengthMismatch (2 * slotLength) data)

end TokenGateway.Abi
