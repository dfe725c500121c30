import TokenGateway.Abi.Basic

/-!
A tuple of values is laid out as one head slot for each value, then the tails of the dynamic values in
order. A static value stands in its head slot; a dynamic one leaves there the offset of its tail.
-/

namespace TokenGateway.Abi

def uintSlot (n : Nat) : Bytes :=
  Bytes.ofNat slotLength n

def rightAligned (bs : Bytes) : Bytes :=
  Bytes.zeros (slotLength - bs.length) ++ bs

def leftAligned (bs : Bytes) : Bytes :=
  bs ++ Bytes.zeros (slotLength - bs.length)

def addressSlot (a : Address) : Bytes :=
  rightAligned a.toBytes

def boolSlot (b : Bool) : Bytes :=
  uintSlot b.toNat

def paddedLength (n : Nat) : Nat :=
  (n + slotLength - 1) / slotLength * slotLength

/--
The tail of a text: its length in bytes, then its bytes, padded with zeros to whole slots.
-/
def textTail (s : String) : Bytes :=
  let payload := Text.utf8 s
  uintSlot payload.length ++ (payload ++ Bytes.zeros (paddedLength payload.length - payload.length))

namespace Value

def tail : Value → Bytes
  | .string s => textTail s
  | _ => []

def head (offset : Nat) : Value → Bytes
  | .uint8 n => uintSlot n.toNat
  | .uint256 n => uintSlot n.toNat
  | .address a => addressSlot a
  | .bool b => boolSlot b
  | .bytes4 bs => leftAligned bs.toBytes
  | .string _ => uintSlot offset

end Value

def heads : (offset : Nat) → List Value → Bytes
  | _, [] => []
  | offset, v :: vs => v.head offset ++ heads (offset + v.tail.length) vs

def tails (vs : List Value) : Bytes :=
  vs.flatMap Value.tail

def pack (vs : List Value) : Bytes :=
  heads (slotLength * vs.length) vs ++ tails vs

theorem length_head (offset : Nat) (v : Value) : (v.head offset).length = slotLength := by
  cases v with
  | address a => simp [Value.head, addressSlot, rightAligned, a.length_toBytes, slotLength]
  | bytes4 bs => simp [Value.head, leftAligned, bs.length_toBytes, slotLength]
  | _ => simp [Value.head, uintSlot, boolSlot]

theorem length_heads (offset : Nat) (vs : List Value) :
    (heads offset vs).length = slotLength * vs.length := by
  induction vs generalizing offset with
  | nil => rfl
  | cons v vs ih => simp [heads, length_head, ih, Nat.mul_add, Nat.add_comm]

end TokenGateway.Abi
