namespace TokenGateway

abbrev Bytes := List UInt8

namespace Bytes

def toNat : List UInt8 → Nat
  | [] => 0
  | b :: bs => b.toNat * Nat.pow 256 bs.length + toNat bs

/--
The low `width` bytes of a number, most significant byte first.
-/
def ofNat : (width : Nat) → Nat → Bytes
  | 0, _ => []
  | width + 1, n => UInt8.ofNat (n / Nat.pow 256 width) :: ofNat width n

def zeros (n : Nat) : Bytes :=
  List.replicate n 0

def isZero (bs : List UInt8) : Bool :=
  bs.all (· == 0)

def slice (bs : List UInt8) (start length : Nat) : Bytes :=
  (bs.drop start).take length

@[simp]
theorem length_ofNat (width n : Nat) : (ofNat width n).length = width := by
  induction width with
  | zero => rfl
  | succ width ih => simp [ofNat, ih]

@[simp]
theorem length_zeros (n : Nat) : (zeros n).length = n := by
  simp [zeros]

end Bytes

structure FixedBytes (n : Nat) where
  toBytes : Bytes
  length_toBytes : toBytes.length = n
  deriving DecidableEq

namespace FixedBytes

def ofBytes? (n : Nat) (bs : Bytes) : Option (FixedBytes n) :=
  if h : bs.length = n then some ⟨bs, h⟩ else none

def zero (n : Nat) : FixedBytes n :=
  ⟨Bytes.zeros n, Bytes.length_zeros n⟩

instance : Inhabited (FixedBytes n) where
  default := zero n

@[simp]
theorem ofBytes?_toBytes (x : FixedBytes n) : ofBytes? n x.toBytes = some x := by
  simp [ofBytes?, x.length_toBytes]

@[ext]
theorem ext {x y : FixedBytes n} (h : x.toBytes = y.toBytes) : x = y := by
  cases x
  cases y
  simp_all

end FixedBytes

end TokenGateway
