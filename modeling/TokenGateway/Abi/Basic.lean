import TokenGateway.Address

namespace TokenGateway

abbrev Selector := FixedBytes 4

namespace Abi

def slotLength : Nat := 32

inductive Kind
  | uint8
  | uint256
  | address
  | bool
  | bytes4
  | string
  deriving Repr, DecidableEq, Inhabited

def Kind.name : Kind → String
  | .uint8 => "uint8"
  | .uint256 => "uint256"
  | .address => "address"
  | .bool => "bool"
  | .bytes4 => "bytes4"
  | .string => "string"

def Kind.isDynamic : Kind → Bool
  | .string => true
  | _ => false

inductive Value
  | uint8 (n : UInt8)
  | uint256 (n : BitVec 256)
  | address (a : Address)
  | bool (b : Bool)
  | bytes4 (bs : FixedBytes 4)
  | string (s : String)
  deriving DecidableEq

namespace Value

def kind : Value → Kind
  | .uint8 _ => .uint8
  | .uint256 _ => .uint256
  | .address _ => .address
  | .bool _ => .bool
  | .bytes4 _ => .bytes4
  | .string _ => .string

def asUint256? : Value → Option (BitVec 256)
  | .uint256 n => some n
  | .uint8 n => some (BitVec.ofNat 256 n.toNat)
  | _ => none

def asAddress? : Value → Option Address
  | .address a => some a
  | _ => none

def asBytes4? : Value → Option (FixedBytes 4)
  | .bytes4 bs => some bs
  | _ => none

end Value

structure Param where
  name : String
  kind : Kind
  deriving Repr, DecidableEq

/--
Values bound to parameter names, in the order of declaration. A name may occur more than once.
-/
structure Binding where
  entries : List (String × Value)
  deriving DecidableEq

namespace Binding

def empty : Binding := ⟨[]⟩

def push (b : Binding) (name : String) (value : Value) : Binding :=
  ⟨b.entries ++ [(name, value)]⟩

def get? (b : Binding) (name : String) : Option Value :=
  (b.entries.find? fun entry => entry.1 == name).map (·.2)

def values (b : Binding) : List Value :=
  b.entries.map (·.2)

def size (b : Binding) : Nat :=
  b.entries.length

def isEmpty (b : Binding) : Bool :=
  b.entries.isEmpty

@[simp]
theorem length_values (b : Binding) : b.values.length = b.size := by
  simp [values, size]

end Binding

end Abi

end TokenGateway
