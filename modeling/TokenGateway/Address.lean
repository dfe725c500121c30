import TokenGateway.Hex
import TokenGateway.Keccak

namespace TokenGateway

abbrev Address := FixedBytes 20

namespace Address

inductive Error
  | oddLength
  | wrongLength
  | invalidCharacter (c : Char) (index : Nat)
  deriving Repr, DecidableEq, Inhabited

def Error.message : Error → String
  | .oddLength => "odd number of digits"
  | .wrongLength => "invalid string length"
  | .invalidCharacter c index =>
    "invalid character " ++ Text.quoteOne c ++ " at position " ++ toString index

/--
Read an address from forty hexadecimal digits of any case, with or without the mark `0x`. The letter
case is not held against the checksum.
-/
def ofText (text : String) : Except Error Address :=
  let body := Text.utf8 (Hex.stripMark text)
  if body.length % 2 = 1 then
    .error .oddLength
  else if body.length ≠ 40 then
    .error .wrongLength
  else
    match Hex.readPairs 0 body with
    | .error (b, index) => .error (.invalidCharacter (Char.ofNat b.toNat) index)
    | .ok bs =>
      match FixedBytes.ofBytes? 20 bs with
      | some address => .ok address
      | none => .error .wrongLength

def plain (address : Address) : String :=
  Hex.encode address.toBytes

/--
A digit in the case that the checksum asks for: upper case if the nibble of the hash at its place is
eight or more.
-/
def checkedDigit (c : Char) (nibble : UInt8) : Char :=
  if 8 ≤ nibble then c.toUpper else c

def checksummed (address : Address) : String :=
  let digits := Hex.digits address.toBytes
  let hash := Keccak.hash (digits.map fun c => c.toNat.toUInt8)
  let nibbles := hash.flatMap fun b => [b / 16, b % 16]
  String.ofList ('0' :: 'x' :: List.zipWith checkedDigit digits nibbles)

end Address

end TokenGateway
