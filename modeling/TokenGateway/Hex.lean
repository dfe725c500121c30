import TokenGateway.Bytes
import TokenGateway.Text.Quoted
import TokenGateway.Text.Utf8

/-!
The hexadecimal form of byte strings. What goes out is marked `0x` and in lower case; what comes in
may leave the mark out, write it `0X`, and use digits of either case.
-/

namespace TokenGateway.Hex

inductive Error
  | oddLength (input : String)
  /-- The first byte after the mark that is no digit, taken as a character of its own, with its
  place among those bytes. -/
  | invalidCharacter (input : String) (c : Char) (index : Nat)
  deriving Repr, DecidableEq, Inhabited

def Error.message : Error → String
  | .oddLength input => "malformed hex " ++ Text.quote input ++ ": odd number of digits"
  | .invalidCharacter input c index =>
    "malformed hex " ++ Text.quote input ++ ": invalid character " ++ Text.quoteOne c
      ++ " at position " ++ toString index

def nibble? (b : UInt8) : Option UInt8 :=
  if 0x30 ≤ b ∧ b ≤ 0x39 then
    some (b - 0x30)
  else if 0x61 ≤ b ∧ b ≤ 0x66 then
    some (b - 0x61 + 10)
  else if 0x41 ≤ b ∧ b ≤ 0x46 then
    some (b - 0x41 + 10)
  else
    none

def digit (v : UInt8) : Char :=
  if v < 10 then Char.ofNat (0x30 + v.toNat) else Char.ofNat (0x61 + (v.toNat - 10))

def digits (bs : Bytes) : List Char :=
  bs.flatMap fun b => [digit (b / 16), digit (b % 16)]

def encode (bs : Bytes) : String :=
  String.ofList ('0' :: 'x' :: digits bs)

def unmark : List Char → List Char
  | '0' :: 'x' :: cs => cs
  | '0' :: 'X' :: cs => cs
  | cs => cs

def stripMark (text : String) : String :=
  String.ofList (unmark text.toList)

/--
Read pairs of digits; a failure gives the first byte that is no digit and its place, counted from
`index`. A last digit without a partner is left out.
-/
def readPairs (index : Nat) : Bytes → Except (UInt8 × Nat) Bytes
  | hi :: lo :: rest =>
    match nibble? hi, nibble? lo with
    | none, _ => .error (hi, index)
    | some _, none => .error (lo, index + 1)
    | some h, some l => (readPairs (index + 2) rest).map fun bs => (h * 16 + l) :: bs
  | _ => .ok []

def decode (text : String) : Except Error Bytes :=
  let body := Text.utf8 (stripMark text)
  -- The number of digits is looked at before the digits.
  if body.length % 2 = 1 then
    .error (.oddLength text)
  else
    match readPairs 0 body with
    | .ok bs => .ok bs
    | .error (b, index) => .error (.invalidCharacter text (Char.ofNat b.toNat) index)

end TokenGateway.Hex
