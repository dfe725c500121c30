import TokenGateway.Text.Utf8
import TokenGateway.Text.Numeral

namespace TokenGateway.Url

def isRaw (c : Char) : Bool :=
  c.toNat < 0x20 || 0x7f ≤ c.toNat

def fragmentSet : List Char :=
  [' ', '\x22', '<', '>', '\x60']

def querySet : List Char :=
  [' ', '\x22', '\x23', '<', '>']

def specialQuerySet : List Char :=
  '\x27' :: querySet

def pathSet : List Char :=
  fragmentSet ++ ['\x23', '?', '\x7b', '\x7d']

def credentialSet : List Char :=
  pathSet ++ ['/', ':', ';', '=', '@', '[', '\x5c', ']', '^', '|']

def upperDigit (n : Nat) : Char :=
  if n < 10 then Char.ofNat (0x30 + n) else Char.ofNat (0x41 + (n - 10))

def percentByte (b : UInt8) : List Char :=
  ['%', upperDigit (b.toNat / 16), upperDigit (b.toNat % 16)]

def encodeWith (set : List Char) (cs : List Char) : List Char :=
  cs.flatMap fun c =>
    if isRaw c || set.contains c then
      (Text.utf8 (String.singleton c)).flatMap percentByte
    else
      [c]

def digitOfByte? (b : UInt8) : Option Nat :=
  Text.digitValue? 16 (Char.ofNat b.toNat)

def decodePercent : Bytes → Bytes
  | 0x25 :: hi :: lo :: rest =>
    match digitOfByte? hi, digitOfByte? lo with
    | some h, some l => UInt8.ofNat (h * 16 + l) :: decodePercent rest
    | _, _ => 0x25 :: decodePercent (hi :: lo :: rest)
  | b :: rest => b :: decodePercent rest
  | [] => []

end TokenGateway.Url
