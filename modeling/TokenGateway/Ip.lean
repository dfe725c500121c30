import TokenGateway.Text.Numeral
import TokenGateway.Text.Split

/-!
An Internet address of version 4 is a number of 32 bits; one of version 6 is a list of eight groups of
16 bits.
-/

namespace TokenGateway.Ip

def readOctet (cs : List Char) : Option Nat :=
  if cs.length ≤ 3 && (cs.length == 1 || cs.head? != some '0') then
    match cs with
    | [] => none
    | _ => (Text.readDigits 10 256 0 cs).toOption
  else
    none

def readV4 (cs : List Char) : Option Nat := do
  match ← (Text.pieces '.' cs).mapM readOctet with
  | [a, b, c, d] => some (((a * 256 + b) * 256 + c) * 256 + d)
  | _ => none

def readGroup (cs : List Char) : Option Nat :=
  match cs with
  | [] => none
  | _ => if cs.length ≤ 4 then (Text.readDigits 16 0x10000 0 cs).toOption else none

def readGroups (mixed : Bool) : List (List Char) → Option (List Nat)
  | [] => some []
  | [last] =>
    match readGroup last with
    | some g => some [g]
    | none =>
      if mixed then
        (readV4 last).map fun n => [n / 0x10000, n % 0x10000]
      else
        none
  | first :: rest => do
    let g ← readGroup first
    let gs ← readGroups mixed rest
    return g :: gs

def readStretch (mixed : Bool) (cs : List Char) : Option (List Nat) :=
  if cs.isEmpty then some [] else readGroups mixed (Text.pieces ':' cs)

def cutDouble? : List Char → Option (List Char × List Char)
  | ':' :: ':' :: rest => some ([], rest)
  | c :: rest => (cutDouble? rest).map fun (before, behind) => (c :: before, behind)
  | [] => none

def readV6 (cs : List Char) : Option (List Nat) := do
  match cutDouble? cs with
  | some (before, behind) =>
    let front ← readStretch false before
    let back ← readStretch true behind
    if front.length + back.length < 8 then
      return front ++ List.replicate (8 - front.length - back.length) 0 ++ back
    else
      none
  | none =>
    let groups ← readStretch true cs
    if groups.length = 8 then return groups else none

def showV4 (n : Nat) : String :=
  String.intercalate "."
    [toString (n / Nat.pow 2 24 % 256), toString (n / Nat.pow 2 16 % 256),
     toString (n / Nat.pow 2 8 % 256), toString (n % 256)]

def leadingZeros (groups : List Nat) : Nat :=
  (groups.takeWhile (· == 0)).length

/--
The place and length of the longest run of zero groups; of two that are equally long, the first.
-/
def longestZeros : (position : Nat) → List Nat → Nat × Nat
  | _, [] => (0, 0)
  | position, g :: gs =>
    let here := leadingZeros (g :: gs)
    let later := longestZeros (position + 1) gs
    if here ≠ 0 ∧ later.2 ≤ here then (position, here) else later

def showGroups (groups : List Nat) : String :=
  String.intercalate ":" (groups.map fun g => String.ofList (Nat.toDigits 16 g))

def showV6 (groups : List Nat) : String :=
  let (position, length) := longestZeros 0 groups
  if length < 2 then
    showGroups groups
  else
    showGroups (groups.take position) ++ "::" ++ showGroups (groups.drop (position + length))

end TokenGateway.Ip
