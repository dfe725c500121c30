/-!
This module contains the logic to spell a label of any script with letters, digits and hyphens: first
its ASCII characters, then the code points of the others in increasing order, each as the distance
from the one before in a number system whose digits grow as the distances do.
-/

namespace TokenGateway.Url.Punycode

def digit (n : Nat) : Char :=
  if n < 26 then Char.ofNat (0x61 + n) else Char.ofNat (0x30 + (n - 26))

def shrink : (fuel : Nat) → (k delta : Nat) → Nat
  | 0, k, delta => k + 36 * delta / (delta + 38)
  | fuel + 1, k, delta =>
    if 455 < delta then shrink fuel (k + 36) (delta / 35) else k + 36 * delta / (delta + 38)

def adapt (delta count : Nat) (first : Bool) : Nat :=
  let halved := if first then delta / 700 else delta / 2
  let scaled := halved + halved / count
  shrink scaled.log2 0 scaled

def threshold (k bias : Nat) : Nat :=
  if k ≤ bias then 1 else if bias + 26 ≤ k then 26 else k - bias

def distance : (fuel : Nat) → (bias k q : Nat) → List Char
  | 0, _, _, q => [digit q]
  | fuel + 1, bias, k, q =>
    let t := threshold k bias
    if q < t then
      [digit q]
    else
      digit (t + (q - t) % (36 - t)) :: distance fuel bias (k + 36) ((q - t) / (36 - t))

structure Progress where
  delta : Nat
  bias : Nat
  placed : Nat
  reversed : List Char

def pass (basic n : Nat) (p : Progress) (c : Nat) : Progress :=
  if c < n then
    ⟨p.delta + 1, p.bias, p.placed, p.reversed⟩
  else if c = n then
    let digits := distance (p.delta.log2 + 1) p.bias 36 p.delta
    ⟨0, adapt p.delta (p.placed + 1) (p.placed == basic), p.placed + 1,
     digits.reverse ++ p.reversed⟩
  else
    p

def placeAll (label : List Nat) (basic : Nat) : (next : Nat) → List Nat → Progress → Progress
  | _, [], p => p
  | next, n :: rest, p =>
    let p := ⟨p.delta + (n - next) * (p.placed + 1), p.bias, p.placed, p.reversed⟩
    let p := label.foldl (pass basic n) p
    placeAll label basic (n + 1) rest ⟨p.delta + 1, p.bias, p.placed, p.reversed⟩

def encode (label : List Char) : List Char :=
  let ascii := label.filter (·.toNat < 0x80)
  let points := label.map Char.toNat
  let others := ((points.filter (0x80 ≤ ·)).mergeSort (· ≤ ·)).eraseDups
  let start := ascii.reverse
  let start := if ascii.isEmpty then start else '-' :: start
  (placeAll points ascii.length 0x80 others ⟨0, 72, ascii.length, start⟩).reversed.reverse

end TokenGateway.Url.Punycode
