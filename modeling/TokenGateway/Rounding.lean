/-!
Exact rounding of quotients: to the nearest whole number, and to the nearest number with 53
significant bits, which is what arithmetic in binary floating point of double width gives. Ties go to
the even neighbour.
-/

namespace TokenGateway

def roundHalfEven (a b : Nat) : Nat :=
  let q := a / b
  let twice := 2 * (a % b)
  if b < twice || (twice == b && q % 2 == 1) then q + 1 else q

structure Binary64 where
  num : Nat
  den : Nat
  deriving Repr, DecidableEq

namespace Binary64

def nearest (num den : Nat) : Binary64 :=
  if num = 0 then
    ⟨0, 1⟩
  else
    let estimate : Int := 52 + den.log2 - num.log2
    let scaled (shift : Int) : Nat × Nat :=
      (num * Nat.pow 2 shift.toNat, den * Nat.pow 2 (-shift).toNat)
    let low := scaled estimate
    let shift := if low.1 < Nat.pow 2 52 * low.2 then estimate + 1 else estimate
    let exact := scaled shift
    ⟨roundHalfEven exact.1 exact.2 * Nat.pow 2 (-shift).toNat, Nat.pow 2 shift.toNat⟩

def add (x y : Binary64) : Binary64 :=
  nearest (x.num * y.den + y.num * x.den) (x.den * y.den)

def oneDecimal (x : Binary64) : String :=
  let tenths := roundHalfEven (10 * x.num) x.den
  toString (tenths / 10) ++ "." ++ toString (tenths % 10)

end Binary64

end TokenGateway
