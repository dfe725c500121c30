/-!
Whole numbers in a radix up to 36, below a limit. A numeral may open with a plus sign; the first fault
from the left decides the error.
-/

namespace TokenGateway.Text

inductive NumeralError
  | empty
  | badDigit
  | tooLarge
  | tooSmall
  deriving Repr, DecidableEq, Inhabited

def NumeralError.message : NumeralError → String
  | .empty => "cannot parse integer from empty string"
  | .badDigit => "invalid digit found in string"
  | .tooLarge => "number too large to fit in target type"
  | .tooSmall => "number too small to fit in target type"

def digitValue? (radix : Nat) (c : Char) : Option Nat :=
  let value? :=
    if '0' ≤ c ∧ c ≤ '9' then
      some (c.toNat - '0'.toNat)
    else if 'a' ≤ c ∧ c ≤ 'z' then
      some (c.toNat - 'a'.toNat + 10)
    else if 'A' ≤ c ∧ c ≤ 'Z' then
      some (c.toNat - 'A'.toNat + 10)
    else
      none
  value?.filter (· < radix)

def readDigits (radix limit : Nat) : (n : Nat) → List Char → Except NumeralError Nat
  | n, [] => .ok n
  | n, c :: cs =>
    match digitValue? radix c with
    | none => .error .badDigit
    | some d =>
      if n * radix + d < limit then
        readDigits radix limit (n * radix + d) cs
      else
        .error .tooLarge

def readUnsigned (radix limit : Nat) : List Char → Except NumeralError Nat
  | [] => .error .empty
  | ['+'] => .error .badDigit
  | '+' :: cs => readDigits radix limit 0 cs
  | cs => readDigits radix limit 0 cs

def readSigned (radix limit : Nat) : List Char → Except NumeralError Int
  | ['-'] => .error .badDigit
  | '-' :: cs =>
    match readDigits radix (limit + 1) 0 cs with
    | .ok n => .ok (-n)
    | .error .tooLarge => .error .tooSmall
    | .error e => .error e
  | cs => (readUnsigned radix limit cs).map Int.ofNat

def quantity (n : Nat) : String :=
  String.ofList ('0' :: 'x' :: Nat.toDigits 16 n)

end TokenGateway.Text
