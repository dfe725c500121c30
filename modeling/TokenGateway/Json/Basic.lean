import TokenGateway.Text.Numeral

/-!
Numbers keep the literal they were written as, objects keep their fields in order and with every
repetition of a key.
-/

namespace TokenGateway

inductive Json
  | null
  | bool (b : Bool)
  | number (literal : String)
  | string (s : String)
  | array (items : List Json)
  | object (fields : List (String × Json))
  /-- A well-formed value that denotes no Unicode text: a string with half a surrogate pair, or an
  object with such a key. It may stand where nothing reads it. -/
  | unreadable
  deriving Repr, BEq, Inhabited

namespace Json

def ofInt (n : Int) : Json :=
  .number (toString n)

def ofNat (n : Nat) : Json :=
  .number (toString n)

def quantity (n : Nat) : Json :=
  .string (Text.quantity n)

def string? : Json → Option String
  | .string s => some s
  | _ => none

def natBelow? (limit : Nat) : Json → Option Nat
  | .number literal =>
    if literal.toList.all Char.isDigit then
      (Text.readUnsigned 10 limit literal.toList).toOption
    else
      none
  | _ => none

def intWithin? (limit : Nat) : Json → Option Int
  | .number literal =>
    if literal.toList.all fun c => c.isDigit || c = '-' then
      (Text.readSigned 10 limit literal.toList).toOption
    else
      none
  | _ => none

def valuesOf (keys : List String) (fields : List (String × Json)) : List Json :=
  fields.filterMap fun field => if keys.contains field.1 then some field.2 else none

/--
The one value that fields give to a key under any of its spellings: `none` if it is missing, an error
if it is given twice.
-/
def only? (keys : List String) (fields : List (String × Json)) : Except Unit (Option Json) :=
  match valuesOf keys fields with
  | [] => .ok none
  | [value] => .ok (some value)
  | _ => .error ()

end Json

end TokenGateway
