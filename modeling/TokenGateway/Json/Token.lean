import TokenGateway.Text.Numeral

/-!
A text is cut into tokens before anything is read. A string token is resolved here: its escapes are
read, and the halves of surrogate pairs are put together.
-/

namespace TokenGateway.Json

inductive Token
  | openArray
  | closeArray
  | openObject
  | closeObject
  | comma
  | colon
  | word (cs : List Char)
  | text (s? : Option String)
  deriving Repr, DecidableEq, Inhabited

def isGap (c : Char) : Bool :=
  c = ' ' || c = '\n' || c = '\t' || c = '\r'

def punctuation? (c : Char) : Option Token :=
  match c with
  | '[' => some .openArray
  | ']' => some .closeArray
  | '\x7b' => some .openObject
  | '\x7d' => some .closeObject
  | ',' => some .comma
  | ':' => some .colon
  | _ => none

def escaped? (c : Char) : Option Char :=
  match c with
  | '\x22' => some '\x22'
  | '\x5c' => some '\x5c'
  | '/' => some '/'
  | 'b' => some '\x08'
  | 'f' => some '\x0c'
  | 'n' => some '\n'
  | 'r' => some '\r'
  | 't' => some '\t'
  | _ => none

def fourDigits? (a b c d : Char) : Option Nat := do
  let a ← Text.digitValue? 16 a
  let b ← Text.digitValue? 16 b
  let c ← Text.digitValue? 16 c
  let d ← Text.digitValue? 16 d
  return ((a * 16 + b) * 16 + c) * 16 + d

def isLead (n : Nat) : Bool :=
  0xd800 ≤ n && n < 0xdc00

def isTrail (n : Nat) : Bool :=
  0xdc00 ≤ n && n < 0xe000

def joinPairs : List Nat → Option (List Char)
  | [] => some []
  | [n] => if isLead n || isTrail n then none else some [Char.ofNat n]
  | n :: m :: rest =>
    if isLead n then
      if isTrail m then
        (joinPairs rest).map
          (Char.ofNat (0x10000 + (n - 0xd800) * 0x400 + (m - 0xdc00)) :: ·)
      else
        none
    else if isTrail n then
      none
    else
      (joinPairs (m :: rest)).map (Char.ofNat n :: ·)

inductive Scan
  | gap
  | word (reversed : List Char)
  | text (reversed : List Nat)

/--
Cut characters into tokens. A control character inside a string and an unknown escape are faults, and
so is a string without an end.
-/
def tokens : Scan → List Char → Option (List Token)
  | .gap, [] => some []
  | .word cs, [] => some [.word cs.reverse]
  | .text _, [] => none
  | .text ns, '\x22' :: rest =>
    (tokens .gap rest).map (.text ((joinPairs ns.reverse).map String.ofList) :: ·)
  | .text ns, '\x5c' :: 'u' :: a :: b :: c :: d :: rest =>
    match fourDigits? a b c d with
    | some n => tokens (.text (n :: ns)) rest
    | none => none
  | .text ns, '\x5c' :: c :: rest =>
    match escaped? c with
    | some e => tokens (.text (e.toNat :: ns)) rest
    | none => none
  | .text ns, c :: rest =>
    if c.toNat < 0x20 || c = '\x5c' then none else tokens (.text (c.toNat :: ns)) rest
  | .gap, c :: rest =>
    if isGap c then
      tokens .gap rest
    else if c = '\x22' then
      tokens (.text []) rest
    else
      match punctuation? c with
      | some token => (tokens .gap rest).map (token :: ·)
      | none => tokens (.word [c]) rest
  | .word cs, c :: rest =>
    if isGap c then
      (tokens .gap rest).map (.word cs.reverse :: ·)
    else if c = '\x22' then
      (tokens (.text []) rest).map (.word cs.reverse :: ·)
    else
      match punctuation? c with
      | some token => (tokens .gap rest).map fun ts => .word cs.reverse :: token :: ts
      | none => tokens (.word (c :: cs)) rest

end TokenGateway.Json
