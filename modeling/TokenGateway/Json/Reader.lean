import TokenGateway.Json.Basic
import TokenGateway.Json.Token

/-!
The tokens of a text are taken one by one. What has been opened and not yet closed waits on a stack,
so values may be nested to any depth.
-/

namespace TokenGateway.Json

def someDigits (cs : List Char) : Option (List Char) :=
  match cs.span Char.isDigit with
  | ([], _) => none
  | (_, rest) => some rest

def wholePart : List Char → Option (List Char)
  | '0' :: rest => if rest.head?.any Char.isDigit then none else some rest
  | cs => someDigits cs

def fractionPart : List Char → Option (List Char)
  | '.' :: rest => someDigits rest
  | cs => some cs

def exponentPart : List Char → Option (List Char)
  | e :: rest =>
    if e = 'e' ∨ e = 'E' then
      match rest with
      | '+' :: digits => someDigits digits
      | '-' :: digits => someDigits digits
      | digits => someDigits digits
    else
      some (e :: rest)
  | [] => some []

def isNumber (cs : List Char) : Bool :=
  let unsigned := match cs with
    | '-' :: rest => rest
    | _ => cs
  (wholePart unsigned >>= fractionPart >>= exponentPart) == some []

def ofWord? (cs : List Char) : Option Json :=
  if cs = ['n', 'u', 'l', 'l'] then
    some .null
  else if cs = ['t', 'r', 'u', 'e'] then
    some (.bool true)
  else if cs = ['f', 'a', 'l', 's', 'e'] then
    some (.bool false)
  else if isNumber cs then
    some (.number (String.ofList cs))
  else
    none

inductive Frame
  | array (reversed : List Json)
  /-- `key?` belongs to the value that is read next; `readable` tells that all keys so far are
  texts. -/
  | object (reversed : List (String × Json)) (readable : Bool) (key? : Option String)

inductive Place
  | value
  | firstItem
  | firstKey
  | key
  | colon
  | afterItem
  | done (value : Json)

structure Progress where
  place : Place
  stack : List Frame

def place (value : Json) : List Frame → Progress
  | [] => ⟨.done value, []⟩
  | .array items :: stack => ⟨.afterItem, .array (value :: items) :: stack⟩
  | .object fields readable (some key) :: stack =>
    ⟨.afterItem, .object ((key, value) :: fields) readable none :: stack⟩
  | .object fields _ none :: stack => ⟨.afterItem, .object fields false none :: stack⟩

def closeArray : List Frame → Option Progress
  | .array items :: stack => some (place (.array items.reverse) stack)
  | _ => none

def closeObject : List Frame → Option Progress
  | .object fields readable _ :: stack =>
    some (place (if readable then .object fields.reverse else .unreadable) stack)
  | _ => none

def startValue (stack : List Frame) : Token → Option Progress
  | .openArray => some ⟨.firstItem, .array [] :: stack⟩
  | .openObject => some ⟨.firstKey, .object [] true none :: stack⟩
  | .word cs => (ofWord? cs).map (place · stack)
  | .text (some s) => some (place (.string s) stack)
  | .text none => some (place .unreadable stack)
  | _ => none

def takeKey (s? : Option String) : List Frame → Option Progress
  | .object fields readable _ :: stack =>
    some ⟨.colon, .object fields (readable && s?.isSome) s? :: stack⟩
  | _ => none

def step (progress : Progress) (token : Token) : Option Progress :=
  match progress.place, token with
  | .value, token => startValue progress.stack token
  | .firstItem, .closeArray => closeArray progress.stack
  | .firstItem, token => startValue progress.stack token
  | .firstKey, .closeObject => closeObject progress.stack
  | .firstKey, .text s? => takeKey s? progress.stack
  | .key, .text s? => takeKey s? progress.stack
  | .colon, .colon => some ⟨.value, progress.stack⟩
  | .afterItem, .closeArray => closeArray progress.stack
  | .afterItem, .closeObject => closeObject progress.stack
  | .afterItem, .comma =>
    match progress.stack with
    | .array _ :: _ => some ⟨.value, progress.stack⟩
    | .object _ _ _ :: _ => some ⟨.key, progress.stack⟩
    | [] => none
  | _, _ => none

def parse (text : String) : Option Json := do
  let ts ← tokens .gap text.toList
  let progress ← ts.foldlM step ⟨.value, []⟩
  match progress.place with
  | .done value => some value
  | _ => none

end TokenGateway.Json
