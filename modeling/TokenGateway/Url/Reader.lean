import TokenGateway.Text.Blank
import TokenGateway.Url.Host
import TokenGateway.Url.Path

/-!
This module contains the logic to bring an absolute URL into normal form. Controls and spaces at both
ends are dropped, and so are tabs and line ends anywhere.
-/

namespace TokenGateway.Url

structure Tail where
  path : List Char
  query? : Option (List Char)
  fragment? : Option (List Char)

def Tail.ofChars (cs : List Char) : Tail :=
  let (front, fragment?) := match Text.cutAt? '\x23' cs with
    | some (front, fragment) => (front, some fragment)
    | none => (cs, none)
  match Text.cutAt? '?' front with
  | some (path, query) => ⟨path, some query, fragment?⟩
  | none => ⟨front, none, fragment?⟩

def splitAuthority (kind : SchemeKind) (cs : List Char) : List Char × List Char :=
  cs.span fun c => !(c = '/' || c = '?' || c = '\x23' || (kind.isSpecial && c = '\x5c'))

def cutAtLastAt? (cs : List Char) : Option (List Char × List Char) :=
  (Text.cutAt? '@' cs.reverse).map fun (behind, before) => (before.reverse, behind.reverse)

def readCredentials (cs : List Char) : String × String :=
  match Text.cutAt? ':' cs with
  | none => (String.ofList (encodeWith credentialSet cs), "")
  | some (name, password) =>
    (String.ofList (encodeWith credentialSet name), String.ofList (encodeWith credentialSet password))

def splitHost : (inside : Bool) → List Char → List Char × Option (List Char)
  | _, [] => ([], none)
  | inside, c :: cs =>
    -- A colon between brackets is part of the host.
    if c = ':' && !inside then
      ([], some cs)
    else
      let inside := if c = '[' then true else if c = ']' then false else inside
      let (host, service?) := splitHost inside cs
      (c :: host, service?)

def readService (scheme : String) (digits : List Char) : Except Error (Option Nat) :=
  match digits with
  | [] => .ok none
  | _ =>
    match Text.readDigits 10 0x10000 0 digits with
    | .ok n => .ok (if usualService? scheme = some n then none else some n)
    | .error _ => .error .badService

/--
Read what stands between the two slashes and the path; `isLast` tells that nothing follows it. The
host may not be empty if the scheme asks for one, or if anything else is there.
-/
def readAuthority (scheme : String) (kind : SchemeKind) (isLast : Bool) (cs : List Char) :
    Except Error Authority := do
  let (credentials?, hostPart) := match cutAtLastAt? cs with
    | some (credentials, rest) => (some credentials, rest)
    | none => (none, cs)
  if credentials? = some [] ∧ hostPart = [] ∧ !isLast then
    throw .emptyHost
  let (username, password) := readCredentials (credentials?.getD [])
  let (hostText, digits?) := splitHost false hostPart
  if hostText.isEmpty then
    if kind.isSpecial || digits?.isSome || username ≠ "" || password ≠ "" then
      throw .emptyHost
  let host ← if kind.isSpecial then readHost hostText else readOpaqueHost hostText
  let service? ← readService scheme (digits?.getD [])
  return ⟨username, password, host, service?⟩

def finish (scheme : String) (kind : SchemeKind) (authority? : Option Authority)
    (path : List Char) (tail : Tail) : Url :=
  let set := if kind.isSpecial then specialQuerySet else querySet
  { scheme := scheme
    authority? := authority?
    path := String.ofList path
    query? := tail.query?.map fun q => String.ofList (encodeWith set q)
    fragment? := tail.fragment?.map fun f => String.ofList (encodeWith fragmentSet f) }

def pathAfterAuthority (kind : SchemeKind) (cs : List Char) : List Char :=
  match cs with
  | [] => if kind.isSpecial then ['/'] else []
  | _ :: rest => normalPath kind rest

def readWithAuthority (scheme : String) (kind : SchemeKind) (cs : List Char) : Except Error Url := do
  let (authorityText, rest) := splitAuthority kind cs
  let authority ← readAuthority scheme kind rest.isEmpty authorityText
  let tail := Tail.ofChars rest
  return finish scheme kind (some authority) (pathAfterAuthority kind tail.path) tail

def hereAuthority (host : String) : Authority :=
  ⟨"", "", host, none⟩

def readFile (scheme : String) (cs : List Char) : Except Error Url := do
  let isSlash (c : Char) : Bool := c = '/' || c = '\x5c'
  let (hostText, rest) := match cs with
    | a :: b :: rest => if isSlash a && isSlash b then splitAuthority .file rest else ([], cs)
    | _ => ([], cs)
  let (hostText, rest) := if isDriveLetter hostText then ([], '/' :: hostText ++ rest)
    else (hostText, rest)
  let host ← if hostText.isEmpty then pure "" else readHost hostText
  let tail := Tail.ofChars rest
  let path := match tail.path with
    | c :: path => if isSlash c then path else tail.path
    | [] => []
  let host := if host = "localhost" then "" else host
  let startsWithDrive := (cutAtSlashes .file path).head?.any isDriveLetter
  return finish scheme .file (some (hereAuthority (if startsWithDrive then "" else host)))
    (normalPath .file path) tail

def readOther (scheme : String) (cs : List Char) : Except Error Url :=
  match cs with
  | '/' :: '/' :: rest => readWithAuthority scheme .other rest
  | '/' :: _ =>
    let tail := Tail.ofChars cs
    .ok (finish scheme .other none (normalPath .other (tail.path.drop 1)) tail)
  | _ =>
    let tail := Tail.ofChars cs
    .ok (finish scheme .other none (encodeWith [] tail.path) tail)

def readScheme? (cs : List Char) : Option (String × List Char) :=
  match Text.cutAt? ':' cs with
  | none => none
  | some (scheme, rest) =>
    let isSchemeChar (c : Char) : Bool := c.isAlphanum || c = '+' || c = '-' || c = '.'
    if scheme.head?.any Char.isAlpha && scheme.all isSchemeChar then
      some (String.ofList (scheme.map Char.toLower), rest)
    else
      none

def ofText (text : String) : Except Error Url :=
  let trimmed := Text.trimBoth (fun c => c.toNat ≤ 0x20) text.toList
  let cs := trimmed.filter fun c => !(c = '\t' || c = '\n' || c = '\r')
  match readScheme? cs with
  | none => .error .noScheme
  | some (scheme, rest) =>
    match schemeKind scheme with
    | .network =>
      readWithAuthority scheme .network (rest.dropWhile fun c => c = '/' || c = '\x5c')
    | .file => readFile scheme rest
    | .other => readOther scheme rest

end TokenGateway.Url
