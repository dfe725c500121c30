import TokenGateway.Ip
import TokenGateway.Text.LowerCase
import TokenGateway.Text.Visible
import TokenGateway.Url.Basic
import TokenGateway.Url.Percent
import TokenGateway.Url.Punycode

/-!
The host of a special scheme is an Internet address of version 6 in brackets, one of version 4 if its
last label looks like a number, or else a domain name; the host of any other scheme is taken as it is.
-/

namespace TokenGateway.Url

def domainForbidden : List Char :=
  [' ', '%', '\x23', '/', ':', '<', '>', '?', '@', '[', '\x5c', ']', '^', '|', '\x7f']

def opaqueForbidden : List Char :=
  ['\x00', '\t', '\n', '\r', ' ', '\x23', '/', ':', '<', '>', '?', '@', '[', '\x5c', ']', '^', '|']

def isIgnoredInDomain (c : Char) : Bool :=
  [0xad, 0x34f, 0x180b, 0x180c, 0x180d, 0x180f, 0x200b, 0x2060, 0x2064, 0xfeff].contains c.toNat
    || (0xfe00 ≤ c.toNat && c.toNat ≤ 0xfe0f)

/--
The form of a character in domain names: ideographic full stops are points, letters of full width
are plain ones, and all letters are in lower case.
-/
def mapDomainChar (c : Char) : Char :=
  if [0x3002, 0xff0e, 0xff61].contains c.toNat then
    '.'
  else if 0xff01 ≤ c.toNat ∧ c.toNat ≤ 0xff5e then
    Text.lowerCase (Char.ofNat (c.toNat - 0xfee0))
  else
    Text.lowerCase c

def wireLabel (label : List Char) : Option (List Char) :=
  if label.all (·.toNat < 0x80) then
    match label with
    | 'x' :: 'n' :: '-' :: '-' :: rest =>
      if rest.isEmpty || rest.getLast? == some '-' then none else some label
    | _ => some label
  else if label.all fun c => c.toNat < 0x80 || Text.isVisible c then
    some ('x' :: 'n' :: '-' :: '-' :: Punycode.encode label)
  else
    none

def wireDomain (name : List Char) : Option (List Char) := do
  let mapped := (name.filter (!isIgnoredInDomain ·)).map mapDomainChar
  if mapped.any fun c => c.toNat < 0x20 || domainForbidden.contains c then
    none
  let labels ← (Text.pieces '.' mapped).mapM wireLabel
  return (labels.intersperse ['.']).flatten

def readV4Part (cs : List Char) : Option (Option Nat) :=
  let numeral (radix : Nat) (digits : List Char) : Option (Option Nat) :=
    match digits with
    | [] => some (some 0)
    | _ =>
      -- A number that does not fit 32 bits is still a number.
      if digits.all fun c => (Text.digitValue? radix c).isSome then
        some (Text.readDigits radix (Nat.pow 2 32) 0 digits).toOption
      else
        none
  match cs with
  | [] => none
  | '0' :: 'x' :: digits => numeral 16 digits
  | '0' :: 'X' :: digits => numeral 16 digits
  | '0' :: c :: digits => numeral 8 (c :: digits)
  | digits => numeral 10 digits

def properLabels (domain : List Char) : List (List Char) :=
  let labels := Text.pieces '.' domain
  if labels.getLast? == some [] then labels.dropLast else labels

def endsInNumber (domain : List Char) : Bool :=
  match (properLabels domain).getLast? with
  | none => false
  | some last => (!last.isEmpty && last.all Char.isDigit) || (readV4Part last).isSome

/--
Read an address of version 4 of one to four parts; the last part fills what the others leave.
-/
def readLooseV4 (domain : List Char) : Option Nat := do
  let labels := properLabels domain
  if 4 < labels.length then
    none
  let parts ← labels.mapM fun label => (readV4Part label).join
  match parts.reverse with
  | [] => none
  | last :: reversed =>
    let front := reversed.reverse
    if Nat.pow 256 (4 - front.length) ≤ last || front.any (255 < ·) then
      none
    let high := front.foldl (fun n part => n * 256 + part) 0
    return high * Nat.pow 256 (4 - front.length) + last

def readBracketed (rest : List Char) : Except Error String :=
  if rest.getLast? == some ']' then
    match Ip.readV6 rest.dropLast with
    | some groups => .ok ("[" ++ Ip.showV6 groups ++ "]")
    | none => .error .badIpv6
  else
    .error .badIpv6

def readHost (cs : List Char) : Except Error String :=
  match cs with
  | '[' :: rest => readBracketed rest
  | _ =>
    match Text.ofUtf8? (decodePercent (Text.utf8 (String.ofList cs))) with
    | none => .error .badDomainName
    | some name =>
      match wireDomain name.toList with
      | none => .error .badDomainName
      | some [] => .error .emptyHost
      | some domain =>
        if endsInNumber domain then
          match readLooseV4 domain with
          | some n => .ok (Ip.showV4 n)
          | none => .error .badIpv4
        else
          .ok (String.ofList domain)

def readOpaqueHost (cs : List Char) : Except Error String :=
  match cs with
  | '[' :: rest => readBracketed rest
  | _ =>
    if cs.any opaqueForbidden.contains then
      .error .badHostCharacter
    else
      .ok (String.ofList (encodeWith [] cs))

end TokenGateway.Url
