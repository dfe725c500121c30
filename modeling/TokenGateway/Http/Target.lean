import TokenGateway.Text.Utf8

/-!
The target of a request is a path, the star, a full URI, or the name of a machine alone. Only its path
matters to the gateway.
-/

namespace TokenGateway.Http

def byte (c : Char) : UInt8 :=
  UInt8.ofNat c.toNat

def isAlphanumeric (b : UInt8) : Bool :=
  (byte '0' ≤ b && b ≤ byte '9') || (byte 'a' ≤ b && b ≤ byte 'z') || (byte 'A' ≤ b && b ≤ byte 'Z')

def isSchemeByte (b : UInt8) : Bool :=
  isAlphanumeric b || ['+', '-', '.', '~'].any (byte · == b)

def isAuthorityByte (b : UInt8) : Bool :=
  isAlphanumeric b
    || ['!', '$', '&', '\x27', '(', ')', '*', '+', ',', '-', '.', ':', ';', '=', '@', '[', ']', '_',
        '~'].any (byte · == b)

def closesAuthority (b : UInt8) : Bool :=
  ['/', '?', '\x23'].any (byte · == b)

def isPathByte (b : UInt8) : Bool :=
  b == 0x21 || b == 0x22 || (0x24 ≤ b && b ≤ 0x3b) || b == 0x3d || (0x40 ≤ b && b ≤ 0x5f)
    || (0x61 ≤ b && b ≤ 0xff)

def isQueryByte (b : UInt8) : Bool :=
  b == 0x21 || (0x24 ≤ b && b ≤ 0x3b) || b == 0x3d || 0x3f ≤ b

def readPath (bs : Bytes) : Option Bytes :=
  let front := bs.takeWhile (· != byte '\x23')
  let path := front.takeWhile (· != byte '?')
  let query := front.drop (path.length + 1)
  if path.all isPathByte && query.all isQueryByte then some path else none

def schemeLength? : Bytes → Option Nat
  | 0x3a :: 0x2f :: 0x2f :: _ => some 0
  | b :: rest => if isSchemeByte b then (schemeLength? rest).map (· + 1) else none
  | [] => none

structure Seen where
  colons : Nat
  opened : Bool
  closed : Bool
  percent : Bool
  lastIsAt : Bool

/--
Take one byte of a machine's name, with what stands before and behind it. Credentials end at the last
at sign; a percent sign may stand in them and between the brackets.
-/
def Seen.next (s : Seen) (b : UInt8) : Option Seen :=
  if b == byte ':' then
    if 8 ≤ s.colons then
      none
    else
      some ⟨s.colons + 1, s.opened, s.closed, s.percent, false⟩
  else if b == byte '[' then
    if s.percent || s.opened then none else some ⟨s.colons, true, s.closed, s.percent, false⟩
  else if b == byte ']' then
    if !s.opened || s.closed then none else some ⟨0, s.opened, true, false, false⟩
  else if b == byte '@' then
    some ⟨0, s.opened, s.closed, false, true⟩
  else if b == byte '%' then
    some ⟨s.colons, s.opened, s.closed, true, false⟩
  else if isAuthorityByte b then
    some ⟨s.colons, s.opened, s.closed, s.percent, false⟩
  else
    none

def isAuthority (bs : Bytes) : Bool :=
  match bs.foldlM Seen.next ⟨0, false, false, false, false⟩ with
  | none => false
  | some s => s.opened == s.closed && s.colons ≤ 1 && !s.lastIsAt && !s.percent

def targetPath? (bs : Bytes) : Option Bytes :=
  match bs with
  | [] => none
  | [0x2a] => some bs
  | 0x2f :: _ => readPath bs
  | _ =>
    match schemeLength? bs with
    | some n =>
      if 64 < n then
        none
      else
        let rest := bs.drop (n + 3)
        let authority := rest.takeWhile (!closesAuthority ·)
        if authority.isEmpty || !isAuthority authority then
          none
        else
          (readPath (rest.drop authority.length)).map fun path =>
            if path.isEmpty then [byte '/'] else path
    | none => if isAuthority bs then some [] else none

/--
The path of a target; `none` if the text is no target. The name of a machine alone has an empty path.
-/
def path? (target : String) : Option String := do
  let bs := Text.utf8 target
  if 65534 < bs.length then
    none
  let path ← targetPath? bs
  Text.ofUtf8? path

end TokenGateway.Http
