namespace TokenGateway

structure Url.Authority where
  username : String
  password : String
  host : String
  service? : Option Nat
  deriving Repr, DecidableEq

structure Url where
  scheme : String
  authority? : Option Url.Authority
  path : String
  query? : Option String
  fragment? : Option String
  deriving Repr, DecidableEq

namespace Url

inductive Error
  | emptyHost
  | badDomainName
  | badService
  | badIpv4
  | badIpv6
  | badHostCharacter
  | noScheme
  deriving Repr, DecidableEq, Inhabited

def Error.message : Error → String
  | .emptyHost => "empty host"
  | .badDomainName => "invalid international domain name"
  | .badService => "invalid port number"
  | .badIpv4 => "invalid IPv4 address"
  | .badIpv6 => "invalid IPv6 address"
  | .badHostCharacter => "invalid domain character"
  | .noScheme => "relative URL without a base"

inductive SchemeKind
  | network
  | file
  | other
  deriving Repr, DecidableEq, Inhabited

def SchemeKind.isSpecial : SchemeKind → Bool
  | .other => false
  | _ => true

def schemeKind (scheme : String) : SchemeKind :=
  if scheme = "file" then
    .file
  else if ["http", "https", "ws", "wss", "ftp"].contains scheme then
    .network
  else
    .other

def usualService? (scheme : String) : Option Nat :=
  match scheme with
  | "http" => some 80
  | "ws" => some 80
  | "https" => some 443
  | "wss" => some 443
  | "ftp" => some 21
  | _ => none

namespace Authority

def credentials (a : Authority) : String :=
  if a.password ≠ "" then
    a.username ++ ":" ++ a.password ++ "@"
  else if a.username ≠ "" then
    a.username ++ "@"
  else
    ""

def text (a : Authority) : String :=
  a.credentials ++ a.host ++
    match a.service? with
    | some n => ":" ++ toString n
    | none => ""

end Authority

def text (u : Url) : String :=
  let front := match u.authority? with
    | some a => "//" ++ a.text
    -- A dot keeps a path that begins with two slashes apart from an authority.
    | none => if u.path.toList.take 2 = ['/', '/'] then "/." else ""
  let query := match u.query? with
    | some q => "?" ++ q
    | none => ""
  let fragment := match u.fragment? with
    | some f => "#" ++ f
    | none => ""
  u.scheme ++ ":" ++ front ++ u.path ++ query ++ fragment

def target (u : Url) : String :=
  u.path ++
    match u.query? with
    | some q => "?" ++ q
    | none => ""

end Url

end TokenGateway
