import TokenGateway.Ip

namespace TokenGateway

inductive SocketAddress
  | v4 (ip service : Nat)
  /-- `zone` is the scope of an address that is valid on one link only; 0 is none. -/
  | v6 (groups : List Nat) (zone service : Nat)
  deriving Repr, DecidableEq, Inhabited

namespace SocketAddress

def readNumber (limit : Nat) (cs : List Char) : Option Nat :=
  match cs with
  | [] => none
  | _ => (Text.readDigits 10 limit 0 cs).toOption

def readZoned (cs : List Char) : Option (List Nat × Nat) :=
  match Text.cutAt? '%' cs with
  | none => (Ip.readV6 cs).map fun groups => (groups, 0)
  | some (ip, zone) => do
    let groups ← Ip.readV6 ip
    let zone ← readNumber (Nat.pow 2 32) zone
    return (groups, zone)

def read (cs : List Char) : Option SocketAddress :=
  match cs with
  | '[' :: rest => do
    let (inside, behind) ← Text.cutAt? ']' rest
    let (groups, zone) ← readZoned inside
    match behind with
    | ':' :: digits => (readNumber 0x10000 digits).map (.v6 groups zone)
    | _ => none
  | _ => do
    let (ip, digits) ← Text.cutAt? ':' cs
    let ip ← Ip.readV4 ip
    (readNumber 0x10000 digits).map (.v4 ip)

def ofText? (text : String) : Option SocketAddress :=
  read text.toList

def mappedV4? : List Nat → Option Nat
  | [0, 0, 0, 0, 0, 0xffff, high, low] => some (high * 0x10000 + low)
  | _ => none

def text : SocketAddress → String
  | .v4 ip service => Ip.showV4 ip ++ ":" ++ toString service
  | .v6 groups zone service =>
    let ip := match mappedV4? groups with
      | some n => "::ffff:" ++ Ip.showV4 n
      | none => Ip.showV6 groups
    let zone := if zone = 0 then "" else "%" ++ toString zone
    "[" ++ ip ++ zone ++ "]:" ++ toString service

end SocketAddress

end TokenGateway
