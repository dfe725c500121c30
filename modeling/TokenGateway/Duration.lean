import TokenGateway.Rounding

namespace TokenGateway

structure Duration where
  nanoseconds : Nat
  deriving Repr, DecidableEq, Inhabited

namespace Duration

def ofMillis (ms : Nat) : Duration :=
  ⟨ms * 1000000⟩

def ofSecondsAndNanos (secs nanos : Nat) : Duration :=
  ⟨secs * 1000000000 + nanos⟩

instance : LE Duration where
  le a b := a.nanoseconds ≤ b.nanoseconds

instance (a b : Duration) : Decidable (a ≤ b) :=
  inferInstanceAs (Decidable (a.nanoseconds ≤ b.nanoseconds))

def decimal (n places : Nat) : String :=
  let whole := n / Nat.pow 10 places
  let digits := Nat.toDigits 10 (n % Nat.pow 10 places)
  let fraction := List.replicate (places - digits.length) '0' ++ digits
  let shown := (fraction.reverse.dropWhile (· = '0')).reverse
  if shown.isEmpty then
    toString whole
  else
    toString whole ++ "." ++ String.ofList shown

def precise (d : Duration) : String :=
  let n := d.nanoseconds
  if Nat.pow 10 9 ≤ n then
    decimal n 9 ++ "s"
  else if Nat.pow 10 6 ≤ n then
    decimal n 6 ++ "ms"
  else if Nat.pow 10 3 ≤ n then
    decimal n 3 ++ "µs"
  else
    toString n ++ "ns"

/--
The number of seconds of a span in floating point: the whole seconds and the rest are rounded each,
and so is their sum.
-/
def seconds (d : Duration) : Binary64 :=
  let whole := Binary64.nearest (d.nanoseconds / Nat.pow 10 9) 1
  let rest := Binary64.nearest (d.nanoseconds % Nat.pow 10 9) (Nat.pow 10 9)
  whole.add rest

/--
The brief text of a span: whole milliseconds below a second, whole seconds if no milliseconds are
left over, else seconds with one decimal place.
-/
def brief (d : Duration) : String :=
  let ms := d.nanoseconds / Nat.pow 10 6
  if ms < 1000 then
    toString ms ++ "ms"
  else if ms % 1000 = 0 then
    toString (d.nanoseconds / Nat.pow 10 9) ++ "s"
  else
    d.seconds.oneDecimal ++ "s"

end Duration

end TokenGateway
