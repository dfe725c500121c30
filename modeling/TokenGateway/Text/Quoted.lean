import TokenGateway.Text.Visible

/-!
Messages show a text or a single character between quotation marks, with escapes for the mark itself,
the backslash, and everything that would not be seen.
-/

namespace TokenGateway.Text

def codePointEscape (c : Char) : List Char :=
  '\x5c' :: 'u' :: '\x7b' :: (Nat.toDigits 16 c.toNat ++ ['\x7d'])

def quoteChar (mark c : Char) : List Char :=
  if c = mark || c = '\x5c' then
    ['\x5c', c]
  else if c = '\n' then
    ['\x5c', 'n']
  else if c = '\r' then
    ['\x5c', 'r']
  else if c = '\t' then
    ['\x5c', 't']
  else if c = '\x00' then
    ['\x5c', '0']
  else if isVisible c then
    [c]
  else
    codePointEscape c

def quoteBetween (mark : Char) (cs : List Char) : String :=
  String.ofList (mark :: (cs.flatMap (quoteChar mark) ++ [mark]))

def quote (s : String) : String :=
  quoteBetween '\x22' s.toList

def quoteOne (c : Char) : String :=
  quoteBetween '\x27' [c]

end TokenGateway.Text
