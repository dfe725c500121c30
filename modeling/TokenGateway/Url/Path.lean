import TokenGateway.Url.Basic
import TokenGateway.Url.Percent

/-!
A segment that is a dot goes away, one that is two dots takes the segment before it along, and a drive
letter at the front of a file path stays whatever comes behind it.
-/

namespace TokenGateway.Url

def isDot (segment : List Char) : Bool :=
  [".", "%2e"].contains (String.ofList segment).toLower

def isDoubleDot (segment : List Char) : Bool :=
  ["..", ".%2e", "%2e.", "%2e%2e"].contains (String.ofList segment).toLower

def isDriveLetter : List Char → Bool
  | [c, mark] => c.isAlpha && (mark = ':' || mark = '|')
  | _ => false

def shorten (kind : SchemeKind) (reversed : List (List Char)) : List (List Char) :=
  match reversed with
  | [drive] => if kind == .file && isDriveLetter drive then reversed else []
  | _ => reversed.drop 1

/--
Add one more segment to a path, whose segments come in reverse order; `isLast` tells that no slash
follows.
-/
def addSegment (kind : SchemeKind) (reversed : List (List Char)) (segment : List Char)
    (isLast : Bool) : List (List Char) :=
  if isDoubleDot segment then
    let shorter := shorten kind reversed
    if isLast then [] :: shorter else shorter
  else if isDot segment then
    if isLast then [] :: reversed else reversed
  else
    let encoded := encodeWith pathSet segment
    match kind, reversed, encoded with
    | .file, [], [letter, '|'] =>
      (if letter.isAlpha then [letter, ':'] else encoded) :: reversed
    | _, _, _ => encoded :: reversed

def addSegments (kind : SchemeKind) : (reversed segments : List (List Char)) → List (List Char)
  | reversed, [] => reversed
  | reversed, [last] => addSegment kind reversed last true
  | reversed, segment :: rest => addSegments kind (addSegment kind reversed segment false) rest

def cutAtSlashes (kind : SchemeKind) : List Char → List (List Char)
  | [] => [[]]
  | c :: cs =>
    if c = '/' || (kind.isSpecial && c = '\x5c') then
      [] :: cutAtSlashes kind cs
    else
      match cutAtSlashes kind cs with
      | [] => [[c]]
      | first :: rest => (c :: first) :: rest

def normalPath (kind : SchemeKind) (cs : List Char) : List Char :=
  let segments := (addSegments kind [] (cutAtSlashes kind cs)).reverse
  let segments := if kind == .file then
      match segments.dropWhile List.isEmpty with
      | [] => [[]]
      | proper => proper
    else
      segments
  segments.flatMap ('/' :: ·)

end TokenGateway.Url
