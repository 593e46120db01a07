import PointsTo.Unicode.Folding
import PointsTo.Pattern.Basic

namespace PointsTo.Pattern

structure Flags where
  ignoreCase : Bool := false
  /-- Whether `^` and `$` are also true at the lines inside a text. -/
  lines : Bool := false
  /-- Whether `.` is any character. -/
  dotAll : Bool := false
  /-- Whether a carriage return also ends a line. -/
  bothEnds : Bool := false
  /-- Whether classes know characters from U+0080 on. -/
  unicode : Bool := true
  /-- Whether white space and comments in the pattern are skipped. -/
  spaced : Bool := false
deriving DecidableEq, Repr

namespace Flags

/-- Sets the mode with the given letter. The mode `U` swaps repetitions that take much and little,
and does not change whether there is a match. -/
def set? (f : Flags) (letter : Char) (on : Bool) : Option Flags :=
  match letter with
  | 'i' => some { f with ignoreCase := on }
  | 'm' => some { f with lines := on }
  | 's' => some { f with dotAll := on }
  | 'R' => some { f with bothEnds := on }
  | 'u' => some { f with unicode := on }
  | 'x' => some { f with spaced := on }
  | 'U' => some f
  | _ => none

/-- Reads letters up to a colon or a closing parenthesis, which is given back. The letters after a
hyphen are turned off, and none stands twice. -/
def read? (f : Flags) (seen : List Char) : List Char → Option (Flags × Char × List Char)
  | [] => none
  | c :: s =>
    if c = ':' ∨ c = ')' then
      if seen.head? = some '-' ∨ (c = ')' ∧ seen.isEmpty) then none else some (f, c, s)
    else if seen.contains c then none
    else if c = '-' then read? f (c :: seen) s
    else do read? (← f.set? c !(seen.contains '-')) (c :: seen) s

def dot : Flags → CharSet
  | { dotAll := true, .. } => CharSet.empty.compl
  | { bothEnds := true, .. } => (CharSet.ofRanges [(0x0A, 0x0A), (0x0D, 0x0D)]).compl
  | _ => (CharSet.single '\n').compl

def startAnchor (f : Flags) : Anchor := if f.lines then .lineStart f.bothEnds else .textStart

def endAnchor (f : Flags) : Anchor := if f.lines then .lineEnd f.bothEnds else .textEnd

def asciiWord : CharSet := .ofRanges [(0x30, 0x39), (0x41, 0x5A), (0x5F, 0x5F), (0x61, 0x7A)]

def digit (f : Flags) : CharSet :=
  if f.unicode then Unicode.decimalDigit else .ofRanges [(0x30, 0x39)]

def space (f : Flags) : CharSet :=
  if f.unicode then Unicode.whiteSpace else .ofRanges [(0x09, 0x0D), (0x20, 0x20)]

def word (f : Flags) : CharSet := if f.unicode then Unicode.wordChar else asciiWord

/-- The set with the letters that differ from its own in case only, if case is ignored. -/
def fold (f : Flags) (s : CharSet) : CharSet :=
  if f.ignoreCase then
    Unicode.closeUnder (if f.unicode then Unicode.foldOrbits else Unicode.asciiOrbits) s
  else s

/-- A set as it is used: without the Unicode mode it has no characters from U+0080 on. -/
def checked? (f : Flags) (s : CharSet) : Option CharSet :=
  if f.unicode || s.isAscii then some s else none

/-- Skips white space, and comments from `#` to the end of a line, if they have no meaning. -/
def skip (f : Flags) (s : List Char) : List Char := if f.spaced then outside s else s
where
  outside : List Char → List Char
    | [] => []
    | '#' :: s => comment s
    | c :: s => if Unicode.whiteSpace.contains c then outside s else c :: s
  comment : List Char → List Char
    | [] => []
    | '\n' :: s => outside s
    | _ :: s => comment s

end Flags

end PointsTo.Pattern
