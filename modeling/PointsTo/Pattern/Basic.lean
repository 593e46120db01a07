import PointsTo.Unicode.Lookup

namespace PointsTo

/-- Where a place can be with respect to words. -/
inductive WordEdge where
  | boundary
  | noBoundary
  | start
  | finish
  | noneBefore
  | noneAfter
deriving DecidableEq, Repr

/-- Conditions on a place in a text. A line is ended by a line feed, and in the mode for both kinds
of line ends also by a carriage return, or the two together. -/
inductive Anchor where
  | textStart
  | textEnd
  | lineStart (bothEnds : Bool)
  | lineEnd (bothEnds : Bool)
  | word (edge : WordEdge) (chars : CharSet)
deriving DecidableEq, Repr

inductive Pattern where
  | nothing
  | char (set : CharSet)
  | anchor (a : Anchor)
  | group (p : Pattern)
  | seq (ps : List Pattern)
  | alt (ps : List Pattern)
  /-- At least `least` copies in a row, and at most `most` of them if there is a limit. -/
  | copies (p : Pattern) (least : Nat) (most : Option Nat)
deriving BEq, Repr, Inhabited

namespace Pattern

/-- The places in front of a character that passes the test. A text of `n` characters has `n + 1`
places, before each character and at the end. A set of places is a number with a bit for each. -/
def placesBefore (test : Char → Bool) (text : List Char) : Nat :=
  text.foldr (fun c places => 2 * places + if test c then 1 else 0) 0

def allPlaces (text : List Char) : Nat := (1 <<< (text.length + 1)) - 1

/-- The places that are not among the given ones. -/
def otherPlaces (text : List Char) (places : Nat) : Nat := allPlaces text ^^^ places

/-- The places at an edge of a word, where `before` and `after` are those with a character of a word
on that side. -/
def placesAtEdge (text : List Char) (before after : Nat) : WordEdge → Nat
  | .boundary => before ^^^ after
  | .noBoundary => otherPlaces text (before ^^^ after)
  | .start => otherPlaces text before &&& after
  | .finish => before &&& otherPlaces text after
  | .noneBefore => otherPlaces text before
  | .noneAfter => otherPlaces text after

/-- The places with the condition. No place is between a carriage return and a line feed when both
end lines. -/
def placesAt (text : List Char) : Anchor → Nat
  | .textStart => 1
  | .textEnd => 1 <<< text.length
  | .lineStart bothEnds =>
    let feed := placesBefore (· == '\n') text
    let back := if bothEnds then placesBefore (· == '\r') text else 0
    1 ||| (feed <<< 1) ||| ((back <<< 1) &&& otherPlaces text feed)
  | .lineEnd bothEnds =>
    let feed := placesBefore (· == '\n') text
    let back := if bothEnds then placesBefore (· == '\r') text else 0
    (1 <<< text.length) ||| back ||| (feed &&& otherPlaces text (back <<< 1))
  | .word edge chars =>
    let after := placesBefore chars.contains text
    placesAtEdge text (after <<< 1) after edge

/-- Goes on by `f` the given number of times, or until that changes nothing. -/
def iterate (f : Nat → Nat) : (rounds : Nat) → (places : Nat) → Nat
  | 0, places => places
  | rounds + 1, places =>
    let next := f places
    if next = places then places else iterate f rounds next

/-- Adds what `f` reaches until nothing is new, at most `rounds` times. -/
def closure (f : Nat → Nat) : (rounds : Nat) → (places : Nat) → Nat
  | 0, places => places
  | rounds + 1, places =>
    let more := places ||| f places
    if more = places then places else closure f rounds more

mutual

/-- Where a match that starts at one of the given places can end. Copies that match the empty text
change no end, so the number of places bounds the copies that are tried. -/
def advance (text : List Char) : Pattern → Nat → Nat
  | nothing, places => places
  | char set, places => (places &&& placesBefore set.contains text) <<< 1
  | anchor a, places => places &&& placesAt text a
  | group p, places => advance text p places
  | seq ps, places => advanceSeq text ps places
  | alt ps, places => advanceAlt text ps places
  | copies p least most, places =>
    let bound := text.length + 1
    let optional := match most with
      | none => bound
      | some most => min (most - least) bound
    closure (advance text p) optional (iterate (advance text p) (min least bound) places)

def advanceSeq (text : List Char) : List Pattern → Nat → Nat
  | [], places => places
  | p :: ps, places => advanceSeq text ps (advance text p places)

def advanceAlt (text : List Char) : List Pattern → Nat → Nat
  | [], _ => 0
  | p :: ps, places => advance text p places ||| advanceAlt text ps places

end

/-- Whether some part of the text matches. -/
def isMatch (p : Pattern) (text : String) : Bool :=
  let cs := text.toList
  advance cs p (allPlaces cs) != 0

end Pattern

end PointsTo
