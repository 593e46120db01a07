import PointsTo.Pattern.Escape

namespace PointsTo.Pattern

/-- The sets that a class can name. They hold no character beyond U+007F. -/
def namedSet? : String → Option CharSet
  | "alnum" => some (.ofRanges [(0x30, 0x39), (0x41, 0x5A), (0x61, 0x7A)])
  | "alpha" => some (.ofRanges [(0x41, 0x5A), (0x61, 0x7A)])
  | "ascii" => some (.ofRanges [(0x00, 0x7F)])
  | "blank" => some (.ofRanges [(0x09, 0x09), (0x20, 0x20)])
  | "cntrl" => some (.ofRanges [(0x00, 0x1F), (0x7F, 0x7F)])
  | "digit" => some (.ofRanges [(0x30, 0x39)])
  | "graph" => some (.ofRanges [(0x21, 0x7E)])
  | "lower" => some (.ofRanges [(0x61, 0x7A)])
  | "print" => some (.ofRanges [(0x20, 0x7E)])
  | "punct" => some (.ofRanges [(0x21, 0x2F), (0x3A, 0x40), (0x5B, 0x60), (0x7B, 0x7E)])
  | "space" => some (.ofRanges [(0x09, 0x0D), (0x20, 0x20)])
  | "upper" => some (.ofRanges [(0x41, 0x5A)])
  | "word" => some Flags.asciiWord
  | "xdigit" => some (.ofRanges [(0x30, 0x39), (0x41, 0x46), (0x61, 0x66)])
  | _ => none

/-- A part of a pattern and the number of parts inside each other that it is made of. -/
structure Nested (α : Type) where
  value : α
  depth : Nat := 0
deriving Repr

namespace Nested

/-- The depth of parts side by side. One part alone adds none. -/
def depthOf {α : Type} (parts : List (Nested α)) : Nat :=
  let deepest := (parts.map depth).foldl max 0
  if parts.length ≤ 1 then deepest else deepest + 1

end Nested

/-- A class under way: the members since its last operator in reverse, and that operator with what
stands to its left. -/
structure Bracket where
  complemented : Bool := false
  pending : Option ((CharSet → CharSet → CharSet) × Nested CharSet) := none
  members : List (Nested CharSet) := []

namespace Bracket

def addNested (b : Bracket) (s : Nested CharSet) : Bracket := { b with members := s :: b.members }

def add (b : Bracket) (s : CharSet) : Bracket := b.addNested { value := s }

/-- The union of the members since the last operator. -/
def operand (b : Bracket) : Nested CharSet :=
  { value := .unions (b.members.map (·.value)), depth := Nested.depthOf b.members }

/-- What the class holds so far, before it is complemented. -/
def contents (f : Flags) (b : Bracket) : Nested CharSet :=
  match b.pending with
  | none => b.operand
  | some (op, left) =>
    { value := op (f.fold left.value) (f.fold b.operand.value)
      depth := max left.depth b.operand.depth + 1 }

def operator (f : Flags) (b : Bracket) (op : CharSet → CharSet → CharSet) : Bracket :=
  { b with pending := some (op, b.contents f), members := [] }

def close? (f : Flags) (b : Bracket) : Option (Nested CharSet) := do
  let s := f.fold (b.contents f).value
  return { value := ← f.checked? (if b.complemented then s.compl else s)
           depth := (b.contents f).depth + 1 }

/-- Takes the hyphens that a class starts with, which are members. -/
def readHyphens (f : Flags) : (fuel : Nat) → Bracket → List Char → Bracket × List Char
  | 0, b, s => (b, s)
  | fuel + 1, b, s =>
    match f.skip s with
    | '-' :: rest => readHyphens f fuel (b.add (.single '-')) rest
    | s => (b, s)

/-- Takes what is a member at the start of a class only: hyphens, or a closing bracket. -/
def readFirst (f : Flags) (b : Bracket) (s : List Char) : Bracket × List Char :=
  match f.skip s with
  | ']' :: rest => (b.add (.single ']'), rest)
  | s => readHyphens f s.length b s

/-- Starts a class from behind its opening bracket. -/
def start (f : Flags) (s : List Char) : Bracket × List Char :=
  match f.skip s with
  | '^' :: rest => readFirst f { complemented := true } rest
  | s => readFirst f {} s

end Bracket

/-- A named set from behind its opening bracket, such as `:alpha:]`, or `:^alpha:]` for the
characters that are not in it. -/
def readNamed? : List Char → Option (CharSet × List Char)
  | ':' :: s => do
    let (complemented, s) := match s with
      | '^' :: s => (true, s)
      | s => (false, s)
    match s.dropWhile (· != ':') with
    | ':' :: ']' :: rest =>
      let set ← namedSet? (String.ofList (s.takeWhile (· != ':')))
      return (if complemented then set.compl else set, rest)
    | _ => none
  | _ => none

/-- The next sign of a class. -/
def readMember? (f : Flags) : List Char → Option (Sign × List Char)
  | [] => none
  | '\\' :: s => readEscape? f s
  | c :: s => some (.char c, s)

/-- A sign as a member of a class. Without the Unicode mode its characters are below U+0080. -/
def memberSet? (f : Flags) : Sign → Option CharSet
  | .char c => if f.unicode || c.toNat < 0x80 then some (.single c) else none
  | .set s => some s
  | .anchor _ => none

def rangeSet? (f : Flags) : Sign → Sign → Option CharSet
  | .char first, .char last =>
    if first ≤ last ∧ (f.unicode ∨ last.toNat < 0x80) then some (.range first last) else none
  | _, _ => none

/-- The character after the one at the front, as far as it decides whether a hyphen makes a range.
White space that has no meaning is passed over, and so is one `#`. -/
def peek? (f : Flags) (s : List Char) : Option Char :=
  let rest := s.tail
  if f.spaced then
    match rest.dropWhile Unicode.whiteSpace.contains with
    | '#' :: rest => (rest.dropWhile Unicode.whiteSpace.contains).head?
    | rest => rest.head?
  else rest.head?

/-- Reads a character, a set, or a range. A hyphen between two signs makes a range of them, unless
the second one closes the class or is a hyphen too. -/
def readItem? (f : Flags) (s : List Char) : Option (CharSet × List Char) := do
  let (first, s) ← readMember? f s
  let s := f.skip s
  if s.head? = some '-' ∧ peek? f s ≠ some ']' ∧ peek? f s ≠ some '-' then
    let (last, rest) ← readMember? f (f.skip s.tail)
    return (← rangeSet? f first last, rest)
  else
    return (← memberSet? f first, s)

end PointsTo.Pattern
