import PointsTo.Pattern.Bracket
import PointsTo.Pattern.Layout

namespace PointsTo.Pattern

/-- A part of a sequence. Modes count as a part, and cannot be repeated. -/
structure Item extends Nested Pattern where
  isModes : Bool := false

/-- A group under way: the alternatives before the last bar and the items after it, both in
reverse. -/
structure Group where
  alternatives : List (Nested Pattern) := []
  items : List Item := []

namespace Group

def add (g : Group) (p : Nested Pattern) : Group := { g with items := { p with } :: g.items }

def addModes (g : Group) : Group :=
  { g with items := { value := nothing, isModes := true } :: g.items }

/-- Repeats the latest item, which must be there. -/
def repeatLatest? (g : Group) (least : Nat) (most : Option Nat) : Option Group :=
  match g.items with
  | [] => none
  | item :: items =>
    if item.isModes then none
    else some { g with
      items := { value := repeated item.value least most, depth := item.depth + 1 } :: items }

def bar (g : Group) : Group :=
  let items := g.items.map (·.toNested)
  { alternatives :=
      { value := sequence (items.map (·.value)).reverse, depth := Nested.depthOf items } ::
        g.alternatives }

def close (g : Group) : Nested Pattern :=
  let all := g.bar.alternatives
  match all with
  | [p] => p
  | _ => { value := alternation (all.map (·.value)).reverse, depth := Nested.depthOf all }

end Group

/-- A group around the one under way, with the modes that hold in it. -/
structure Frame where
  group : Group
  flags : Flags
  /-- Whether the group inside is one that is not only there to hold parts together. -/
  counted : Bool

/-- How far a pattern is read: the group and the classes under way, with those around them,
innermost first. -/
structure Reader where
  flags : Flags := {}
  group : Group := {}
  frames : List Frame := []
  classes : List Bracket := []
  /-- The names of groups so far, which are distinct. -/
  names : List (List Char) := []

namespace Reader

def addNested (r : Reader) (p : Nested Pattern) : Reader := { r with group := r.group.add p }

def add (r : Reader) (p : Pattern) : Reader := r.addNested { value := p }

/-- A plain character, or any letter that differs from it in case only if case is ignored. -/
def addChar (r : Reader) (c : Char) : Reader := r.add (char (r.flags.fold (.single c)))

def addSign (r : Reader) : Sign → Reader
  | .char c => r.addChar c
  | .set s => r.add (char s)
  | .anchor a => r.add (anchor a)

/-- Opens a group in which the given modes hold. -/
def enter (r : Reader) (flags : Flags) (counted : Bool) : Reader :=
  { r with
    flags
    group := {}
    frames := { group := r.group, flags := r.flags, counted } :: r.frames }

def leave? (r : Reader) : Option Reader :=
  match r.frames with
  | [] => none
  | frame :: frames =>
    let inside := r.group.close
    let p := if frame.counted then Pattern.group inside.value else inside.value
    let whole : Nested Pattern := { value := p, depth := inside.depth + 1 }
    some { r with group := frame.group.add whole, flags := frame.flags, frames }

/-- A name consists of letters, digits and some signs, and starts with a letter or `_`. -/
def isName : List Char → Bool
  | [] => false
  | c :: cs =>
    let starts (c : Char) := c == '_' || Unicode.latestLetter.contains c
    starts c && cs.all fun c =>
      starts c || ['.', '[', ']'].contains c || Unicode.latestNumber.contains c

/-- Opens a group whose name follows. -/
def enterNamed? (r : Reader) (s : List Char) : Option (Reader × List Char) :=
  let name := s.takeWhile (· != '>')
  if isName name && !r.names.contains name then
    match s.dropWhile (· != '>') with
    | [] => none
    | _ :: rest => some ({ r with names := name :: r.names }.enter r.flags true, rest)
  else none

/-- Opens a group from behind its parenthesis, or sets modes. -/
def enter? (r : Reader) (s : List Char) : Option (Reader × List Char) :=
  match r.flags.skip s with
  | '?' :: '=' :: _ | '?' :: '!' :: _ | '?' :: '<' :: '=' :: _ | '?' :: '<' :: '!' :: _ => none
  | '?' :: 'P' :: '<' :: s | '?' :: '<' :: s => r.enterNamed? s
  | '?' :: s => do
    let (flags, c, rest) ← r.flags.read? [] s
    if c = ':' then return (r.enter flags false, rest)
    else return ({ r with flags, group := r.group.addModes }, rest)
  | s => some (r.enter r.flags true, s)

def repeatLatest? (r : Reader) (least : Nat) (most : Option Nat) : Option Reader := do
  return { r with group := ← r.group.repeatLatest? least most }

/-- Digits, without what is to be skipped between them. -/
def readDigits (f : Flags) : (fuel : Nat) → List Char → List Char × List Char
  | fuel + 1, c :: s =>
    if c.isDigit then
      let (digits, rest) := readDigits f fuel (f.skip s)
      (c :: digits, rest)
    else ([], c :: s)
  | _, s => ([], s)

/-- A number below the size of a 32-bit word, with white space on both sides. -/
def readNumber? (f : Flags) (s : List Char) : Option (Nat × List Char) :=
  let skipSpace (s : List Char) := s.dropWhile Unicode.whiteSpace.contains
  let (digits, rest) := readDigits f s.length (skipSpace s)
  let n := digits.foldl (fun n c => 10 * n + (c.toNat - '0'.toNat)) 0
  if digits.isEmpty || n ≥ UInt32.size then none else some (n, f.skip (skipSpace rest))

/-- The bounds of a repetition from behind its opening brace. -/
def readBounds? (f : Flags) (s : List Char) : Option ((Nat × Option Nat) × List Char) := do
  let (least, s) ← readNumber? f (f.skip s)
  match s with
  | '\x7d' :: rest => return ((least, some least), rest)
  | ',' :: s =>
    match f.skip s with
    | '\x7d' :: rest => return ((least, none), rest)
    | s =>
      let (most, s) ← readNumber? f s
      match s with
      | '\x7d' :: rest => if least ≤ most then return ((least, some most), rest) else none
      | _ => none
  | _ => none

/-- Leaves out the `?` after a repetition that asks for as few copies as can be. It changes what a
match covers, and not whether there is one. -/
def skipLazy : List Char → List Char
  | '?' :: s => s
  | s => s

/-- Reads on outside classes. -/
def step? (r : Reader) : List Char → Option (Reader × List Char)
  | [] => none
  | '(' :: s => r.enter? s
  | ')' :: s => do return (← r.leave?, s)
  | '|' :: s => some ({ r with group := r.group.bar }, s)
  | '[' :: s =>
    let (b, rest) := Bracket.start r.flags s
    some ({ r with classes := [b] }, rest)
  | '*' :: s => do return (← r.repeatLatest? 0 none, skipLazy s)
  | '+' :: s => do return (← r.repeatLatest? 1 none, skipLazy s)
  | '?' :: s => do return (← r.repeatLatest? 0 (some 1), skipLazy s)
  | '\x7b' :: s => do
    let ((least, most), rest) ← readBounds? r.flags s
    return (← r.repeatLatest? least most, skipLazy (r.flags.skip rest))
  | '\\' :: s => do
    let (sign, rest) ← readEscape? r.flags s
    return (r.addSign sign, rest)
  | '.' :: s => do return (r.add (char (← r.flags.checked? r.flags.dot)), s)
  | '^' :: s => some (r.add (anchor r.flags.startAnchor), s)
  | '$' :: s => some (r.add (anchor r.flags.endAnchor), s)
  | c :: s => some (r.addChar c, s)

/-- Reads on in the class `b` inside the classes `outer`. -/
def classStep? (r : Reader) (b : Bracket) (outer : List Bracket) :
    List Char → Option (Reader × List Char)
  | ']' :: s => do
    let set ← b.close? r.flags
    match outer with
    | [] =>
      let p : Nested Pattern := { value := char set.value, depth := set.depth }
      return ({ r with classes := [] }.addNested p, s)
    | b' :: outer => return ({ r with classes := b'.addNested set :: outer }, s)
  | '[' :: s =>
    match readNamed? s with
    | some (set, rest) => some ({ r with classes := b.add set :: outer }, rest)
    | none =>
      let (inner, rest) := Bracket.start r.flags s
      some ({ r with classes := inner :: b :: outer }, rest)
  | '&' :: '&' :: s => some ({ r with classes := b.operator r.flags .inter :: outer }, s)
  | '-' :: '-' :: s => some ({ r with classes := b.operator r.flags .diff :: outer }, s)
  | '~' :: '~' :: s => some ({ r with classes := b.operator r.flags .symmDiff :: outer }, s)
  | s => do
    let (set, rest) ← readItem? r.flags s
    return ({ r with classes := b.add set :: outer }, rest)

/-- Reads to the end. Every step takes a character at least, so the length of the text is enough
fuel. -/
def finish? (r : Reader) : (fuel : Nat) → List Char → Option Reader
  | 0, s => if (r.flags.skip s).isEmpty then some r else none
  | fuel + 1, s =>
    match r.flags.skip s with
    | [] => some r
    | s => do
      let (r, rest) ← match r.classes with
        | [] => r.step? s
        | b :: outer => r.classStep? b outer s
      finish? r fuel rest

end Reader

/-- How many parts of a pattern may be inside each other. -/
def maxDepth : Nat := 250

/-- Why a text is refused as a pattern. -/
inductive Refusal where
  | malformed
  | tooLarge
deriving DecidableEq, Repr

/-- The pattern that a text writes down. -/
def parse (text : String) : Except Refusal Pattern :=
  let cs := text.toList
  match Reader.finish? {} cs.length cs with
  | none => .error .malformed
  | some r =>
    let p := r.group.close
    if !r.frames.isEmpty || !r.classes.isEmpty || maxDepth < p.depth then .error .malformed
    else if p.value.isTooLarge then .error .tooLarge
    else .ok p.value

end PointsTo.Pattern
