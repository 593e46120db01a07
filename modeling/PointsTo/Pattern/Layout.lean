import Std.Data.HashMap
import PointsTo.Pattern.Build

/-!
The size of a pattern. A pattern can be run by an automaton that reads the bytes of UTF-8, forward
to find where a match ends and backward to find where it starts. A state of an automaton takes 32
bytes, a range of bytes out of a state with several takes 8 more, and a branch to another state
takes 4. A pattern is refused if one of its two automata would be larger than ten mebibytes.
-/
namespace PointsTo.Pattern

/-- A range of bytes for each byte of some code points. -/
abbrev ByteSeq := List (Nat × Nat)

/-- The byte ranges of the code points from `lo` to `hi` that have `tails` bytes after the first,
where `lead` is added to the first. -/
def byteSeqs (lead : Nat) : (tails lo hi : Nat) → List ByteSeq
  | 0, lo, hi => [[(lead + lo, lead + hi)]]
  | tails + 1, lo, hi =>
    let block := 1 <<< (6 * (tails + 1))
    let first := lo / block
    let last := hi / block
    let one (n lo hi : Nat) :=
      (byteSeqs 0x80 tails lo hi).map fun rest => (lead + n, lead + n) :: rest
    if first = last then one first (lo % block) (hi % block)
    else
      let cutsFirst := lo % block ≠ 0
      let cutsLast := hi % block ≠ block - 1
      let low := if cutsFirst then first + 1 else first
      let high := if cutsLast then last else last + 1
      let whole := (lead + low, lead + (high - 1)) :: List.replicate (tails + 1) (0x80, 0xBF)
      (if cutsFirst then one first (lo % block) (block - 1) else []) ++
        (if low < high then [whole] else []) ++
        (if cutsLast then one last 0 (hi % block) else [])

/-- The first and last code points with the same number of bytes, with the bytes after the first and
the mark of the first. The surrogates are left out. -/
def byteForms : List (Nat × Nat × Nat × Nat) :=
  [(0, 0x7F, 0, 0), (0x80, 0x7FF, 1, 0xC0), (0x800, 0xD7FF, 2, 0xE0), (0xE000, 0xFFFF, 2, 0xE0),
   (0x10000, 0x10FFFF, 3, 0xF0)]

/-- The byte ranges of the members of a set, in order. -/
def setSeqs (s : CharSet) : List ByteSeq :=
  s.ranges.flatMap fun (lo, hi) => byteForms.flatMap fun (first, last, tails, lead) =>
    let lo := max lo first
    let hi := min hi last
    if lo ≤ hi then byteSeqs lead tails lo hi else []

/-- Brings together what follows the same range at the beginning. -/
def groupHeads : List ByteSeq → List ((Nat × Nat) × List ByteSeq)
  | [] => []
  | [] :: seqs => groupHeads seqs
  | (r :: tail) :: seqs =>
    match groupHeads seqs with
    | [] => [(r, [tail])]
    | (r', tails) :: rest =>
      if r = r' then (r, tail :: tails) :: rest else (r, [tail]) :: (r', tails) :: rest

inductive Direction where
  | forward
  | backward
deriving DecidableEq, Repr

/-- How much of an automaton is laid out: the number of its states, and the bytes that they take
beyond their own size. A state is known by the number of states before it. -/
structure Layout where
  states : Nat := 0
  extra : Nat := 0
deriving DecidableEq, Repr

namespace Layout

def size (l : Layout) : Nat := 32 * l.states + l.extra

def limit : Nat := 10 * 1024 * 1024

def isTooLarge (l : Layout) : Bool := limit < l.size

/-- Adds states with nothing but themselves. -/
def add (n : Nat) (l : Layout) : Layout := { l with states := l.states + n }

/-- Adds a state with several ranges of bytes. -/
def addRanges (n : Nat) (l : Layout) : Layout :=
  { states := l.states + 1, extra := l.extra + 8 * n }

/-- Adds a state with branches. -/
def addBranches (n : Nat) (l : Layout) : Layout :=
  { states := l.states + 1, extra := l.extra + 4 * n }

/-- Adds the same several times, but no more once the layout is too large. -/
def times : Nat → (Layout → Layout) → Layout → Layout
  | 0, _, l => l
  | n + 1, f, l => if l.isTooLarge then l else times n f (f l)

end Layout

/-- A table that remembers states by what they read and where they lead to. It has a fixed number of
slots, and a later state takes the slot of an earlier one. -/
structure SlotTable (κ : Type) where
  slots : Nat
  entries : Std.HashMap Nat (κ × Nat) := {}

namespace SlotTable

/-- Mixes numbers one after the other into a hash. -/
def hash (numbers : List Nat) : UInt64 :=
  numbers.foldl (fun h n => (h ^^^ n.toUInt64) * 1099511628211) 14695981039346656037

variable {κ : Type} [BEq κ]

def slot (t : SlotTable κ) (numbers : List Nat) : Nat := (hash numbers).toNat % t.slots

def find? (t : SlotTable κ) (slot : Nat) (key : κ) : Option Nat :=
  match t.entries[slot]? with
  | some (key', state) => if key' == key then some state else none
  | none => none

def insert (t : SlotTable κ) (slot : Nat) (key : κ) (state : Nat) : SlotTable κ :=
  { t with entries := t.entries.insert slot (key, state) }

end SlotTable

/-- The ranges of a state, each with the state that it leads to. -/
abbrev Ranges := List (Nat × Nat × Nat)

/-- Lays out the state that reads the given sequences and the states after it, and gives its number.
States with the same ranges are one if the table remembers them. -/
def layState (target : Nat) : (depth : Nat) → List ByteSeq → SlotTable Ranges × Layout →
    Nat × SlotTable Ranges × Layout
  | 0, _, work => (target, work)
  | depth + 1, seqs, work =>
    let addGroup := fun (ranges, work) ((lo, hi), tails) =>
      if tails.all List.isEmpty then ((lo, hi, target) :: ranges, work)
      else
        let (next, work) := layState target depth tails work
        ((lo, hi, next) :: ranges, work)
    let (ranges, table, l) := (groupHeads seqs).foldl addGroup (([] : Ranges), work)
    let ranges := ranges.reverse
    let slot := table.slot (ranges.flatMap fun (lo, hi, next) => [lo, hi, next])
    match table.find? slot ranges with
    | some state => (state, table, l)
    | none => (l.states, table.insert slot ranges l.states, l.addRanges ranges.length)

/-- Lays out the states that read a sequence backward, last byte first, and lead to `target`. The
states for the same beginning are one if the table remembers them. -/
def layBackward (target : Nat) : ByteSeq → SlotTable (Nat × Nat × Nat) × Layout →
    SlotTable (Nat × Nat × Nat) × Layout
  | [], work => work
  | (lo, hi) :: rest, (table, l) =>
    let slot := table.slot [target, lo, hi]
    match table.find? slot (target, lo, hi) with
    | some state => layBackward state rest (table, l)
    | none => layBackward l.states rest (table.insert slot (target, lo, hi) l.states, l.add 1)

/-- Lays out a class. Forward, it is a tree of states with ranges. Backward, it has a branch for
every sequence of ranges. -/
def layClass (d : Direction) (s : CharSet) (l : Layout) : Layout :=
  match s.only? with
  | some c => l.add (bytesOf c)
  | none =>
    if s.isAscii then (l.add 1).addRanges s.ranges.length
    else
      let seqs := setSeqs s
      match d with
      | .forward => (layState l.states 4 seqs ({ slots := 10000 }, l.add 1)).2.2
      | .backward =>
        let start := (l.addBranches seqs.length).add 1
        (seqs.foldl (fun work q => layBackward (l.states + 1) q work)
          ({ slots := 1000 }, start)).2

/-- The bytes of a code point in UTF-8. -/
def bytes (c : Nat) : List Nat := (setSeqs (.ofRanges [(c, c)])).flatten.map (·.1)

/-- Words by their first bytes. -/
abbrev WordGroups := List (Nat × List (List Nat))

def WordGroups.add (b : Nat) (tail : List Nat) : WordGroups → WordGroups
  | [] => [(b, [tail])]
  | (b', tails) :: groups =>
    if b' = b then (b, tails ++ [tail]) :: groups else (b', tails) :: add b tail groups

/-- Splits words at the empty ones, and groups those in between. -/
def chunks : List (List Nat) → List WordGroups
  | words => go [] words
where
  go (groups : WordGroups) : List (List Nat) → List WordGroups
    | [] => [groups]
    | [] :: words => groups :: go [] words
    | (b :: tail) :: words => go (groups.add b tail) words

/-- Lays out the states that read one of several words, which are in the order of preference. The
words before and after one that ends are told apart. -/
def layWords : (depth : Nat) → List (List Nat) → Layout → Layout
  | 0, _, l => l
  | depth + 1, words, l =>
    if words.all List.isEmpty then l
    else
      let ended := words.takeWhile List.isEmpty
      let groups := chunks (ended.take 1 ++ words.drop ended.length)
      let layChunk := fun (l : Layout) (g : WordGroups) =>
        let l := g.foldl (fun l (_, tails) => layWords depth tails l) l
        if g.isEmpty then l else if g.length = 1 then l.add 1 else l.addRanges g.length
      (groups.foldl layChunk l).addBranches (groups.length - 1 + groups.countP (!·.isEmpty))

/-- Lays out alternatives that are all plain texts. -/
def layTexts (d : Direction) (texts : List (List Nat)) (l : Layout) : Layout :=
  let words := texts.map fun cs =>
    let word := cs.flatMap bytes
    match d with
    | .forward => word
    | .backward => word.reverse
  layWords ((words.map List.length).foldl max 0) words (l.add 1)

mutual

/-- Lays out a pattern. Parts after each other add no branch, but a part that ends in a branching
state has one more from there. -/
def lay (d : Direction) : Pattern → Layout → Layout
  | nothing, l => l.add 1
  | char set, l => layClass d set l
  | anchor _, l => l.add 1
  | group p, l =>
    match d with
    | .forward => (lay d p (l.add 1)).add 1
    | .backward => lay d p l
  | seq ps, l =>
    match d with
    | .forward => layForward ps l
    | .backward => layReversed ps l
  | alt ps, l =>
    match ps.mapM text? with
    | some texts => layTexts d texts l
    | none => layAlternatives d 0 ps l
  | copies p least most, l =>
    match least, most with
    | 0, none =>
      if (minLength? p).any (0 < ·) then lay d p (l.addBranches 2)
      else (((lay d p l).addBranches 2).addBranches 2).add 1
    | least, none => (Layout.times least (lay d p) l).addBranches 2
    | 0, some 1 => (lay d p (l.addBranches 2)).add 1
    | least, some most =>
      let l := if least = 0 then l.add 1 else Layout.times least (lay d p) l
      if least = most then l
      else Layout.times (most - least) (fun l => lay d p (l.addBranches 2)) (l.add 1)

def layForward : List Pattern → Layout → Layout
  | [], l => l
  | p :: ps, l => layForward ps (lay .forward p l)

def layReversed : List Pattern → Layout → Layout
  | [], l => l
  | p :: ps, l => lay .backward p (layReversed ps l)

/-- Lays out alternatives after `before` others. The state that branches and the one where they meet
come after the second. -/
def layAlternatives (d : Direction) (before : Nat) : List Pattern → Layout → Layout
  | [], l => { l with extra := l.extra + 4 * before }
  | p :: ps, l =>
    let l := lay d p l
    layAlternatives d (before + 1) ps (if before = 1 then l.add 2 else l)

end

mutual

/-- Whether every match is at the start of the text, when reading forward, or at its end. -/
def isAnchored (d : Direction) : Pattern → Bool
  | anchor a => a == match d with
    | .forward => .textStart
    | .backward => .textEnd
  | group p => isAnchored d p
  | seq ps =>
    match d with
    | .forward => startsAnchored ps
    | .backward => endsAnchored ps
  | alt ps => areAnchored d ps
  | copies p least _ => 0 < least && isAnchored d p
  | nothing | char _ => false

def startsAnchored : List Pattern → Bool
  | [] => false
  | p :: ps => isAnchored .forward p || (isEmptyOnly p && startsAnchored ps)

def endsAnchored : List Pattern → Bool
  | [] => false
  | p :: ps => endsAnchored ps || (areEmptyOnly ps && isAnchored .backward p)

def areAnchored (d : Direction) : List Pattern → Bool
  | [] => true
  | p :: ps => isAnchored d p && areAnchored d ps

end

/-- The automaton for a pattern. Unless every match is at the end of the text where it starts, it
passes over any bytes first. -/
def automaton (d : Direction) (p : Pattern) : Layout :=
  let lead : Layout :=
    if isAnchored d p then { states := 1 } else ((Layout.addBranches 2 {}).add 1).addRanges 1
  (lay d (match d with | .forward => group p | .backward => p) lead).add 1

def isTooLarge (p : Pattern) : Bool :=
  (automaton .forward p).isTooLarge || (automaton .backward p).isTooLarge

end PointsTo.Pattern
