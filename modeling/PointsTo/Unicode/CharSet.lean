namespace PointsTo

/-- A set of code points, given by the points at which membership changes, in increasing order. The
points before the first change are out, those from it to before the second are in, and so on. -/
structure CharSet where
  changes : List Nat
deriving DecidableEq, Repr, Inhabited

namespace CharSet

def within (c : Nat) : (changes : List Nat) → Bool
  | [] => false
  | [lo] => lo ≤ c
  | lo :: hi :: rest => if c < lo then false else if c < hi then true else within c rest

def containsPoint (s : CharSet) (c : Nat) : Bool := within c s.changes

def contains (s : CharSet) (c : Char) : Bool := s.containsPoint c.toNat

def empty : CharSet := ⟨[]⟩

/-- The characters from the first to the last, which must not come before it. -/
def range (first last : Char) : CharSet := ⟨[first.toNat, last.toNat + 1]⟩

def single (c : Char) : CharSet := range c c

def ofRanges (ranges : List (Nat × Nat)) : CharSet := ⟨ranges.flatMap fun (lo, hi) => [lo, hi + 1]⟩

/-- The set whose runs of code points, out of it and in it by turns, have the lengths in a text. -/
def ofRuns (text : String) : CharSet :=
  let words := (text.map fun c => if c = '\n' then ' ' else c).splitOn " "
  ⟨ends 0 (words.filterMap String.toNat?)⟩
where
  ends (start : Nat) : List Nat → List Nat
    | [] => []
    | n :: lengths => (start + n) :: ends (start + n) lengths

/-- The set of the given points, which are distinct. -/
def ofPoints (points : List Nat) : CharSet := ⟨(points.mergeSort).foldr add []⟩
where
  add (p : Nat) : List Nat → List Nat
    | [] => [p, p + 1]
    | q :: rest => if q = p + 1 then p :: rest else p :: (p + 1) :: q :: rest

def compl (s : CharSet) : CharSet :=
  match s.changes with
  | 0 :: rest => ⟨rest⟩
  | changes => ⟨0 :: changes⟩

/-- Goes through the changes of two sets in order, starting with the memberships `a` and `b`, and
keeps the points at which `f` of the two changes. -/
def sweep (f : Bool → Bool → Bool) (a b : Bool) : List Nat → List Nat → List Nat
  | [], qs => if f a b = f a !b then [] else qs
  | ps, [] => if f a b = f (!a) b then [] else ps
  | p :: ps, q :: qs =>
    if p < q then
      let rest := sweep f (!a) b ps (q :: qs)
      if f a b = f (!a) b then rest else p :: rest
    else if q < p then
      let rest := sweep f a (!b) (p :: ps) qs
      if f a b = f a !b then rest else q :: rest
    else
      let rest := sweep f (!a) (!b) ps qs
      if f a b = f (!a) !b then rest else p :: rest
termination_by ps qs => ps.length + qs.length

def union (s t : CharSet) : CharSet := ⟨sweep (· || ·) false false s.changes t.changes⟩

def inter (s t : CharSet) : CharSet := ⟨sweep (· && ·) false false s.changes t.changes⟩

def diff (s t : CharSet) : CharSet := ⟨sweep (fun a b => a && !b) false false s.changes t.changes⟩

def symmDiff (s t : CharSet) : CharSet := ⟨sweep (· != ·) false false s.changes t.changes⟩

def unions (sets : List CharSet) : CharSet := sets.foldl union empty

def lastPoint : Nat := 0x10FFFF

/-- The members as closed ranges in increasing order. -/
def ranges (s : CharSet) : List (Nat × Nat) := pairs s.changes
where
  pairs : List Nat → List (Nat × Nat)
    | [] => []
    | [lo] => if lastPoint < lo then [] else [(lo, lastPoint)]
    | lo :: hi :: rest => if lastPoint < lo then [] else (lo, min (hi - 1) lastPoint) :: pairs rest

/-- Whether there are only members below U+0080. -/
def isAscii (s : CharSet) : Bool := s.ranges.all fun r => r.2 < 0x80

/-- The only member, if there is just one. -/
def only? (s : CharSet) : Option Nat :=
  match s.ranges with
  | [(lo, hi)] => if lo = hi then some lo else none
  | _ => none

end CharSet

end PointsTo
