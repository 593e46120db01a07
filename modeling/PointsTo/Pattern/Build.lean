import PointsTo.Pattern.Basic

namespace PointsTo.Pattern

/-- The number of bytes of a code point in UTF-8. -/
def bytesOf (c : Nat) : Nat :=
  if c < 0x80 then 1 else if c < 0x800 then 2 else if c < 0x10000 then 3 else 4

mutual

/-- The least number of bytes of a match, if there can be one. -/
def minLength? : Pattern → Option Nat
  | nothing => some 0
  | char set => set.ranges.head?.map fun r => bytesOf r.1
  | anchor _ => some 0
  | group p => minLength? p
  | seq ps => minLengthSum? ps
  | alt ps => leastLength? ps
  | copies p least _ => (minLength? p).map (least * ·)

def minLengthSum? : List Pattern → Option Nat
  | [] => some 0
  | p :: ps => do return (← minLength? p) + (← minLengthSum? ps)

def leastLength? : List Pattern → Option Nat
  | [] => none
  | [p] => minLength? p
  | p :: ps => do return min (← minLength? p) (← leastLength? ps)

end

mutual

/-- Whether every match is empty, and there can be one. -/
def isEmptyOnly : Pattern → Bool
  | nothing => true
  | char _ => false
  | anchor _ => true
  | group p => isEmptyOnly p
  | seq ps => areEmptyOnly ps
  | alt ps => areEmptyOnly ps
  | copies p _ most => most == some 0 || (most.isSome && isEmptyOnly p)

def areEmptyOnly : List Pattern → Bool
  | [] => true
  | p :: ps => isEmptyOnly p && areEmptyOnly ps

end

def repeated (p : Pattern) (least : Nat) (most : Option Nat) : Pattern :=
  let (least, most) :=
    if isEmptyOnly p then (min least 1, some (min (most.getD 1) 1)) else (least, most)
  if least = 0 ∧ most = some 0 then nothing
  else if least = 1 ∧ most = some 1 then p
  else copies p least most

/-- The parts of a pattern as a sequence. -/
def parts : Pattern → List Pattern
  | nothing => []
  | seq ps => ps
  | p => [p]

def sequence (ps : List Pattern) : Pattern :=
  match ps.flatMap parts with
  | [] => nothing
  | [p] => p
  | ps => seq ps

/-- The character that a pattern stands for. -/
def only? : Pattern → Option Nat
  | char set => set.only?
  | _ => none

/-- The characters of a pattern that is a plain text. -/
def text? : Pattern → Option (List Nat)
  | seq ps => ps.mapM only?
  | p => p.only?.map ([·])

/-- The parts of a sequence with plain characters side by side taken together. -/
def runs : List Pattern → List (List Pattern)
  | [] => []
  | p :: ps =>
    match runs ps with
    | (q :: run) :: rest =>
      if p.only?.isSome && q.only?.isSome then (p :: q :: run) :: rest
      else [p] :: (q :: run) :: rest
    | rest => [p] :: rest

/-- How many elements two lists have in common at the beginning. -/
def commonLength {α : Type} [BEq α] : List α → List α → Nat
  | x :: xs, y :: ys => if x == y then commonLength xs ys + 1 else 0
  | _, _ => 0

/-- Alternatives without a common beginning to draw out. -/
def choice (ps : List Pattern) : Pattern :=
  let alternatives := ps.flatMap fun
    | alt qs => qs
    | p => [p]
  let set? : Pattern → Option CharSet
    | char set => some set
    | _ => none
  match alternatives with
  | [] => char .empty
  | [p] => p
  | ps =>
    match ps.mapM set? with
    | some sets =>
      let singles := sets.countP (·.only?.isSome)
      if singles = 0 ∨ singles = sets.length then char (.unions sets) else alt ps
    | none => alt ps

def alternation (ps : List Pattern) : Pattern :=
  match choice ps with
  | alt ps =>
    let lists := ps.map fun p => runs (match p with | seq qs => qs | _ => [])
    match lists with
    | first :: others =>
      let n := (others.map (commonLength first)).foldl min first.length
      if n = 0 ∨ lists.any (·.length < 2) then alt ps
      else
        let rest := choice (lists.map fun l => sequence (l.drop n).flatten)
        sequence ((first.take n).flatten ++ [rest])
    | [] => alt ps
  | p => p

end PointsTo.Pattern
