import PointsTo.Id

namespace PointsTo

@[ext] structure ObjSet where
  bits : Nat := 0
deriving DecidableEq, Repr

namespace ObjSet

def empty : ObjSet := {}

instance : Inhabited ObjSet := ⟨empty⟩

def contains (s : ObjSet) (o : CtxObjId) : Bool := s.bits.testBit o.index

def isEmpty (s : ObjSet) : Bool := s.bits = 0

/-- Adds an object. Says whether it was new. -/
def insert (s : ObjSet) (o : CtxObjId) : Bool × ObjSet :=
  (!s.contains o, ⟨s.bits ||| 1 <<< o.index⟩)

def singleton (o : CtxObjId) : ObjSet := ⟨1 <<< o.index⟩

/-- The members in increasing order. -/
def toList (s : ObjSet) : List CtxObjId :=
  ((List.range (s.bits.log2 + 1)).filter s.bits.testBit).map Id.mk

def size (s : ObjSet) : Nat := s.toList.length

def union (s t : ObjSet) : ObjSet := ⟨s.bits ||| t.bits⟩

/-- The members of `t` that are not in `s`. -/
def missing (s t : ObjSet) : ObjSet := ⟨(s.bits ||| t.bits) ^^^ s.bits⟩

/-- Adds the members of `t`, and gives those that were new before the new set. -/
def absorb (s t : ObjSet) : ObjSet × ObjSet := (s.missing t, s.union t)

end ObjSet

end PointsTo
