import PointsTo.Id

namespace PointsTo

/-- An element of kind `κ` in a context. -/
@[ext] structure Qualified (κ : Entity) where
  context : ContextId
  id : Id κ
deriving DecidableEq, Repr, Inhabited

/-- A method in the context in which it is analyzed. -/
abbrev CtxMethod := Qualified .method
/-- A call site in the context of its method. -/
abbrev CtxSite := Qualified .stmt
/-- A variable in the context of its method. -/
abbrev CtxVar := Qualified .var
/-- An abstract object in its heap context. -/
abbrev CtxObj := Qualified .obj

namespace Qualified

variable {κ : Entity}

/-- Elements are ordered by context first. -/
instance : Ord (Qualified κ) := ⟨compareLex (compareOn context) (compareOn id)⟩

instance : Std.TransOrd (Qualified κ) :=
  inferInstanceAs (Std.TransCmp (compareLex (compareOn context) (compareOn id)))

instance : Std.LawfulEqOrd (Qualified κ) where
  eq_of_compare {a b} h := by
    have h : compareLex (compareOn context) (compareOn id) a b = .eq := h
    obtain ⟨hc, hi⟩ := Ordering.then_eq_eq.1 h
    exact Qualified.ext (Std.LawfulEqOrd.eq_of_compare hc) (Std.LawfulEqOrd.eq_of_compare hi)

def key (q : Qualified κ) : List Nat := [q.context.index, q.id.index]

end Qualified

/-- A place that holds references to objects. -/
inductive Pointer where
  | var (v : CtxVar)
  | static (field : FieldId)
  | field (base : CtxObjId) (field : FieldId)
  /-- All elements of an array; its indices are not told apart. -/
  | array (base : CtxObjId)
deriving DecidableEq, Repr, Inhabited

def Pointer.key : Pointer → List Nat
  | var v => 0 :: v.key
  | static f => [1, f.index]
  | field o f => [2, o.index, f.index]
  | array o => [3, o.index]

end PointsTo
