import PointsTo.Id

/-!
The classes and the inheritance links between them. A link goes from a subtype to a direct
supertype: a class extends its superclass and implements its interfaces, and an interface extends
other interfaces.
-/
namespace PointsTo

section Search

variable {α : Type} [DecidableEq α]

/-- Goes on with a search: `queue` holds the nodes still to expand and `seen` all nodes found so
far, in the order they were found. -/
def searchFrom (next : α → List α) : (fuel : Nat) → (queue seen : List α) → List α
  | 0, _, seen => seen
  | _, [], seen => seen
  | fuel + 1, x :: queue, seen =>
    let fresh := (next x).eraseDups.filter (· ∉ seen)
    searchFrom next fuel (queue ++ fresh) (seen ++ fresh)

/-- The nodes that can be reached from `root`, nearest first. A node is expanded once, so that
`fuel` is enough once it is the number of nodes. -/
def breadthFirst (next : α → List α) (fuel : Nat) (root : α) : List α :=
  searchFrom next fuel [root] [root]

end Search

inductive Inheritance where
  | extends | implements
deriving DecidableEq, Repr

structure Link where
  sub : ClassId
  sup : ClassId
  kind : Inheritance
deriving DecidableEq, Repr

/-- The classes and the links between them, each in the order in which they came in. There is at
most one link from a class to another. -/
structure Hierarchy where
  nodes : Array ClassId := #[]
  links : Array Link := #[]
deriving DecidableEq, Repr

namespace Hierarchy

instance : Inhabited Hierarchy := ⟨{}⟩

/-- Adds a class. A class that is there already is not added again. -/
def insertNode (h : Hierarchy) (c : ClassId) : Hierarchy :=
  if h.nodes.contains c then h else { h with nodes := h.nodes.push c }

/-- Links `sub` to `sup`. If they are linked already, the first link stays as it is. -/
def insert (h : Hierarchy) (sub sup : ClassId) (kind : Inheritance) : Hierarchy :=
  if h.links.any fun l => l.sub = sub ∧ l.sup = sup then h
  else { h with links := h.links.push ⟨sub, sup, kind⟩ }

/-- The direct supertypes of a class. -/
def parents (h : Hierarchy) (c : ClassId) : List ClassId :=
  (h.links.toList.filter (·.sub = c)).map (·.sup)

/-- The classes with a link of the given kind to `c`, in increasing order. -/
def directSubtypes (h : Hierarchy) (kind : Inheritance) (c : ClassId) : List ClassId :=
  Id.sort ((h.links.toList.filter fun l => l.sup = c ∧ l.kind = kind).map (·.sub))

/-- A class and all that it inherits from, in increasing order; nothing for a class that is not in
the graph. Stands for a depth-first search, of which only the documented behaviour counts: it visits
each node that can be reached exactly once. The order of the visits is lost in the sorting. -/
def supertypes (h : Hierarchy) (c : ClassId) : List ClassId :=
  if h.nodes.contains c then Id.sort (breadthFirst h.parents (h.links.size + 1) c) else []

/-- Whether `sub` is `sup` or inherits from it. -/
def isSubtype (h : Hierarchy) (sub sup : ClassId) : Bool := sub = sup || sup ∈ h.supertypes sub

end Hierarchy

end PointsTo
