/-!
Identifiers and the tables they index. Elements of one kind are numbered from zero in the order in
which they appear, and an identifier of one kind cannot be taken for one of another.
-/
namespace PointsTo

/-- The kinds of numbered elements. -/
inductive Entity where
  | cls | method | field | var | stmt
  | context | obj | ctxObj | pointer
deriving DecidableEq, Repr

/-- The identifier of an element of kind `κ`. -/
@[ext] structure Id (κ : Entity) where
  index : Nat
deriving DecidableEq, Repr, Inhabited

abbrev ClassId := Id .cls
abbrev MethodId := Id .method
abbrev FieldId := Id .field
abbrev VarId := Id .var
abbrev StmtId := Id .stmt
abbrev ContextId := Id .context
abbrev ObjId := Id .obj
abbrev CtxObjId := Id .ctxObj
abbrev PointerId := Id .pointer

namespace Id

variable {κ : Entity}

instance : Ord (Id κ) := ⟨compareOn index⟩

instance : Std.TransOrd (Id κ) := inferInstanceAs (Std.TransCmp (compareOn index))

instance : Std.LawfulEqOrd (Id κ) where
  eq_of_compare h := Id.ext (Std.LawfulEqOrd.eq_of_compare h)

/-- Identifiers are shown counting from one. -/
def number (i : Id κ) : Nat := i.index + 1

/-- Identifiers in increasing order. -/
def sort (ids : List (Id κ)) : List (Id κ) := ids.mergeSort fun i j => i.index ≤ j.index

end Id

/-- How many identifiers of kind `κ` have been given out. -/
@[ext] structure Counter (κ : Entity) where
  count : Nat := 0
deriving DecidableEq, Repr, Inhabited

namespace Counter

variable {κ : Entity}

/-- The identifier that is given out next. -/
def next (n : Counter κ) : Id κ := ⟨n.count⟩

/-- The counter when one more identifier has been given out. -/
def succ (n : Counter κ) : Counter κ := ⟨n.count + 1⟩

end Counter

/-- The elements of kind `κ`, each at the index of its identifier. -/
@[ext] structure Table (κ : Entity) (α : Type) where
  rows : Array α := #[]
deriving DecidableEq, Repr

namespace Table

variable {κ : Entity} {α : Type}

instance : Inhabited (Table κ α) := ⟨{}⟩

def size (t : Table κ α) : Nat := t.rows.size

/-- The identifier that the next element gets. -/
def nextId (t : Table κ α) : Id κ := ⟨t.size⟩

def get? (t : Table κ α) (i : Id κ) : Option α := t.rows[i.index]?

/-- The element of an identifier of the table, and a blank one for any other identifier. -/
def get [Inhabited α] (t : Table κ α) (i : Id κ) : α := (t.get? i).getD default

def push (t : Table κ α) (a : α) : Table κ α := ⟨t.rows.push a⟩

def modify (t : Table κ α) (i : Id κ) (f : α → α) : Table κ α := ⟨t.rows.modify i.index f⟩

def toList (t : Table κ α) : List α := t.rows.toList

/-- The identifiers in use, in order. -/
def ids (t : Table κ α) : List (Id κ) := (List.range t.size).map Id.mk

end Table

end PointsTo
