import PointsTo.Program.Basic

namespace PointsTo

inductive ContextElem where
  /-- The call site of a method. -/
  | call (site : StmtId)
  /-- The allocation site of a receiver object. -/
  | alloc (site : StmtId)
  /-- The class whose code allocated a receiver object. -/
  | type (cls : ClassId)
deriving DecidableEq, Repr

namespace ContextElem

/-- Call sites come before allocation sites, and those before classes. -/
def key : ContextElem → List Nat
  | call site => [0, site.index]
  | alloc site => [1, site.index]
  | type cls => [2, cls.index]

def label (p : Program) : ContextElem → String
  | call site => p.stmtLabel site
  | alloc site => "new@" ++ p.stmtLabel site
  | type cls => (p.classDecl cls).name

end ContextElem

@[ext] structure Context where
  elems : List ContextElem := []
deriving DecidableEq, Repr

namespace Context

def empty : Context := {}

instance : Inhabited Context := ⟨empty⟩

def isEmpty (c : Context) : Bool := c.elems.isEmpty

/-- Keeps the `k` most recent elements. -/
def recent (c : Context) (k : Nat) : Context := ⟨c.elems.drop (c.elems.length - k)⟩

/-- Adds an element and keeps the `k` most recent ones. -/
def extend (c : Context) (e : ContextElem) (k : Nat) : Context :=
  recent ⟨c.elems ++ [e]⟩ k

/-- The elements one after the other as numbers. -/
def key (c : Context) : List Nat := c.elems.flatMap ContextElem.key

/-- Contexts are ordered as lists. -/
instance : Ord Context := ⟨compareOn key⟩

def label (p : Program) (c : Context) : String :=
  "[" ++ ", ".intercalate (c.elems.map (·.label p)) ++ "]"

/-- A label in a context. An empty context is not shown. -/
def qualify (p : Program) (c : Context) (label : String) : String :=
  if c.isEmpty then label else c.label p ++ ":" ++ label

end Context

end PointsTo
