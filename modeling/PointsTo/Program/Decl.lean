import PointsTo.Flags
import PointsTo.Stmt

namespace PointsTo

/-- A class or interface. A class that is only referred to is not `defined`. -/
structure ClassDecl where
  id : ClassId
  /-- The qualified name, with `/` between its parts. -/
  name : String
  flags : ClassFlags := .none
  defined : Bool := true
  superclass : Option ClassId := none
  interfaces : Array ClassId := #[]
  fields : Array FieldId := #[]
  methods : Array MethodId := #[]
  /-- The methods by signature. -/
  declared : List (Signature × MethodId) := []
deriving DecidableEq, Repr, Inhabited

structure FieldDecl where
  id : FieldId
  cls : ClassId
  className : String
  name : String
  type : Ty
  flags : FieldFlags := .none
deriving DecidableEq, Repr, Inhabited

/-- A method with its body. The statements of a body are executed in any order, so that only their
numbering is kept. -/
structure MethodDecl where
  id : MethodId
  cls : ClassId
  className : String
  signature : Signature
  flags : MethodFlags := .none
  /-- The receiver variable of an instance method. -/
  this : Option VarId := none
  params : Array VarId := #[]
  /-- All variables: the receiver, the parameters, then the locals. -/
  vars : Array VarId := #[]
  stmts : Array StmtId := #[]
  /-- The variables that return statements name, each once. -/
  returns : Array VarId := #[]
  /-- The call sites of the body. -/
  calls : Array StmtId := #[]
deriving DecidableEq, Repr, Inhabited

/-- A variable of a method, with the statements that access the heap or call a method through
it. -/
structure VarDecl where
  id : VarId
  method : MethodId
  name : String
  type : Ty
  /-- Loads `y = x.f` from this variable `x`. -/
  loads : Array StmtId := #[]
  /-- Stores `x.f = y` to this variable `x`. -/
  stores : Array StmtId := #[]
  /-- Loads `y = x[i]` from this variable `x`. -/
  arrayLoads : Array StmtId := #[]
  /-- Stores `x[i] = y` to this variable `x`. -/
  arrayStores : Array StmtId := #[]
  /-- Calls `x.m(…)` on this variable `x`. -/
  calls : Array StmtId := #[]
deriving DecidableEq, Repr, Inhabited

/-- Where a statement stands: the method that contains it and its position in the body. -/
structure Place where
  method : MethodId
  position : Nat
deriving DecidableEq, Repr, Inhabited

namespace ClassDecl

def isPublic (c : ClassDecl) : Bool := c.flags.has ClassFlags.isPublic
def isFinal (c : ClassDecl) : Bool := c.flags.has ClassFlags.isFinal
def isInterface (c : ClassDecl) : Bool := c.flags.has ClassFlags.isInterface
def isAbstract (c : ClassDecl) : Bool := c.flags.has ClassFlags.isAbstract

/-- The method that the class itself declares with a signature. -/
def declaredMethod? (c : ClassDecl) (g : Signature) : Option MethodId := c.declared.lookup g

end ClassDecl

namespace FieldDecl

def isStatic (f : FieldDecl) : Bool := f.flags.has FieldFlags.isStatic
def isFinal (f : FieldDecl) : Bool := f.flags.has FieldFlags.isFinal

def label (f : FieldDecl) : String := f.type.text ++ " " ++ f.className ++ "->" ++ f.name

end FieldDecl

/-- How the method with signature `g` of a class is shown. -/
def methodLabel (className : String) (g : Signature) : String := className ++ "->" ++ g.text

namespace MethodDecl

def isStatic (m : MethodDecl) : Bool := m.flags.has MethodFlags.isStatic
def isAbstract (m : MethodDecl) : Bool := m.flags.has MethodFlags.isAbstract
def isNative (m : MethodDecl) : Bool := m.flags.has MethodFlags.isNative
def isPrivate (m : MethodDecl) : Bool := m.flags.has MethodFlags.isPrivate

def label (m : MethodDecl) : String := methodLabel m.className m.signature

end MethodDecl

end PointsTo
