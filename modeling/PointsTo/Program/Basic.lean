import PointsTo.Hierarchy
import PointsTo.Program.Decl
import Std.Data.TreeMap

namespace PointsTo

/-- The identifiers of a program that have been given out, by kind. -/
structure Counters where
  classes : Counter .cls := {}
  fields : Counter .field := {}
  methods : Counter .method := {}
  vars : Counter .var := {}
  stmts : Counter .stmt := {}
deriving DecidableEq, Repr, Inhabited

structure Program where
  /-- Identifiers are taken from here, and not from the tables. -/
  counters : Counters := {}
  classes : Table .cls ClassDecl := {}
  fields : Table .field FieldDecl := {}
  methods : Table .method MethodDecl := {}
  vars : Table .var VarDecl := {}
  stmts : Table .stmt Stmt := {}
  /-- The place of each statement. -/
  places : Table .stmt Place := {}
  /-- The classes by name. -/
  classIds : Std.TreeMap String ClassId := {}
  hierarchy : Hierarchy := {}
  /-- The method that the analyses start from. -/
  entry : Option MethodId := none

namespace Program

instance : Inhabited Program := ⟨{}⟩

variable (p : Program)

def classDecl (c : ClassId) : ClassDecl := p.classes.get c
def fieldDecl (f : FieldId) : FieldDecl := p.fields.get f
def methodDecl (m : MethodId) : MethodDecl := p.methods.get m
def varDecl (v : VarId) : VarDecl := p.vars.get v
def stmt (s : StmtId) : Stmt := p.stmts.get s

/-- The method whose body contains a statement. -/
def container (s : StmtId) : MethodId := (p.places.get s).method

/-- The position of a statement in the body that contains it. -/
def position (s : StmtId) : Nat := (p.places.get s).position

def findClass? (name : String) : Option ClassId := p.classIds[name]?

/-- The method that the class of the given name itself declares with a signature. -/
def findMethod? (className : String) (g : Signature) : Option MethodId := do
  (p.classDecl (← p.findClass? className)).declaredMethod? g

/-- The variable of a method with the given name. -/
def findVar? (m : MethodId) (name : String) : Option VarId :=
  (p.methodDecl m).vars.toList.find? fun v => (p.varDecl v).name = name

/-- The field that a class itself declares under a name. -/
def declaredField? (c : ClassId) (name : String) : Option FieldId :=
  (p.classDecl c).fields.toList.find? fun f => (p.fieldDecl f).name = name

/-- The first `fuel` classes met on the way from a class up its superclasses. -/
def superclassesWithin : (fuel : Nat) → Option ClassId → List ClassId
  | 0, _ => []
  | _, none => []
  | fuel + 1, some c => c :: superclassesWithin fuel (p.classDecl c).superclass

/-- The superclass chain of a class, from the class itself upwards. A chain that ends meets every
class at most once. -/
def superclassChain (c : ClassId) : List ClassId :=
  superclassesWithin p p.classes.size (some c)

def isSubtype (sub sup : ClassId) : Bool := p.hierarchy.isSubtype sub sup

/-- The names of the classes that are referred to but not defined. -/
def undefinedClasses : List String :=
  (p.classes.toList.filter (!·.defined)).map (·.name)

def methodLabel (m : MethodId) : String := (p.methodDecl m).label
def fieldLabel (f : FieldId) : String := (p.fieldDecl f).label

/-- The method and the position of a statement, such as `Main->main()V[3]`. -/
def stmtLabel (s : StmtId) : String :=
  p.methodLabel (p.container s) ++ "[" ++ toString (p.position s) ++ "]"

def varLabel (v : VarId) : String :=
  p.methodLabel (p.varDecl v).method ++ "/" ++ (p.varDecl v).name

end Program

end PointsTo
