import PointsTo.AnalysisError
import PointsTo.Program.Basic

namespace PointsTo.Program

variable (p : Program)

/-- The method with signature `g` that a class itself declares, if it has a body. -/
def concreteMethod? (g : Signature) (c : ClassId) : Option MethodId :=
  ((p.classDecl c).declaredMethod? g).filter fun m => !(p.methodDecl m).isAbstract

/-- The method with signature `g` that an interface gives to its subtypes. -/
def defaultMethod? (g : Signature) (c : ClassId) : Option MethodId :=
  if (p.classDecl c).isInterface then
    (p.concreteMethod? g c).filter fun m => !(p.methodDecl m).isStatic
  else none

/-- The method with signature `g` that an object of class `c` runs: the first on the superclass
chain, else the first default method among all supertypes. -/
def dispatch (c : ClassId) (g : Signature) : Option MethodId :=
  ((p.superclassChain c).findSome? (p.concreteMethod? g)).or
    ((p.hierarchy.supertypes c).findSome? (p.defaultMethod? g))

/-- The direct subtypes of a class: the implementors and the subinterfaces of an interface, the
subclasses of any other class. -/
def directSubtypes (c : ClassId) : List ClassId :=
  let extending := p.hierarchy.directSubtypes .extends c
  if (p.classDecl c).isInterface then p.hierarchy.directSubtypes .implements c ++ extending
  else extending

/-- The classes that an object of static type `root` can have, nearest first. -/
def possibleClasses (root : ClassId) : List ClassId :=
  breadthFirst p.directSubtypes (p.hierarchy.links.size + 1) root

/-- The call at a call site. -/
def callAt (site : StmtId) : Except AnalysisError Call :=
  match (p.stmt site).call? with
  | some call => .ok call
  | none => .error (.notACall (p.stmtLabel site))

def dispatchAt (site : StmtId) (c : ClassId) (g : Signature) : Except AnalysisError MethodId :=
  match p.dispatch c g with
  | some m => .ok m
  | none => .error (.unresolvedDispatch (p.stmtLabel site) (p.classDecl c).name g)

/-- The method that a call site runs on an object of class `receiver`. Without receiver, the class
named at the site takes its place. -/
def calleeAt (receiver : Option ClassId) (site : StmtId) : Except AnalysisError MethodId := do
  let call ← p.callAt site
  let ⟨c, g⟩ := call.target
  match call.kind with
  | .static =>
    match p.dispatch c g with
    | some m => return m
    | none => throw (.methodNotFound (PointsTo.methodLabel (p.classDecl c).name g))
  | .special => p.dispatchAt site c g
  | .virtual | .interface => p.dispatchAt site (receiver.getD c) g
  | .dynamic => throw (.unrecognizedKind (p.stmtLabel site) .dynamic)

end PointsTo.Program
