import PointsTo.AnalysisError
import PointsTo.Program.Draft

namespace PointsTo

structure Obj where
  /-- The allocation statement. -/
  site : StmtId
  type : Ty
  /-- The class that calls on the object dispatch on. -/
  cls : ClassId
  /-- The method that contains the allocation, and the class that declares it. -/
  container : MethodId
  containerClass : ClassId
deriving DecidableEq, Repr, Inhabited

namespace Obj

def key (o : Obj) : List Nat := [o.site.index]

def label (p : Program) (o : Obj) : String :=
  s!"new {o.type.sourceText}@{p.stmtLabel o.site}"

end Obj

namespace Program

/-- The name of the class of the objects of a type. Arrays are objects of the root class. -/
def runtimeClassName? : Ty → Option String
  | .ref name => some name
  | .array .. => some rootClassName
  | .void | .prim _ => none

/-- The abstract object of an allocation site. -/
def objectAt (p : Program) (site : StmtId) : Except AnalysisError Obj := do
  let .new _ type := p.stmt site | throw (.notAnAllocation (p.stmtLabel site))
  let some name := runtimeClassName? type | throw (.primitiveAllocation type)
  let some cls := p.findClass? name | throw (.unknownClass name)
  let container := p.container site
  return { site, type, cls, container, containerClass := (p.methodDecl container).cls }

end Program

end PointsTo
