import PointsTo.Context
import PointsTo.Interner
import PointsTo.Obj
import PointsTo.ObjSet
import PointsTo.Qualified

namespace PointsTo

structure AbstractStore where
  contexts : Interner .context Context Context.key := .empty
  objects : Interner .obj Obj Obj.key := .empty
  ctxObjects : Interner .ctxObj CtxObj Qualified.key := .empty
  pointers : Interner .pointer Pointer Pointer.key := .empty
  /-- The points-to set of each pointer. -/
  sets : Table .pointer ObjSet := {}

namespace AbstractStore

instance : Inhabited AbstractStore := ⟨{}⟩

variable (A : AbstractStore)

def context (c : ContextId) : Context := A.contexts.get c
def object (o : ObjId) : Obj := A.objects.get o
def ctxObject (o : CtxObjId) : CtxObj := A.ctxObjects.get o
def pointer (x : PointerId) : Pointer := A.pointers.get x
def pointees (x : PointerId) : ObjSet := A.sets.get x

def internContext (c : Context) : ContextId × AbstractStore :=
  let (i, contexts) := A.contexts.intern c
  (i, { A with contexts })

def internObject (o : Obj) : ObjId × AbstractStore :=
  let (i, objects) := A.objects.intern o
  (i, { A with objects })

def internCtxObject (o : CtxObj) : CtxObjId × AbstractStore :=
  let (i, ctxObjects) := A.ctxObjects.intern o
  (i, { A with ctxObjects })

/-- Numbers a pointer. A new one points to nothing. -/
def internPointer (x : Pointer) : PointerId × AbstractStore :=
  let (i, pointers) := A.pointers.intern x
  let sets := if (A.pointers.find? x).isSome then A.sets else A.sets.push .empty
  (i, { A with pointers, sets })

def findPointer? (x : Pointer) : Option PointerId := A.pointers.find? x

def setPointees (x : PointerId) (s : ObjSet) : AbstractStore :=
  { A with sets := A.sets.modify x fun _ => s }

/-- The abstract object of an object in a context. -/
def objectOf (o : CtxObjId) : Obj := A.object (A.ctxObject o).id

/-- The heap context of an object in a context. -/
def heapContextOf (o : CtxObjId) : Context := A.context (A.ctxObject o).context

variable (p : Program)

def ctxObjectLabel (o : CtxObjId) : String :=
  (A.heapContextOf o).qualify p ((A.objectOf o).label p)

def methodLabel (m : CtxMethod) : String :=
  (A.context m.context).qualify p (p.methodLabel m.id)

def pointerLabel (x : PointerId) : String :=
  match A.pointer x with
  | .var v => (A.context v.context).qualify p (p.varLabel v.id)
  | .static f => p.fieldLabel f
  | .field o f => A.ctxObjectLabel p o ++ "." ++ (p.fieldDecl f).name
  | .array o => A.ctxObjectLabel p o ++ "[*]"

end AbstractStore

end PointsTo
