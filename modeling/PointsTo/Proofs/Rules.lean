import Mathlib.Order.Bounds.Defs
import PointsTo.Solution

/-!
The inclusion rules of the points-to analysis, over contexts, objects and places instead of the
identifiers that a run gives them. A family of facts that is closed under the rules is a solution;
a run decodes to such a family.
-/
namespace PointsTo

/-- An abstract object in its heap context. -/
@[ext] structure HeapObj where
  heap : Context
  obj : Obj
deriving DecidableEq, Repr

/-- A pointer, with a context and an object in place of their identifiers. -/
inductive Location where
  | var (c : Context) (v : VarId)
  | static (f : FieldId)
  | field (o : HeapObj) (f : FieldId)
  | array (o : HeapObj)
deriving DecidableEq, Repr

/-- What an analysis can find. -/
inductive Fact where
  | reach (c : Context) (m : MethodId)
  | call (kind : CallKind) (c : Context) (site : StmtId) (d : Context) (callee : MethodId)
  | flow (x y : Location)
  | pts (x : Location) (o : HeapObj)
deriving DecidableEq, Repr

/-- The context in which an instance call runs its callee on an object. -/
def Policy.calleeContext (π : Policy) (c : Context) (site : StmtId) (o : HeapObj) : Context :=
  π.forInstanceCall c site o.heap o.obj

/-- What follows from a family of facts in one step. A call that does not resolve gives nothing. -/
inductive Infers (p : Program) (π : Policy) (K : Set Fact) : Fact → Prop
  | entry {m : MethodId} (h : p.entry = some m) : Infers p π K (.reach .empty m)
  | new {c m s x t obj} (hm : .reach c m ∈ K) (hs : s ∈ (p.methodDecl m).stmts)
      (h : p.stmt s = .new x t) (ho : p.objectAt s = .ok obj) :
      Infers p π K (.pts (.var c x) ⟨π.forObject c, obj⟩)
  | copy {c m s x y} (hm : .reach c m ∈ K) (hs : s ∈ (p.methodDecl m).stmts)
      (h : p.stmt s = .copy x y) : Infers p π K (.flow (.var c y) (.var c x))
  | loadStatic {c m s x f} (hm : .reach c m ∈ K) (hs : s ∈ (p.methodDecl m).stmts)
      (h : p.stmt s = .load x none f) : Infers p π K (.flow (.static f) (.var c x))
  | storeStatic {c m s f y} (hm : .reach c m ∈ K) (hs : s ∈ (p.methodDecl m).stmts)
      (h : p.stmt s = .store none f y) : Infers p π K (.flow (.var c y) (.static f))
  | load {c m s x b f o} (hm : .reach c m ∈ K) (hs : s ∈ (p.methodDecl m).stmts)
      (h : p.stmt s = .load x (some b) f) (ho : .pts (.var c b) o ∈ K) :
      Infers p π K (.flow (.field o f) (.var c x))
  | store {c m s b f y o} (hm : .reach c m ∈ K) (hs : s ∈ (p.methodDecl m).stmts)
      (h : p.stmt s = .store (some b) f y) (ho : .pts (.var c b) o ∈ K) :
      Infers p π K (.flow (.var c y) (.field o f))
  | arrayLoad {c m s x b i o} (hm : .reach c m ∈ K) (hs : s ∈ (p.methodDecl m).stmts)
      (h : p.stmt s = .arrayLoad x b i) (ho : .pts (.var c b) o ∈ K) :
      Infers p π K (.flow (.array o) (.var c x))
  | arrayStore {c m s b i y o} (hm : .reach c m ∈ K) (hs : s ∈ (p.methodDecl m).stmts)
      (h : p.stmt s = .arrayStore b i y) (ho : .pts (.var c b) o ∈ K) :
      Infers p π K (.flow (.var c y) (.array o))
  | staticCall {c m s call callee} (hm : .reach c m ∈ K) (hs : s ∈ (p.methodDecl m).stmts)
      (h : p.stmt s = .invoke call) (hk : call.kind = .static)
      (hc : p.calleeAt none s = .ok callee) :
      Infers p π K (.call .static c s (π.forStaticCall c s) callee)
  | instanceCall {c m s call b o callee} (hm : .reach c m ∈ K)
      (hs : s ∈ (p.methodDecl m).stmts) (h : p.stmt s = .invoke call) (hk : call.kind ≠ .static)
      (hb : call.receiver = some b) (ho : .pts (.var c b) o ∈ K)
      (hc : p.calleeAt (some o.obj.cls) s = .ok callee) :
      Infers p π K (.call call.kind c s (π.calleeContext c s o) callee)
  | receiver {c m s call b o callee this} (hm : .reach c m ∈ K)
      (hs : s ∈ (p.methodDecl m).stmts) (h : p.stmt s = .invoke call) (hk : call.kind ≠ .static)
      (hb : call.receiver = some b) (ho : .pts (.var c b) o ∈ K)
      (hc : p.calleeAt (some o.obj.cls) s = .ok callee)
      (ht : (p.methodDecl callee).this = some this) :
      Infers p π K (.pts (.var (π.calleeContext c s o) this) o)
  | callee {k c s d m} (h : .call k c s d m ∈ K) : Infers p π K (.reach d m)
  | argument {k c s d m call arg param} (hc : .call k c s d m ∈ K) (h : p.stmt s = .invoke call)
      (ha : (arg, param) ∈ call.args.zip (p.methodDecl m).params.toList) :
      Infers p π K (.flow (.var c arg) (.var d param))
  | result {k c s d m call x v} (hc : .call k c s d m ∈ K) (h : p.stmt s = .invoke call)
      (hx : call.result = some x) (hv : v ∈ (p.methodDecl m).returns) :
      Infers p π K (.flow (.var d v) (.var c x))
  | along {x y o} (hf : .flow x y ∈ K) (ho : .pts x o ∈ K) : Infers p π K (.pts y o)

/-- A family of facts that has all that follows from it. -/
def Closed (p : Program) (π : Policy) (K : Set Fact) : Prop := ∀ f, Infers p π K f → f ∈ K

/-- No statement that a family of facts makes an analysis look at is beyond it: allocations have an
object, calls resolve, and none is dynamic. -/
structure Resolves (p : Program) (K : Set Fact) : Prop where
  new {c m s x t} (hm : .reach c m ∈ K) (hs : s ∈ (p.methodDecl m).stmts)
    (h : p.stmt s = .new x t) : ∃ obj, p.objectAt s = .ok obj
  staticCall {c m s call} (hm : .reach c m ∈ K) (hs : s ∈ (p.methodDecl m).stmts)
    (h : p.stmt s = .invoke call) (hk : call.kind = .static) :
    ∃ callee, p.calleeAt none s = .ok callee
  instanceCall {c m s call b o} (hm : .reach c m ∈ K) (hs : s ∈ (p.methodDecl m).stmts)
    (h : p.stmt s = .invoke call) (hb : call.receiver = some b) (ho : .pts (.var c b) o ∈ K) :
    ∃ callee, p.calleeAt (some o.obj.cls) s = .ok callee
  dynamic {c m s call} (hm : .reach c m ∈ K) (hs : s ∈ (p.methodDecl m).stmts)
    (h : p.stmt s = .invoke call) : call.kind ≠ .dynamic

namespace AbstractStore

variable (A : AbstractStore)

/-- The object that an identifier stands for. -/
def heapObj (o : CtxObjId) : HeapObj := ⟨A.heapContextOf o, A.objectOf o⟩

def location : Pointer → Location
  | .var v => .var (A.context v.context) v.id
  | .static f => .static f
  | .field o f => .field (A.heapObj o) f
  | .array o => .array (A.heapObj o)

/-- The place that a pointer's identifier stands for. -/
def place (x : PointerId) : Location := A.location (A.pointer x)

/-- The facts that a store, a flow graph and a call graph stand for. -/
def facts (flow : FlowGraph) (calls : CallGraph CtxSite CtxMethod) : Set Fact
  | .reach c m => ∃ q ∈ calls.reachable, A.context q.context = c ∧ q.id = m
  | .call k c s d m => ∃ e ∈ calls.edges, e.kind = k ∧ A.context e.site.context = c ∧
      e.site.id = s ∧ A.context e.callee.context = d ∧ e.callee.id = m
  | .flow x y => ∃ i j, (i, j) ∈ flow.edges ∧ A.place i = x ∧ A.place j = y
  | .pts x o => ∃ i u, (A.pointees i).contains u ∧ A.place i = x ∧ A.heapObj u = o

end AbstractStore

/-- What an analysis has found. -/
def Solution.facts (r : Solution) : Set Fact := r.store.facts r.flow r.calls

end PointsTo
