import PointsTo.AbstractStore
import PointsTo.CallGraph.Basic
import PointsTo.FlowGraph
import PointsTo.Journal
import PointsTo.Policy
import PointsTo.Queue

namespace PointsTo.Propagation

inductive Task where
  /-- Analyze a method, unless it is reachable already. -/
  | enter (m : CtxMethod)
  /-- Look at a statement of a reachable method. -/
  | exec (c : ContextId) (s : StmtId)
  /-- Connect the arguments and the result of a call with its callee. -/
  | bindCall (site : CtxSite) (callee : CtxMethod)
  /-- Do what a variable is used for on an object that it can now point to. -/
  | receive (v : CtxVar) (o : CtxObjId)
  /-- Do an instance call on an object. -/
  | invoke (site : CtxSite) (o : CtxObjId)
deriving DecidableEq, Repr

inductive Event where
  | started (policy : Policy)
  | reached (m : CtxMethod)
  | called (kind : CallKind) (site : StmtId) (callee : MethodId)
  | grown (count : Nat) (x : PointerId)
  | finished (reachable edges pointers : Nat)
deriving DecidableEq, Repr

def Event.line (p : Program) (A : AbstractStore) : Event → Line
  | started policy =>
    ⟨.info, s!"running points-to analysis ({policy.text} context sensitivity)"⟩
  | reached m =>
    let context := (A.context m.context).label p
    ⟨.debug, s!"new reachable method {p.methodLabel m.id} in context {context}"⟩
  | called kind site callee =>
    ⟨.debug, s!"new {kind.text} call edge {p.stmtLabel site} -> {p.methodLabel callee}"⟩
  | grown count x => ⟨.trace, s!"{count} new object(s) for pointer PointerId({x.number})"⟩
  | finished reachable edges pointers =>
    ⟨.info, s!"points-to analysis done: {reachable} reachable methods, {edges} call edges, " ++
      s!"{pointers} pointers"⟩

structure State where
  store : AbstractStore := {}
  flow : FlowGraph := {}
  calls : CallGraph CtxSite CtxMethod := {}
  /-- Objects on their way to a pointer. -/
  queue : Queue (PointerId × ObjSet) := {}
  agenda : List Task := []
  events : Array Event := #[]

namespace State

instance : Inhabited State := ⟨{}⟩

variable (s : State)

def report (e : Event) : State := { s with events := s.events.push e }

/-- Puts tasks before all others. -/
def plan (tasks : List Task) : State := { s with agenda := tasks ++ s.agenda }

/-- Sends objects to a pointer. -/
def send (x : PointerId) (set : ObjSet) : State := { s with queue := s.queue.push (x, set) }

def context (c : ContextId) : Context := s.store.context c

def internContext (c : Context) : ContextId × State :=
  let (i, store) := s.store.internContext c
  (i, { s with store })

/-- Numbers an object in a heap context. -/
def internObject (h : ContextId) (o : Obj) : CtxObjId × State :=
  let (o, store) := s.store.internObject o
  let (o, store) := store.internCtxObject ⟨h, o⟩
  (o, { s with store })

def internPointer (x : Pointer) : PointerId × State :=
  let (i, store) := s.store.internPointer x
  (i, { s with store })

/-- Lets objects flow from a pointer to another, those that it points to now included. -/
def connect (source target : Pointer) : State :=
  let (x, s) := s.internPointer source
  let (y, s) := s.internPointer target
  match s.flow.insertEdge x y with
  | (false, _) => s
  | (true, flow) =>
    let s := { s with flow }
    let set := s.store.pointees x
    if set.isEmpty then s else s.send y set

/-- Adds a call edge. The callee of a new edge is entered, and then the call is bound to it. -/
def addCall (kind : CallKind) (site : CtxSite) (callee : CtxMethod) : State :=
  match s.calls.insertEdge ⟨kind, site, callee⟩ with
  | (false, _) => s
  | (true, calls) =>
    { s with calls }.report (.called kind site.id callee.id)
      |>.plan [.enter callee, .bindCall site callee]

end State

end PointsTo.Propagation
