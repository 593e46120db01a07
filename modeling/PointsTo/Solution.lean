import PointsTo.Dot
import PointsTo.Propagation.Step

namespace PointsTo

/-- The call graph, the flow graph and the points-to sets that an analysis has found. -/
structure Solution where
  program : Program
  store : AbstractStore
  flow : FlowGraph
  /-- The call graph of methods in contexts. -/
  calls : CallGraph CtxSite CtxMethod

/-- How much an analysis has found. -/
structure Stats where
  reachable : Nat
  callEdges : Nat
  pointers : Nat
  objects : Nat
  ctxObjects : Nat
  flowEdges : Nat
  contexts : Nat
deriving DecidableEq, Repr

namespace Stats

def lines (s : Stats) : List String :=
  [s!"reachable methods:   {s.reachable}",
   s!"call graph edges:    {s.callEdges}",
   s!"pointers:            {s.pointers}",
   s!"abstract objects:    {s.objects}",
   s!"objects in contexts: {s.ctxObjects}",
   s!"flow edges:          {s.flowEdges}",
   s!"contexts:            {s.contexts}"]

def text (s : Stats) : String := "\n".intercalate s.lines

end Stats

namespace Solution

variable (r : Solution)

/-- The call graph with the contexts left out. -/
def plainCalls : CallGraph StmtId MethodId :=
  let g := r.calls.entries.foldl (fun g m => g.insertEntry m.id) ({} : CallGraph StmtId MethodId)
  let g := r.calls.reachable.foldl (fun g m =>
    (g.insertMethod m.id (r.program.methodDecl m.id).calls.toList).2) g
  r.calls.edgeList.foldl (fun g e => (g.insertEdge ⟨e.kind, e.site.id, e.callee.id⟩).2) g

/-- All pointers, in order. -/
def pointerIds : List PointerId := r.store.pointers.values.ids

/-- The abstract objects of the given pointers, in increasing order. -/
def project (pointers : List PointerId) : List ObjId :=
  let objects := pointers.flatMap fun x => (r.store.pointees x).toList
  Id.sort (objects.map fun o => (r.store.ctxObject o).id).eraseDups

/-- The objects that a variable can point to in a context, if it occurs there. -/
def varPointeesIn (c : ContextId) (v : VarId) : Option ObjSet :=
  (r.store.findPointer? (.var ⟨c, v⟩)).map r.store.pointees

/-- Lists a pointer under its variable, if it is a variable. -/
def listVar (index : Std.TreeMap VarId (Array PointerId)) (x : PointerId) :
    Std.TreeMap VarId (Array PointerId) :=
  match r.store.pointer x with
  | .var v => index.insert v.id ((index.getD v.id #[]).push x)
  | _ => index

/-- The pointers of each variable, one for each context. -/
def varPointers : Std.TreeMap VarId (Array PointerId) := r.pointerIds.foldl r.listVar {}

def pointersOfVar (v : VarId) : List PointerId := (r.varPointers.getD v #[]).toList

/-- The abstract objects that a variable can point to in any context. -/
def varPointees (v : VarId) : List ObjId := r.project (r.pointersOfVar v)

/-- The abstract objects that a static field can point to. -/
def staticPointees (f : FieldId) : List ObjId :=
  r.project (r.store.findPointer? (.static f)).toList

/-- The objects that a field of an object in a context can point to, if it occurs. -/
def fieldPointeesOf (o : CtxObjId) (f : FieldId) : Option ObjSet :=
  (r.store.findPointer? (.field o f)).map r.store.pointees

/-- The abstract objects that a field can point to, in all objects of a site and in any context. -/
def fieldPointees (base : ObjId) (f : FieldId) : List ObjId :=
  r.project (r.pointerIds.filter fun x =>
    match r.store.pointer x with
    | .field o g => g = f ∧ (r.store.ctxObject o).id = base
    | _ => false)

/-- The allocation sites of the objects that a variable can point to. -/
def varSites (v : VarId) : List StmtId :=
  Id.sort ((r.varPointees v).map fun o => (r.store.object o).site).eraseDups

/-- The contexts in which a method has been analyzed. -/
def contextsOf (m : MethodId) : List ContextId :=
  (r.calls.reachable.toList.filter (·.id = m)).map (·.context)

def stats : Stats where
  reachable := r.calls.reachable.size
  callEdges := r.calls.edges.size
  pointers := r.store.pointers.size
  objects := r.store.objects.size
  ctxObjects := r.store.ctxObjects.size
  flowEdges := r.flow.edges.size
  contexts := r.store.contexts.size

def objectLabel (o : ObjId) : String := (r.store.object o).label r.program
def ctxObjectLabel (o : CtxObjId) : String := r.store.ctxObjectLabel r.program o
def methodLabel (m : CtxMethod) : String := r.store.methodLabel r.program m
def pointerLabel (x : PointerId) : String := r.store.pointerLabel r.program x

def flowDot : String := r.flow.dot r.pointerLabel
def callsDot : String := r.calls.dot r.methodLabel
def plainCallsDot : String := r.plainCalls.dot r.program.methodLabel

end Solution

/-- Runs the points-to analysis from the entry method of a program, and gives what was reported on
the way. -/
def analyze (p : Program) (π : Policy) : Except AnalysisError Solution × Journal :=
  match p.entry with
  | none => (.error .noEntryMethod, [(Propagation.Event.started π).line p {}])
  | some entry =>
    match Propagation.run p π entry with
    | (some e, s) => (.error e, s.events.toList.map (·.line p s.store))
    | (none, s) =>
      let r : Solution := { program := p, store := s.store, flow := s.flow, calls := s.calls }
      let s := s.report
        (.finished r.calls.reachable.size r.calls.edges.size r.store.pointers.size)
      (.ok r, s.events.toList.map (·.line p s.store))

end PointsTo
