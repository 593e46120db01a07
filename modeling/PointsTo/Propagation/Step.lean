import PointsTo.Dispatch
import PointsTo.Machine
import PointsTo.Propagation.State

/-!
The points-to analysis step by step. It starts from the entry method and finds reachable methods on
the way: a static call makes its callee reachable at once, an instance call when an object reaches
its receiver.
-/
namespace PointsTo.Propagation

namespace State

variable (p : Program) (π : Policy) (s : State)

/-- Analyzes a method that was not reachable before. -/
def enter (m : CtxMethod) : State :=
  let method := p.methodDecl m.id
  let sites := method.calls.toList.map fun site => (⟨m.context, site⟩ : CtxSite)
  match s.calls.insertMethod m sites with
  | (false, _) => s
  | (true, calls) =>
    { s with calls }.report (.reached m)
      |>.plan (method.stmts.toList.map fun st => .exec m.context st)

/-- Looks at a statement of a method in context `c`. Accesses and calls through a variable wait for
the objects that it points to. -/
def exec (c : ContextId) (st : StmtId) : Except AnalysisError State :=
  match p.stmt st with
  | .new target _ => do
    let obj ← p.objectAt st
    let (h, s) := s.internContext (π.forObject (s.context c))
    let (o, s) := s.internObject h obj
    let (x, s) := s.internPointer (.var ⟨c, target⟩)
    return s.send x (.singleton o)
  | .copy target source => .ok (s.connect (.var ⟨c, source⟩) (.var ⟨c, target⟩))
  | .load target none field => .ok (s.connect (.static field) (.var ⟨c, target⟩))
  | .store none field source => .ok (s.connect (.var ⟨c, source⟩) (.static field))
  | .invoke call =>
    match call.kind with
    | .static => do
      let callee ← p.calleeAt none st
      let (d, s) := s.internContext (π.forStaticCall (s.context c) st)
      return s.addCall .static ⟨c, st⟩ ⟨d, callee⟩
    | .dynamic => .error (.unrecognizedKind (p.stmtLabel st) .dynamic)
    | .special | .virtual | .interface => .ok s
  | .load _ (some _) _ | .store (some _) _ _ | .arrayLoad .. | .arrayStore .. | .ret _ => .ok s

/-- Lets arguments flow to parameters and returned variables to the result of a call. -/
def bindCall (site : CtxSite) (callee : CtxMethod) : Except AnalysisError State := do
  let call ← p.callAt site.id
  let method := p.methodDecl callee.id
  let s := (call.args.zip method.params.toList).foldl (fun s (arg, param) =>
    s.connect (.var ⟨site.context, arg⟩) (.var ⟨callee.context, param⟩)) s
  match call.result with
  | none => return s
  | some result =>
    let target := Pointer.var ⟨site.context, result⟩
    let (_, s) := s.internPointer target
    return method.returns.toList.foldl (fun s value =>
      s.connect (.var ⟨callee.context, value⟩) target) s

/-- The flow that an access through a variable in context `c` calls for on an object. -/
def access (c : ContextId) (o : CtxObjId) (st : StmtId) : State :=
  match p.stmt st with
  | .store _ field source => s.connect (.var ⟨c, source⟩) (.field o field)
  | .load target _ field => s.connect (.field o field) (.var ⟨c, target⟩)
  | .arrayStore _ _ source => s.connect (.var ⟨c, source⟩) (.array o)
  | .arrayLoad target _ _ => s.connect (.array o) (.var ⟨c, target⟩)
  | _ => s

/-- Does what a variable is used for on an object: stores, loads, and then calls. -/
def receive (v : CtxVar) (o : CtxObjId) : State :=
  let d := p.varDecl v.id
  let accesses := d.stores ++ d.loads ++ d.arrayStores ++ d.arrayLoads
  (accesses.toList.foldl (fun s st => s.access p v.context o st) s).plan
    (d.calls.toList.map fun site => .invoke ⟨v.context, site⟩ o)

/-- Does an instance call on an object, which the receiver variable of the callee then points
to. -/
def invoke (site : CtxSite) (o : CtxObjId) : Except AnalysisError State := do
  let call ← p.callAt site.id
  let obj := s.store.objectOf o
  let callee ← p.calleeAt (some obj.cls) site.id
  let (d, s) := s.internContext
    (π.forInstanceCall (s.context site.context) site.id (s.store.heapContextOf o) obj)
  let s := match (p.methodDecl callee).this with
    | none => s
    | some this =>
      let (x, s) := s.internPointer (.var ⟨d, this⟩)
      s.send x (.singleton o)
  return s.addCall call.kind site ⟨d, callee⟩

def perform : Task → Except AnalysisError State
  | .enter m => .ok (s.enter p m)
  | .exec c st => s.exec p π c st
  | .bindCall site callee => s.bindCall p site callee
  | .receive v o => .ok (s.receive p v o)
  | .invoke site o => s.invoke p π site o

/-- Lets objects arrive at a pointer. Those that are new there go on to its successors, and a
variable receives them. -/
def arrive (x : PointerId) (set : ObjSet) : State :=
  let (delta, grown) := (s.store.pointees x).absorb set
  if delta.isEmpty then s
  else
    let s := { s with store := s.store.setPointees x grown }.report (.grown delta.size x)
    let s := (s.flow.successors x).foldl (fun s y => s.send y delta) s
    match s.store.pointer x with
    | .var v => s.plan (delta.toList.map (.receive v))
    | _ => s

end State

/-- How a run ends: with its last state, and with an error if a call cannot be resolved. -/
abbrev Outcome := Option AnalysisError × State

def step (p : Program) (π : Policy) (s : State) : Step State Outcome :=
  match s.agenda with
  | task :: agenda =>
    match { s with agenda }.perform p π task with
    | .ok s => .next s
    | .error e => .halt (some e, s)
  | [] =>
    match s.queue.pop? with
    | some ((x, set), queue) => .next ({ s with queue }.arrive x set)
    | none => .halt (none, s)

/-- The state in which the entry method is about to be entered. -/
def start (π : Policy) (entry : MethodId) : State :=
  let s : State := {}
  let (c, s) := (s.report (.started π)).internContext .empty
  let m : CtxMethod := ⟨c, entry⟩
  { s with calls := s.calls.insertEntry m }.plan [.enter m]

/-- An exponent for the number of steps. With `n` declarations and statements there are at most
`(3 n + 1) ^ k` contexts, and the number of steps is bounded by a polynomial in them. -/
def stepExponent (p : Program) (π : Policy) : Nat :=
  let n := p.classes.size + p.fields.size + p.methods.size + p.vars.size + p.stmts.size
  32 * (π.bound + 1) * (n + 2)

def run (p : Program) (π : Policy) (entry : MethodId) : Outcome :=
  match Step.run (step p π) (stepExponent p π) (start π entry) with
  | .halt outcome => outcome
  | .next s => (some .outOfSteps, s)

end PointsTo.Propagation
