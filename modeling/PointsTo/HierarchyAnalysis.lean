import PointsTo.CallGraph.Basic
import PointsTo.Dispatch
import PointsTo.Journal
import PointsTo.Machine
import PointsTo.Queue

namespace PointsTo

namespace Program

/-- The methods that a call site can run, in increasing order. A subtype without such a method
counts for nothing. -/
def chaTargets (p : Program) (site : StmtId) : Except AnalysisError (List MethodId) := do
  let call ← p.callAt site
  match call.kind with
  | .static | .special | .dynamic => return [← p.calleeAt none site]
  | .virtual | .interface =>
    let ⟨c, g⟩ := call.target
    return Id.sort ((p.possibleClasses c).filterMap (p.dispatch · g)).eraseDups

end Program

namespace HierarchyAnalysis

inductive Event where
  | reached (m : MethodId)
  | called (site : StmtId) (callee : MethodId)
  | finished (reachable edges : Nat)
deriving DecidableEq, Repr

def Event.line (p : Program) : Event → Line
  | reached m => ⟨.debug, s!"new reachable method {p.methodLabel m}"⟩
  | called site callee => ⟨.trace, s!"{p.stmtLabel site} -> {p.methodLabel callee}"⟩
  | finished reachable edges =>
    ⟨.info, s!"CHA call graph: {reachable} reachable methods, {edges} edges"⟩

/-- A search under way: the methods still to visit, and the call sites of the method being
visited that are still to resolve. -/
structure State where
  graph : CallGraph StmtId MethodId := {}
  pending : Queue MethodId := {}
  sites : List StmtId := []
  events : Array Event := #[]

namespace State

def report (s : State) (e : Event) : State := { s with events := s.events.push e }

/-- Visits a method, unless it is reachable already. -/
def visit (p : Program) (s : State) (m : MethodId) : State :=
  let sites := (p.methodDecl m).calls.toList
  match s.graph.insertMethod m sites with
  | (false, _) => s
  | (true, graph) => { s with graph, sites }.report (.reached m)

/-- Adds the edge from a call site to one of its targets, which is visited later. -/
def addCallee (kind : CallKind) (site : StmtId) (s : State) (callee : MethodId) : State :=
  let s := { s with pending := s.pending.push callee }
  match s.graph.insertEdge ⟨kind, site, callee⟩ with
  | (false, _) => s
  | (true, graph) => { s with graph }.report (.called site callee)

def resolveSite (p : Program) (s : State) (site : StmtId) : Except AnalysisError State := do
  let call ← p.callAt site
  return (← p.chaTargets site).foldl (addCallee call.kind site) s

end State

/-- How a search ends: with its last state, and with an error if a call site has no target. -/
abbrev Outcome := Option AnalysisError × State

def step (p : Program) (s : State) : Step State Outcome :=
  match s.sites with
  | site :: sites =>
    match { s with sites }.resolveSite p site with
    | .ok s => .next s
    | .error e => .halt (some e, s)
  | [] =>
    match s.pending.pop? with
    | some (m, pending) => .next ({ s with pending }.visit p m)
    | none => .halt (none, s)

/-- A method is visited for the entry and once for every target of a call site, and every call site
is resolved once. -/
def stepBound (p : Program) : Nat := p.stmts.size * p.methods.size + p.stmts.size + 2

def search (p : Program) (entry : MethodId) : Outcome :=
  let start : State :=
    { graph := ({} : CallGraph StmtId MethodId).insertEntry entry
      pending := ({} : Queue MethodId).push entry }
  match Step.run (step p) ((stepBound p).log2 + 1) start with
  | .halt outcome => outcome
  | .next s => (some .outOfSteps, s)

end HierarchyAnalysis

namespace Program

/-- The call graph of the methods that can be reached from the entry method, with what was reported
on the way. -/
def chaCallGraph (p : Program) :
    Except AnalysisError (CallGraph StmtId MethodId) × Journal :=
  match p.entry with
  | none => (.error .noEntryMethod, [])
  | some entry =>
    match HierarchyAnalysis.search p entry with
    | (some e, s) => (.error e, s.events.toList.map (·.line p))
    | (none, s) =>
      let s := s.report (.finished s.graph.reachable.size s.graph.edges.size)
      (.ok s.graph, s.events.toList.map (·.line p))

end Program

end PointsTo
