import PointsTo.Stmt
import Std.Data.TreeMap
import Std.Data.TreeSet

/-!
Call graphs over any ordered call sites and methods, so that both plain methods and methods in a
context can be their nodes. Methods are kept in the order in which they were found, edges in
increasing order.
-/
namespace PointsTo

/-- A call site of type `σ` can run a method of type `μ`. -/
structure Edge (σ μ : Type) where
  kind : CallKind
  site : σ
  callee : μ
deriving DecidableEq, Repr

namespace Edge

variable {σ μ : Type} [Ord σ] [Ord μ]

/-- Edges are ordered by kind, then call site, then callee. -/
instance : Ord (Edge σ μ) :=
  ⟨compareLex (compareOn kind) (compareLex (compareOn site) (compareOn callee))⟩

instance [Std.TransOrd σ] [Std.TransOrd μ] : Std.TransOrd (Edge σ μ) :=
  inferInstanceAs
    (Std.TransCmp (compareLex (compareOn kind) (compareLex (compareOn site) (compareOn callee))))

end Edge

structure CallGraph (σ μ : Type) [Ord σ] [Ord μ] where
  entries : Array μ := #[]
  /-- The reachable methods in the order in which they were found. -/
  reachable : Array μ := #[]
  /-- The same methods as a set. -/
  reachableSet : Std.TreeSet μ := {}
  /-- The call sites in the body of each reachable method. -/
  siteIndex : Std.TreeMap μ (List σ) := {}
  /-- The method whose body contains a call site. -/
  containers : Std.TreeMap σ μ := {}
  edges : Std.TreeSet (Edge σ μ) := {}
  calleeIndex : Std.TreeMap σ (Std.TreeSet μ) := {}
  callerIndex : Std.TreeMap μ (Std.TreeSet σ) := {}

namespace CallGraph

variable {σ μ : Type} [Ord σ] [Ord μ]

instance : Inhabited (CallGraph σ μ) := ⟨{}⟩

def insertEntry (g : CallGraph σ μ) (m : μ) : CallGraph σ μ :=
  if g.entries.any (compare · m = .eq) then g else { g with entries := g.entries.push m }

/-- Whether a method is reachable. -/
def contains (g : CallGraph σ μ) (m : μ) : Bool := g.reachableSet.contains m

/-- Makes a method reachable, with the call sites of its body. Says whether it was new. -/
def insertMethod (g : CallGraph σ μ) (m : μ) (sites : List σ) : Bool × CallGraph σ μ :=
  if g.contains m then (false, g)
  else
    (true, { g with
      reachable := g.reachable.push m
      reachableSet := g.reachableSet.insert m
      siteIndex := g.siteIndex.insert m sites
      containers := sites.foldl (·.insert · m) g.containers })

/-- Adds an edge. Says whether it was new. -/
def insertEdge (g : CallGraph σ μ) (e : Edge σ μ) : Bool × CallGraph σ μ :=
  if g.edges.contains e then (false, g)
  else
    (true, { g with
      edges := g.edges.insert e
      calleeIndex :=
        g.calleeIndex.insert e.site ((g.calleeIndex.getD e.site {}).insert e.callee)
      callerIndex :=
        g.callerIndex.insert e.callee ((g.callerIndex.getD e.callee {}).insert e.site) })

/-- The call sites of a reachable method. -/
def sitesOf (g : CallGraph σ μ) (m : μ) : List σ := g.siteIndex.getD m []

def container? (g : CallGraph σ μ) (s : σ) : Option μ := g.containers[s]?

/-- The methods that a call site can run, in increasing order. -/
def callees (g : CallGraph σ μ) (s : σ) : List μ := (g.calleeIndex.getD s {}).toList

/-- The call sites that can run a method, in increasing order. -/
def callers (g : CallGraph σ μ) (m : μ) : List σ := (g.callerIndex.getD m {}).toList

def edgeList (g : CallGraph σ μ) : List (Edge σ μ) := g.edges.toList

/-- The graph of the methods that satisfy `keep`. An edge stays if its callee does and its call site
is in the body of a method that does. -/
def filter (g : CallGraph σ μ) (keep : μ → Bool) : CallGraph σ μ :=
  let kept := (g.entries.toList.filter keep).foldl insertEntry {}
  let kept := (g.reachable.toList.filter keep).foldl
    (fun kept m => (kept.insertMethod m (g.sitesOf m)).2) kept
  g.edgeList.foldl
    (fun kept e =>
      if kept.contains e.callee && kept.containers.contains e.site then (kept.insertEdge e).2
      else kept)
    kept

end CallGraph

end PointsTo
