import PointsTo.Qualified
import Std.Data.TreeMap

namespace PointsTo

/-- Stands for a directed graph map, with the behaviour that is documented for one: edges and the
successors of a node are kept in the order in which they are added, and there is at most one edge
from a node to another, so that adding it again changes nothing. -/
structure FlowGraph where
  /-- The edges in the order in which they were added. -/
  edges : Array (PointerId × PointerId) := #[]
  /-- The targets of the edges from each pointer, in the same order. -/
  targets : Std.TreeMap PointerId (Array PointerId) := {}

namespace FlowGraph

instance : Inhabited FlowGraph := ⟨{}⟩

def successors (g : FlowGraph) (x : PointerId) : Array PointerId := g.targets.getD x #[]

def contains (g : FlowGraph) (source target : PointerId) : Bool :=
  (g.successors source).contains target

/-- Adds an edge. Says whether it was new. -/
def insertEdge (g : FlowGraph) (source target : PointerId) : Bool × FlowGraph :=
  if g.contains source target then (false, g)
  else
    (true, {
      edges := g.edges.push (source, target)
      targets := g.targets.insert source ((g.successors source).push target) })

/-- The pointers on edges, in the order in which they first appear there. -/
def nodes (g : FlowGraph) : List PointerId :=
  (g.edges.toList.flatMap fun (source, target) => [source, target]).eraseDups

end FlowGraph

end PointsTo
