import PointsTo.CallGraph.Basic
import PointsTo.FlowGraph
import PointsTo.Program.Basic

namespace PointsTo

namespace Dot

def escapeChar : Char → String
  | '"' => "\\\""
  | '\\' => "\\\\"
  | '\n' => "\\l"
  | c => String.singleton c

def escape (s : String) : String := String.join (s.toList.map escapeChar)

def node (number : Nat) (label attributes : String) : String :=
  s!"    {number} [ label = \"{escape label}\" {attributes}]\n"

def edge (source target : Nat) (attributes : String) : String :=
  s!"    {source} -> {target} [ {attributes}]\n"

end Dot

namespace Program

/-- Classes are drawn as boxes, interfaces in grey, and undefined classes without a box. -/
def classAttributes (c : ClassDecl) : String :=
  if !c.defined then "color=black,shape=none"
  else if c.isInterface then "color=#00000088,shape=box"
  else "color=black,shape=box"

def linkAttributes : Inheritance → String
  | .extends => "arrowType=empty,style=solid"
  | .implements => "arrowType=empty,style=dashed"

def hierarchyDot (p : Program) : String :=
  let nodes := p.classes.toList.map fun c => Dot.node c.id.index c.name (classAttributes c)
  let edges := p.hierarchy.links.toList.map fun l =>
    Dot.edge l.sub.index l.sup.index (linkAttributes l.kind)
  "digraph \x7b\n" ++ String.join nodes ++ String.join edges ++ "\x7d\n"

end Program

namespace CallGraph

variable {σ μ : Type} [Ord σ] [Ord μ]

/-- The graph of methods in the dot language, with the entries in blue. -/
def dot (g : CallGraph σ μ) (label : μ → String) : String :=
  let methods := g.reachable.toList
  let numbers : Std.TreeMap μ Nat := .ofList methods.zipIdx
  let isEntry (m : μ) : Bool := g.entries.any (compare · m = .eq)
  let nodes := methods.zipIdx.map fun (m, i) =>
    Dot.node i (label m) (if isEntry m then "color=blue,shape=box" else "color=black,shape=box")
  let links := (g.edgeList.filterMap fun e => do
    let caller ← numbers[← g.container? e.site]?
    let callee ← numbers[e.callee]?
    return (caller, callee, e.kind)).eraseDups
  let edges := links.map fun (caller, callee, kind) =>
    Dot.edge caller callee s!"label=\"{kind.text}\""
  "digraph \x7b\n  rankdir=LR;\n" ++ String.join nodes ++ String.join edges ++ "\x7d"

end CallGraph

namespace FlowGraph

/-- The graph in the dot language. -/
def dot (g : FlowGraph) (label : PointerId → String) : String :=
  let nodes := g.nodes
  let numbers : Std.TreeMap PointerId Nat := .ofList nodes.zipIdx
  let nodeLines := nodes.zipIdx.map fun (x, i) => Dot.node i (label x) "shape=box"
  let edgeLines := g.edges.toList.map fun (source, target) =>
    Dot.edge (numbers.getD source 0) (numbers.getD target 0) ""
  "digraph \x7b\n" ++ String.join nodeLines ++ String.join edgeLines ++ "\x7d\n"

end FlowGraph

end PointsTo
