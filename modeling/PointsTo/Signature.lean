import PointsTo.Ty

namespace PointsTo

structure Signature where
  name : String
  params : List Ty
  ret : Ty
deriving DecidableEq, Repr, Inhabited

namespace Signature

def text (g : Signature) : String :=
  g.name ++ "(" ++ String.join (g.params.map Ty.text) ++ ")" ++ g.ret.text

/-- The name of every constructor. -/
def constructorName : String := "<init>"

def isConstructor (g : Signature) : Bool := g.name = constructorName

/-- Reads a signature: a nonempty name up to the first `(`, parameter types other than void up to
the first `)` after it, and a return type. -/
def parse? (s : String) : Option Signature := do
  let (name, proto) ← Text.splitFirst '(' s.toList
  let (params, ret) ← Text.splitFirst ')' proto
  guard !name.isEmpty
  let params ← Ty.readAll? params
  guard (params.all (· ≠ .void))
  let ret ← Ty.parse? (String.ofList ret)
  return ⟨String.ofList name, params, ret⟩

/-- Signatures are ordered by name, then parameters, then return type. -/
instance : Ord Signature :=
  ⟨fun a b => (compare a.name b.name).then ((compare a.params b.params).then (compare a.ret b.ret))⟩

end Signature

end PointsTo
