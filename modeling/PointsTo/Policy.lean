import PointsTo.Context
import PointsTo.Obj
import PointsTo.Text.Split

/-!
Policies choose the contexts in which methods are analyzed and objects are told apart. A policy with
bound `k` keeps the `k` most recent call sites, receiver objects or types of receiver objects.
-/
namespace PointsTo

inductive Policy where
  | insensitive
  | callSite (k : Nat)
  | object (k : Nat)
  | type (k : Nat)
deriving DecidableEq, Repr

namespace Policy

instance : Inhabited Policy := ⟨insensitive⟩

/-- The number of elements that a context can have. -/
def bound : Policy → Nat
  | insensitive => 0
  | callSite k | object k | type k => k

/-- The heap context of an object allocated in context `c`. -/
def forObject (π : Policy) (c : Context) : Context :=
  match π with
  | insensitive => .empty
  | callSite k | object k | type k => c.recent (k - 1)

/-- The context of the callee of a static call at `site` in context `c`. -/
def forStaticCall (π : Policy) (c : Context) (site : StmtId) : Context :=
  match π with
  | insensitive => .empty
  | callSite k => c.extend (.call site) k
  | object _ | type _ => c

/-- The context of the callee of an instance call at `site` in context `c`, on an object `recv`
with heap context `h`. -/
def forInstanceCall (π : Policy) (c : Context) (site : StmtId) (h : Context) (recv : Obj) :
    Context :=
  match π with
  | insensitive => .empty
  | callSite k => c.extend (.call site) k
  | object k => h.extend (.alloc recv.site) k
  | type k => h.extend (.type recv.containerClass) k

def text : Policy → String
  | insensitive => "ci"
  | callSite k => s!"{k}-call"
  | object k => s!"{k}-obj"
  | type k => s!"{k}-type"

/-- A number of 64 bits in decimal digits, with a plus sign or none. -/
def parseBound? (s : List Char) : Option Nat := do
  let digits := match s with
    | '+' :: rest => rest
    | _ => s
  guard (!digits.isEmpty && digits.all Char.isDigit)
  let k : Nat := digits.foldl (fun n c => n * 10 + (c.toNat - '0'.toNat)) 0
  guard (k < UInt64.size)
  return k

/-- Reads `ci`, or a bound greater than zero and the kind of the elements. -/
def parse? (s : String) : Option Policy := do
  if s = "ci" then
    return insensitive
  let (k, kind) ← Text.splitFirst '-' s.toList
  let k ← parseBound? k
  guard (k ≠ 0)
  match String.ofList kind with
  | "call" => some (callSite k)
  | "obj" => some (object k)
  | "type" => some (type k)
  | _ => none

def parse (s : String) : Except AnalysisError Policy :=
  match parse? s with
  | some π => .ok π
  | none => .error (.invalidSensitivity s)

end Policy

end PointsTo
