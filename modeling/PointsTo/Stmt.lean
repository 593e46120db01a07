import PointsTo.Id
import PointsTo.Signature

namespace PointsTo

/-- How a call picks its callee. Constructors, private methods and calls to a superclass are
`special`; a `dynamic` call is bound by the runtime and cannot be analyzed. -/
inductive CallKind where
  | static | special | virtual | interface | dynamic
deriving DecidableEq, Repr, Inhabited

namespace CallKind

def text : CallKind → String
  | static => "static" | special => "special" | virtual => "virtual"
  | interface => "interface" | dynamic => "dynamic"

def all : List CallKind := [static, special, virtual, interface, dynamic]

def ofText? (s : String) : Option CallKind := all.find? (·.text = s)

def rank : CallKind → Nat
  | static => 0 | special => 1 | virtual => 2 | interface => 3 | dynamic => 4

instance : Ord CallKind := ⟨compareOn rank⟩

instance : Std.TransOrd CallKind := inferInstanceAs (Std.TransCmp (compareOn rank))

instance : Std.LawfulEqOrd CallKind where
  eq_of_compare {a b} h := by
    have h : a.rank = b.rank := Std.LawfulEqOrd.eq_of_compare h
    cases a <;> cases b <;> first | rfl | contradiction

end CallKind

/-- The class named at a call site and the signature of the called method. Which method runs is
found by dispatch. -/
structure MethodRef where
  cls : ClassId
  signature : Signature
deriving DecidableEq, Repr, Inhabited

/-- A call `result = receiver.m(args)`. -/
structure Call where
  kind : CallKind
  target : MethodRef
  receiver : Option VarId := none
  args : List VarId := []
  result : Option VarId := none
deriving DecidableEq, Repr, Inhabited

/-- A statement of a method body. A field access without base is an access to a static field. -/
inductive Stmt where
  /-- `target = new type` -/
  | new (target : VarId) (type : Ty)
  /-- `target = source` -/
  | copy (target source : VarId)
  /-- `target = base.field` -/
  | load (target : VarId) (base : Option VarId) (field : FieldId)
  /-- `base.field = source` -/
  | store (base : Option VarId) (field : FieldId) (source : VarId)
  /-- `target = array[index]` -/
  | arrayLoad (target array index : VarId)
  /-- `array[index] = source` -/
  | arrayStore (array index source : VarId)
  | invoke (call : Call)
  | ret (value : Option VarId)
deriving DecidableEq, Repr

namespace Stmt

instance : Inhabited Stmt := ⟨ret none⟩

def call? : Stmt → Option Call
  | invoke call => some call
  | _ => none

/-- The variables that a statement reads or writes. -/
def vars : Stmt → List VarId
  | new target _ => [target]
  | copy target source => [target, source]
  | load target base _ => target :: base.toList
  | store base _ source => source :: base.toList
  | arrayLoad target array index => [target, array, index]
  | arrayStore array index source => [array, index, source]
  | invoke call => call.receiver.toList ++ call.args ++ call.result.toList
  | ret value => value.toList

end Stmt

end PointsTo
