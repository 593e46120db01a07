import PointsTo.Json.Text
import PointsTo.Stmt
import PointsTo.Text.Printable

namespace PointsTo

/-- Why a statement or a local variable is refused. -/
inductive Malformed where
  | variableTwice (name : String)
  | notAllocatable (type : Ty)
  | noBase (field : String)
  | staticWithBase (field : String)
  | argumentCount (signature : Signature) (found : Nat)
  | staticWithReceiver
  | noReceiver (kind : CallKind)
deriving DecidableEq, Repr

/-- Classes, fields and methods are named as they are shown. -/
inductive ProgramError where
  | unreadableFile
  | json (fault : Json.Fault)
  | badReference (reference : String)
  | invalidType (descriptor : String)
  | notClassType (type : Ty)
  | invalidSignature (signature : String)
  | duplicateClass (name : String)
  | duplicateField (cls name : String)
  | duplicateMethod (method : String)
  | fieldNotFound (cls name : String)
  | methodNotFound (method : String)
  | variableNotFound (name method : String)
  | parameterNotFound (position : Nat) (method : String)
  | unknownVariable (var : VarId)
  | foreignVariable (name method : String)
  | parameterCount (method : String) (expected found : Nat)
  | bodyOfAbstract (method : String)
  | malformed (method : String) (reason : Malformed)
  | nodeTwice
  | nodeMissing (cls : ClassId)
  | noEntryMethod
deriving DecidableEq, Repr

namespace Malformed

def message : Malformed → String
  | variableTwice name => s!"variable '{name}' is declared twice"
  | notAllocatable type => s!"cannot allocate non-reference type {type.text}"
  | noBase field => s!"instance field {field} accessed without base"
  | staticWithBase field => s!"static field {field} accessed through a base variable"
  | argumentCount signature found => s!"call to {signature.text} with {found} arguments"
  | staticWithReceiver => "static call with a receiver"
  | noReceiver kind => s!"{kind.text} call without receiver"

end Malformed

namespace ProgramError

def message : ProgramError → String
  | unreadableFile => "IO error: the file cannot be read"
  | json fault => s!"JSON error: {fault.text}"
  | badReference reference => s!"internal error: invalid member reference {Text.quote reference}"
  | invalidType descriptor => s!"invalid type descriptor: {Text.quote descriptor}"
  | notClassType type => s!"invalid type descriptor: {type.text} is not a class type"
  | invalidSignature signature => s!"invalid method subsignature: {signature}"
  | duplicateClass name => s!"class {name} is defined twice"
  | duplicateField cls name => s!"field {cls}.{name} is declared twice"
  | duplicateMethod method => s!"method {method} is declared twice"
  | fieldNotFound cls name => s!"field not found: {cls}.{name}"
  | methodNotFound method => s!"method not found: {method}"
  | variableNotFound name method => s!"variable not found: {name} in {method}"
  | parameterNotFound position method => s!"variable not found: parameter {position} in {method}"
  | unknownVariable var => s!"variable not found: VarUid({var.number})"
  | foreignVariable name method => s!"variable {name} does not belong to method {method}"
  | parameterCount method expected found =>
    s!"method {method} expects {expected} parameters, {found} given"
  | bodyOfAbstract method => s!"abstract method {method} cannot have a body"
  | malformed method reason => s!"malformed statement in {method}: {reason.message}"
  | nodeTwice => "internal error: duplicate object in hierarchy graph"
  | nodeMissing cls => s!"internal error: ClassUid({cls.number}) missing from hierarchy graph"
  | noEntryMethod => "the program has no entry method"

end ProgramError

/-- The class that a type names. -/
def Ty.className (t : Ty) : Except ProgramError String :=
  match t.className? with
  | some name => .ok name
  | none => .error (.notClassType t)

/-- The type that a descriptor describes. -/
def Ty.parse (s : String) : Except ProgramError Ty :=
  match Ty.parse? s with
  | some t => .ok t
  | none => .error (.invalidType s)

/-- The signature that a text spells. -/
def Signature.parse (s : String) : Except ProgramError Signature :=
  match Signature.parse? s with
  | some g => .ok g
  | none => .error (.invalidSignature s)

end PointsTo
