import PointsTo.Program.Basic
import PointsTo.Program.Error

namespace PointsTo.Program

/-- The variables of a statement must exist and belong to the method. -/
def checkVar (p : Program) (m : MethodId) (v : VarId) : Except ProgramError Unit :=
  match p.vars.get? v with
  | none => .error (.unknownVariable v)
  | some d => if d.method = m then .ok () else .error (.foreignVariable d.name (p.methodLabel m))

/-- A field is accessed through a base variable unless it is static. -/
def checkAccess (p : Program) (base : Option VarId) (f : FieldId) : Except Malformed Unit :=
  match base, (p.fieldDecl f).isStatic with
  | none, false => .error (.noBase (p.fieldLabel f))
  | some _, true => .error (.staticWithBase (p.fieldLabel f))
  | _, _ => .ok ()

/-- A call has an argument for each parameter, and a receiver unless it is static or dynamic. -/
def checkCall (call : Call) : Except Malformed Unit :=
  if call.args.length ≠ call.target.signature.params.length then
    .error (.argumentCount call.target.signature call.args.length)
  else
    match call.kind, call.receiver with
    | .static, some _ => .error .staticWithReceiver
    | .special, none | .virtual, none | .interface, none => .error (.noReceiver call.kind)
    | _, _ => .ok ()

/-- The rules that depend on the form of a statement. -/
def checkShape (p : Program) : Stmt → Except Malformed Unit
  | .new _ type => if type.isReference then .ok () else .error (.notAllocatable type)
  | .load _ base field | .store base field _ => p.checkAccess base field
  | .invoke call => checkCall call
  | _ => .ok ()

/-- Whether a statement can be added to the body of a method. -/
def checkStmt (p : Program) (m : MethodId) (stmt : Stmt) : Except ProgramError Unit := do
  let method := p.methodDecl m
  if method.isAbstract || method.isNative then
    throw (.bodyOfAbstract method.label)
  stmt.vars.forM (p.checkVar m)
  match p.checkShape stmt with
  | .ok () => return ()
  | .error reason => throw (.malformed method.label reason)

end PointsTo.Program
