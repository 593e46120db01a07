import PointsTo.Description.Basic
import PointsTo.Program.Draft

/-!
Building the described program in three passes: the classes, so that links know which of them are
interfaces; then inheritance, fields, methods and variables; then the bodies, which can refer to any
member of any class.
-/
namespace PointsTo

namespace Description

open Draft

def readMember (reference : String) : Build MemberRef :=
  match MemberRef.parse? reference with
  | some r => return r
  | none => throw (.badReference reference)

/-- The flags of a described class. Every class is public, and an interface is abstract. -/
def Class.flags (c : Class) : ClassFlags :=
  ClassFlags.isPublic
    ||| Flags.onlyIf c.isInterface (ClassFlags.isInterface ||| ClassFlags.isAbstract)
    ||| Flags.onlyIf c.isAbstract ClassFlags.isAbstract

def Field.flags (f : Field) : FieldFlags := Flags.onlyIf f.isStatic FieldFlags.isStatic

/-- The flags of a method that is described in class `c`. An instance method of an interface is
abstract if it has no body. -/
def Method.flags (c : Class) (m : Method) : MethodFlags :=
  MethodFlags.isPublic ||| Flags.onlyIf m.isStatic MethodFlags.isStatic
    ||| Flags.onlyIf (m.isAbstract || (c.isInterface && m.body.isEmpty && !m.isStatic))
      MethodFlags.isAbstract
    ||| Flags.onlyIf m.isNative MethodFlags.isNative

/-- Declares the members of a class, and gives its methods with their descriptions. -/
def Class.declare (id : ClassId) (c : Class) : Build (List (MethodId × Method)) := do
  if let some superclass := c.superclass then
    let _ ← extendClass id superclass
  c.interfaces.forM fun name => discard (implement id name)
  c.fields.forM fun f => do
    let type ← Ty.parse f.type
    discard (declareField id f.name type f.flags)
  c.methods.mapM fun m => do
    let signature ← Signature.parse m.signature
    let method ← declareMethod id signature (m.flags c) m.params
    m.locals.forM fun l => do
      let type ← Ty.parse l.type
      discard (declareLocal method l.name type)
    return (method, m)

def fieldOf (reference : String) : Build FieldId := do
  let r ← readMember reference
  lookupField r.cls r.member

/-- The statement of a method that a description stands for. -/
def Stmt.resolve (m : MethodId) : Stmt → Build PointsTo.Stmt
  | new target type => return .new (← lookupVar m target) (← Ty.parse type)
  | copy target source => return .copy (← lookupVar m target) (← lookupVar m source)
  | load target base f =>
    return .load (← lookupVar m target) (← base.mapM (lookupVar m)) (← fieldOf f)
  | store base f source =>
    return .store (← base.mapM (lookupVar m)) (← fieldOf f) (← lookupVar m source)
  | arrayLoad target array index =>
    return .arrayLoad (← lookupVar m target) (← lookupVar m array) (← lookupVar m index)
  | arrayStore array index source =>
    return .arrayStore (← lookupVar m array) (← lookupVar m index) (← lookupVar m source)
  | invoke kind method receiver args result => do
    let receiver ← receiver.mapM (lookupVar m)
    let args ← args.mapM (lookupVar m)
    let result ← result.mapM (lookupVar m)
    let r ← readMember method
    let target ← referTo r.cls (← Signature.parse r.member)
    return .invoke { kind, target, receiver, args, result }
  | ret value => return .ret (← value.mapM (lookupVar m))

def Method.fill (m : MethodId) (d : Method) : Build Unit :=
  d.body.forM fun s => do discard (appendStmt m (← s.resolve m))

def Entry.resolve (e : Entry) : Build Unit := do
  let signature ← Signature.parse e.method
  match (← getProgram).findMethod? e.cls signature with
  | some m => startAt m
  | none => throw (.methodNotFound (PointsTo.methodLabel e.cls signature))

/-- The program that is described. -/
def build (d : Description) : Build Program := do
  let ids ← d.classes.mapM fun c => defineClass c.name c.flags
  let methods ← (ids.zip d.classes).mapM fun (id, c) => c.declare id
  methods.flatten.forM fun (id, m) => m.fill id
  d.entry.forM Entry.resolve
  complete

end Description

end PointsTo
