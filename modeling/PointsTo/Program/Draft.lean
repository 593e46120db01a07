import PointsTo.Journal
import PointsTo.Program.Check
import PointsTo.Program.Update

/-!
Building a program step by step. A class can be referred to before it is defined; until then it
stands in the program as an undefined class. A step that fails leaves the program as it was.
-/
namespace PointsTo

/-- The class at the top of the hierarchy. -/
def rootClassName : String := "java/lang/Object"

namespace Draft

inductive Event where
  | defining (name : String)
  | registering (name : String)
  | rooting (name : String)
  | undefinedClass (name : String)
  | completed (classes methods fields stmts : Nat)
deriving DecidableEq, Repr

def Event.line : Event → Line
  | defining name => ⟨.trace, s!"pushing class '{name}' in program"⟩
  | registering name => ⟨.trace, s!"registering phantom class '{name}'"⟩
  | rooting name => ⟨.debug, s!"add missing java.lang.Object inheritance to {name}"⟩
  | undefinedClass name => ⟨.warn, s!"class {name} is referenced but not defined"⟩
  | completed classes methods fields stmts =>
    ⟨.info, s!"program built: {classes} classes, {methods} methods, {fields} fields, " ++
      s!"{stmts} statements"⟩

end Draft

/-- A program under construction and what was reported on the way. -/
structure Draft where
  program : Program := {}
  events : Array Draft.Event := #[]

/-- A step that builds on a program. A failed step keeps what it reported. -/
abbrev Build := ExceptT ProgramError (StateM Draft)

namespace Draft

instance : Inhabited Draft := ⟨{}⟩

def journal (d : Draft) : Journal := d.events.toList.map Event.line

def report (e : Event) : Build Unit := modify fun d => { d with events := d.events.push e }

def getProgram : Build Program := return (← get).program

def edit (f : Program → Program) : Build Unit :=
  modify fun d => { d with program := f d.program }

/-- Adds a class of a new name. It must not be in the hierarchy yet. -/
def addClass (c : ClassDecl) : Build ClassId := do
  let p ← getProgram
  edit (·.pushClass c)
  if p.hierarchy.nodes.contains c.id then
    throw .nodeTwice
  return c.id

/-- Links a class to a supertype. Both must be in the hierarchy. -/
def addLink (sub sup : ClassId) (kind : Inheritance) : Build Unit := do
  let p ← getProgram
  match [sub, sup].find? (!p.hierarchy.nodes.contains ·) with
  | some c => throw (.nodeMissing c)
  | none => edit (·.link sub sup kind)

/-- The class of the given name, which is registered as undefined if it is not known. -/
def mentionClass (name : String) : Build ClassId := do
  let p ← getProgram
  match p.findClass? name with
  | some c => return c
  | none =>
    report (.registering name)
    addClass { id := p.counters.classes.next, name, defined := false }

/-- Defines a class. -/
def defineClass (name : String) (flags : ClassFlags) : Build ClassId := do
  report (.defining name)
  let p ← getProgram
  match p.findClass? name with
  | some c =>
    if (p.classDecl c).defined then
      throw (.duplicateClass name)
    edit (·.modifyClass c fun d => { d with flags, defined := true })
    return c
  | none => addClass { id := p.counters.classes.next, name, flags }

/-- Makes the class of the given name the superclass of `c`, in place of any other. -/
def extendClass (c : ClassId) (superclass : String) : Build ClassId := do
  let sup ← mentionClass superclass
  edit (·.modifyClass c fun d => { d with superclass := some sup })
  addLink c sup .extends
  return sup

/-- Adds a direct super-interface to a class or interface. -/
def implement (c : ClassId) (interface : String) : Build ClassId := do
  let sup ← mentionClass interface
  edit (·.modifyClass c fun d =>
    if d.interfaces.contains sup then d else { d with interfaces := d.interfaces.push sup })
  let isInterface := ((← getProgram).classDecl c).isInterface
  addLink c sup (if isInterface then .extends else .implements)
  return sup

/-- Declares a field of a class. -/
def declareField (c : ClassId) (name : String) (type : Ty) (flags : FieldFlags) :
    Build FieldId := do
  let p ← getProgram
  let className := (p.classDecl c).name
  if (p.declaredField? c name).isSome then
    throw (.duplicateField className name)
  let f := p.counters.fields.next
  edit (·.pushField { id := f, cls := c, className, name, type, flags })
  return f

/-- The names of the parameters: the given ones, or `p0`, `p1` and so on if none is given. -/
def paramNames (names : List String) (count : Nat) : List String :=
  if names.isEmpty then (List.range count).map fun i => s!"p{i}" else names

/-- Declares a method of a class, with a receiver variable if it is not static and a variable for
each parameter. -/
def declareMethod (c : ClassId) (signature : Signature) (flags : MethodFlags)
    (names : List String) : Build MethodId := do
  let p ← getProgram
  let className := (p.classDecl c).name
  let label := PointsTo.methodLabel className signature
  if ((p.classDecl c).declaredMethod? signature).isSome then
    throw (.duplicateMethod label)
  let count := signature.params.length
  if !names.isEmpty && names.length ≠ count then
    throw (.parameterCount label count names.length)
  let flags := flags ||| Flags.onlyIf signature.isConstructor MethodFlags.isConstructor
  let m := p.counters.methods.next
  edit fun p =>
    let p := p.pushMethod { id := m, cls := c, className, signature, flags }
    let p := if flags.has MethodFlags.isStatic then p else p.pushThis m className
    (paramNames names count).zip signature.params |>.foldl
      (fun p (name, type) => p.pushParam m name type) p
  return m

/-- Declares a local variable of a method. -/
def declareLocal (m : MethodId) (name : String) (type : Ty) : Build VarId := do
  let p ← getProgram
  if (p.findVar? m name).isSome then
    throw (.malformed (p.methodLabel m) (.variableTwice name))
  let v := p.counters.vars.next
  edit (·.pushVar m name type)
  return v

/-- The variable of a method with the given name. -/
def lookupVar (m : MethodId) (name : String) : Build VarId := do
  let p ← getProgram
  match p.findVar? m name with
  | some v => return v
  | none => throw (.variableNotFound name (p.methodLabel m))

/-- The receiver variable of a method. -/
def lookupReceiver (m : MethodId) : Build VarId := do
  let p ← getProgram
  match (p.methodDecl m).this with
  | some v => return v
  | none => throw (.variableNotFound "this" (p.methodLabel m))

def lookupParam (m : MethodId) (position : Nat) : Build VarId := do
  let p ← getProgram
  match (p.methodDecl m).params[position]? with
  | some v => return v
  | none => throw (.parameterNotFound position (p.methodLabel m))

/-- The field that a class declares under a name or inherits from a superclass. -/
def lookupField (className name : String) : Build FieldId := do
  let p ← getProgram
  let chain := match p.findClass? className with
    | some c => p.superclassChain c
    | none => []
  match chain.findSome? fun c => p.declaredField? c name with
  | some f => return f
  | none => throw (.fieldNotFound className name)

/-- A reference to a method of the class of the given name. -/
def referTo (className : String) (signature : Signature) : Build MethodRef :=
  return ⟨← mentionClass className, signature⟩

def startAt (m : MethodId) : Build Unit := edit fun p => { p with entry := some m }

/-- Adds a statement at the end of the body of a method. -/
def appendStmt (m : MethodId) (stmt : Stmt) : Build StmtId := do
  let p ← getProgram
  match p.checkStmt m stmt with
  | .error e => throw e
  | .ok () =>
    if let .new _ (.ref name) := stmt then
      let _ ← mentionClass name
    let s := (← getProgram).counters.stmts.next
    edit (·.pushStmt m stmt)
    return s

/-- Completes the hierarchy: every class without superclass gets the root class as its superclass,
the root class itself and the interfaces apart. -/
def complete : Build Program := do
  let root ← mentionClass rootClassName
  let orphans := (← getProgram).classes.toList.filter fun c =>
    c.id ≠ root ∧ c.superclass = none ∧ !c.isInterface
  orphans.forM fun c => do
    report (.rooting c.name)
    let _ ← extendClass c.id rootClassName
  let p ← getProgram
  (p.undefinedClasses.filter (· ≠ rootClassName)).forM fun name => report (.undefinedClass name)
  let n := p.counters
  report (.completed n.classes.count n.methods.count n.fields.count n.stmts.count)
  return p

end Draft

end PointsTo
