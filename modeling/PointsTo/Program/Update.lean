import PointsTo.Program.Basic

namespace PointsTo.Program

/-- Adds a class of a new name. -/
def pushClass (p : Program) (c : ClassDecl) : Program :=
  { p with
    counters.classes := p.counters.classes.succ
    classes := p.classes.push c
    classIds := p.classIds.insert c.name c.id
    hierarchy := p.hierarchy.insertNode c.id }

def modifyClass (p : Program) (c : ClassId) (f : ClassDecl → ClassDecl) : Program :=
  { p with classes := p.classes.modify c f }

def modifyMethod (p : Program) (m : MethodId) (f : MethodDecl → MethodDecl) : Program :=
  { p with methods := p.methods.modify m f }

def modifyVar (p : Program) (v : VarId) (f : VarDecl → VarDecl) : Program :=
  { p with vars := p.vars.modify v f }

def link (p : Program) (sub sup : ClassId) (kind : Inheritance) : Program :=
  { p with hierarchy := p.hierarchy.insert sub sup kind }

def pushField (p : Program) (f : FieldDecl) : Program :=
  { p with
    counters.fields := p.counters.fields.succ
    fields := p.fields.push f }.modifyClass f.cls fun c =>
      { c with fields := c.fields.push f.id }

/-- Adds a method without variables. -/
def pushMethod (p : Program) (m : MethodDecl) : Program :=
  { p with
    counters.methods := p.counters.methods.succ
    methods := p.methods.push m }.modifyClass m.cls fun c =>
      { c with methods := c.methods.push m.id, declared := c.declared ++ [(m.signature, m.id)] }

/-- Adds a variable to a method. -/
def pushVar (p : Program) (m : MethodId) (name : String) (type : Ty) : Program :=
  let v := p.counters.vars.next
  { p with
    counters.vars := p.counters.vars.succ
    vars := p.vars.push { id := v, method := m, name, type } }.modifyMethod m fun d =>
      { d with vars := d.vars.push v }

/-- Adds the receiver variable of a method. -/
def pushThis (p : Program) (m : MethodId) (className : String) : Program :=
  let v := p.counters.vars.next
  (p.pushVar m "this" (.ref className)).modifyMethod m fun d => { d with this := some v }

/-- Adds a parameter to a method. -/
def pushParam (p : Program) (m : MethodId) (name : String) (type : Ty) : Program :=
  let v := p.counters.vars.next
  (p.pushVar m name type).modifyMethod m fun d => { d with params := d.params.push v }

/-- Records at the variable it goes through that a statement accesses the heap or calls a method,
and at the method that it calls or returns. -/
def indexStmt (p : Program) (m : MethodId) (s : StmtId) : Stmt → Program
  | .load _ (some base) _ => p.modifyVar base fun v => { v with loads := v.loads.push s }
  | .store (some base) _ _ => p.modifyVar base fun v => { v with stores := v.stores.push s }
  | .arrayLoad _ array _ =>
    p.modifyVar array fun v => { v with arrayLoads := v.arrayLoads.push s }
  | .arrayStore array _ _ =>
    p.modifyVar array fun v => { v with arrayStores := v.arrayStores.push s }
  | .invoke call =>
    let p := match call.receiver with
      | some receiver => p.modifyVar receiver fun v => { v with calls := v.calls.push s }
      | none => p
    p.modifyMethod m fun d => { d with calls := d.calls.push s }
  | .ret (some value) =>
    p.modifyMethod m fun d =>
      if value ∈ d.returns then d else { d with returns := d.returns.push value }
  | _ => p

/-- Adds a statement at the end of the body of a method. -/
def pushStmt (p : Program) (m : MethodId) (stmt : Stmt) : Program :=
  let s := p.counters.stmts.next
  let position := (p.methodDecl m).stmts.size
  let p := { p with
    counters.stmts := p.counters.stmts.succ
    places := p.places.push ⟨m, position⟩ }.modifyMethod m
      fun d => { d with stmts := d.stmts.push s }
  let p := p.indexStmt m s stmt
  { p with stmts := p.stmts.push stmt }

end PointsTo.Program
