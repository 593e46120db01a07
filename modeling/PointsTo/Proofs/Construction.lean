import PointsTo.Program.Draft
import PointsTo.Proofs.Interning

/-!
How programs come about. A draft is built by calls whose identifiers come from the draft itself, in
any order and whether they succeed or fail. Each call is a sequence of a few kinds of edits, so that
a property of programs is kept by all calls once it is kept by these edits.
-/
namespace PointsTo

/-- What a statement can do through a variable. -/
inductive Use where
  | load | store | arrayLoad | arrayStore | call
deriving DecidableEq, Repr

namespace Stmt

/-- The field that a statement accesses. -/
def field? : Stmt → Option FieldId
  | load _ _ f | store _ f _ => some f
  | _ => none

/-- The variable that a statement goes through, and what it does there. -/
def use? : Stmt → Option (VarId × Use)
  | load _ (some base) _ => some (base, .load)
  | store (some base) _ _ => some (base, .store)
  | arrayLoad _ array _ => some (array, .arrayLoad)
  | arrayStore array _ _ => some (array, .arrayStore)
  | invoke call => call.receiver.map (·, .call)
  | _ => none

end Stmt

namespace VarDecl

/-- The statements recorded at a variable for each of its uses. -/
def uses (d : VarDecl) : Use → Array StmtId
  | .load => d.loads
  | .store => d.stores
  | .arrayLoad => d.arrayLoads
  | .arrayStore => d.arrayStores
  | .call => d.calls

/-- Records one more statement. -/
def record (d : VarDecl) (s : StmtId) : Use → VarDecl
  | .load => { d with loads := d.loads.push s }
  | .store => { d with stores := d.stores.push s }
  | .arrayLoad => { d with arrayLoads := d.arrayLoads.push s }
  | .arrayStore => { d with arrayStores := d.arrayStores.push s }
  | .call => { d with calls := d.calls.push s }

theorem uses_record (d : VarDecl) (s : StmtId) (u u' : Use) :
    (d.record s u).uses u' = if u = u' then (d.uses u').push s else d.uses u' := by
  cases u <;> cases u' <;> rfl

theorem method_record (d : VarDecl) (s : StmtId) (u : Use) : (d.record s u).method = d.method := by
  cases u <;> rfl

end VarDecl

/-- A method with one more statement. -/
def MethodDecl.append (d : MethodDecl) (s : StmtId) (stmt : Stmt) : MethodDecl :=
  { d with
    stmts := d.stmts.push s
    calls := if stmt.call?.isSome then d.calls.push s else d.calls
    returns := match stmt with
      | .ret (some v) => if d.returns.contains v then d.returns else d.returns.push v
      | _ => d.returns }

/-- The variables that a method is declared with: the receiver and the parameters. -/
def MethodDecl.header (d : MethodDecl) : List VarId := d.this.toList ++ d.params.toList

theorem Hierarchy.nodes_insert {h : Hierarchy} {sub sup : ClassId} {kind : Inheritance} :
    (h.insert sub sup kind).nodes = h.nodes := by
  unfold Hierarchy.insert
  split <;> rfl

theorem Hierarchy.links_insertNode {h : Hierarchy} {c : ClassId} :
    (h.insertNode c).links = h.links := by
  unfold Hierarchy.insertNode
  split <;> rfl

namespace Program

/-- The counters say how many elements there are, and each statement has its place. -/
structure Counted (p : Program) : Prop where
  classes : p.counters.classes.count = p.classes.size
  fields : p.counters.fields.count = p.fields.size
  methods : p.counters.methods.count = p.methods.size
  vars : p.counters.vars.count = p.vars.size
  stmts : p.counters.stmts.count = p.stmts.size
  places : p.places.size = p.stmts.size

namespace Counted

variable {p : Program} (h : p.Counted)
include h

theorem nextClass : p.counters.classes.next = p.classes.nextId := congrArg Id.mk h.classes

theorem nextField : p.counters.fields.next = p.fields.nextId := congrArg Id.mk h.fields

theorem nextMethod : p.counters.methods.next = p.methods.nextId := congrArg Id.mk h.methods

theorem nextVar : p.counters.vars.next = p.vars.nextId := congrArg Id.mk h.vars

theorem nextStmt : p.counters.stmts.next = p.stmts.nextId := congrArg Id.mk h.stmts

theorem nextPlace : p.places.nextId = p.stmts.nextId := congrArg Id.mk h.places

end Counted

/-- A new statement is recorded in the tables, at its method and at the variable that it goes
through. -/
theorem pushStmt_eq (p : Program) (m : MethodId) (stmt : Stmt) :
    p.pushStmt m stmt =
      { p with
        counters.stmts := p.counters.stmts.succ
        stmts := p.stmts.push stmt
        places := p.places.push ⟨m, (p.methodDecl m).stmts.size⟩
        methods := p.methods.modify m (·.append p.counters.stmts.next stmt)
        vars := match stmt.use? with
          | some (v, u) => p.vars.modify v (·.record p.counters.stmts.next u)
          | none => p.vars } := by
  rcases stmt with _ | _ | ⟨_, _ | _, _⟩ | ⟨_ | _, _, _⟩ | _ | _ | ⟨⟨_, _, _ | _, _, _⟩⟩ | ⟨_ | v⟩
  case ret.some =>
    simp only [Program.pushStmt, indexStmt, modifyMethod, Table.modify_modify]
    congr 2
    funext d
    simp only [MethodDecl.append, Array.contains_iff_mem]
    split <;> rfl
  all_goals
    simp [Program.pushStmt, indexStmt, modifyMethod, modifyVar, Table.modify_modify, Stmt.use?,
      MethodDecl.append, VarDecl.record, Stmt.call?]

/-- One change to a program under construction. -/
inductive Edit (p : Program) : Program → Prop
  | pushClass (c : ClassDecl) (hid : c.id = p.classes.nextId) (hnew : p.findClass? c.name = none)
      (hsup : c.superclass = none) (hdecl : c.declared = [] ∧ c.fields = #[])
      (hmethods : c.methods = #[]) : Edit p (p.pushClass c)
  | modifyClass (c : ClassId) (f : ClassDecl → ClassDecl)
      (hdecl : ∀ d, (f d).declared = d.declared ∧ (f d).fields = d.fields)
      (hsup : ∀ d sup, (f d).superclass = some sup →
        d.superclass = some sup ∨ p.classes.Holds sup)
      (hinterfaces : ∀ d i, i ∈ d.interfaces → i ∈ (f d).interfaces)
      (hname : ∀ d, (f d).id = d.id ∧ (f d).name = d.name)
      (hmethods : ∀ d, (f d).methods = d.methods) : Edit p (p.modifyClass c f)
  | link (sub sup : ClassId) (kind : Inheritance)
      (hkind : kind = .implements → sup ∈ (p.classDecl sub).interfaces)
      (hsub : p.classes.Holds sub) (hsup : p.classes.Holds sup) : Edit p (p.link sub sup kind)
  | pushField (f : FieldDecl) (hid : f.id = p.fields.nextId) (hc : p.classes.Holds f.cls) :
      Edit p (p.pushField f)
  | pushMethod (m : MethodDecl) (hid : m.id = p.methods.nextId) (hc : p.classes.Holds m.cls)
      (hthis : m.this = none) (hparams : m.params = #[]) (hstmts : m.stmts = #[])
      (hreturns : m.returns = #[]) (hcalls : m.calls = #[]) (hvars : m.vars = #[])
      (hnew : (p.classDecl m.cls).declaredMethod? m.signature = none) : Edit p (p.pushMethod m)
  | pushThis (m : MethodId) (className : String) (hp : p.Counted) (hm : p.methods.Holds m)
      (hfirst : (p.methodDecl m).vars = #[]) : Edit p (p.pushThis m className)
  | pushParam (m : MethodId) (name : String) (type : Ty) (hp : p.Counted)
      (hm : p.methods.Holds m)
      (hheader : (p.methodDecl m).vars.toList = (p.methodDecl m).header) :
      Edit p (p.pushParam m name type)
  | pushLocal (m : MethodId) (name : String) (type : Ty) (hp : p.Counted)
      (hm : p.methods.Holds m) (hnew : p.findVar? m name = none) : Edit p (p.pushVar m name type)
  | pushStmt (m : MethodId) (stmt : Stmt) (hp : p.Counted) (hm : p.methods.Holds m)
      (hcheck : p.checkStmt m stmt = .ok ()) (hfield : ∀ f ∈ stmt.field?, p.fields.Holds f)
      (hnew : ∀ x name, stmt = .new x (.ref name) → (p.findClass? name).isSome) :
      Edit p (p.pushStmt m stmt)
  | startAt (m : MethodId) (hm : p.methods.Holds m) : Edit p { p with entry := some m }

/-- Any number of changes. -/
inductive Edits (p : Program) : Program → Prop
  | refl : Edits p p
  | tail {q r : Program} (h : Edits p q) (he : Edit q r) : Edits p r

variable {p q r : Program}

theorem Edit.edits (h : Edit p q) : Edits p q := .tail .refl h

theorem Edits.trans (h₁ : Edits p q) (h₂ : Edits q r) : Edits p r := by
  induction h₂ with
  | refl => exact h₁
  | tail _ he ih => exact .tail ih he

/-- What every edit keeps holds after any number of them. -/
theorem Edits.invariant {I : Program → Prop} (hstep : ∀ q r, Edit q r → I q → I r)
    (h : Edits p q) (hp : I p) : I q := by
  induction h with
  | refl => exact hp
  | tail _ he ih => exact hstep _ _ he ih

/-- The identifiers of `p` are in use in `q`. -/
structure Within (p q : Program) : Prop where
  classes : p.classes.size ≤ q.classes.size
  fields : p.fields.size ≤ q.fields.size
  methods : p.methods.size ≤ q.methods.size

theorem Within.refl (p : Program) : Within p p := ⟨Nat.le_refl _, Nat.le_refl _, Nat.le_refl _⟩

theorem Within.trans (h₁ : Within p q) (h₂ : Within q r) : Within p r :=
  ⟨Nat.le_trans h₁.classes h₂.classes, Nat.le_trans h₁.fields h₂.fields,
    Nat.le_trans h₁.methods h₂.methods⟩

theorem Edit.within (h : Edit p q) : Within p q := by
  cases h with
  | pushStmt m stmt => rw [pushStmt_eq]; constructor <;> simp [Table.size_modify]
  | _ =>
    constructor <;>
      simp [Program.pushClass, Program.modifyClass, Program.link, Program.pushField,
        Program.pushMethod, Program.pushThis, Program.pushParam, Program.pushVar,
        Program.modifyMethod, Table.size_modify, Table.size_push]

theorem Edits.within (h : Edits p q) : Within p q := by
  induction h with
  | refl => exact .refl _
  | tail _ he ih => exact ih.trans he.within

theorem Counted.pushClass (h : p.Counted) (c : ClassDecl) : (p.pushClass c).Counted :=
  { h with classes := by simp [Program.pushClass, Counter.succ, Table.size_push, h.classes] }

theorem Counted.modifyClass (h : p.Counted) (c : ClassId) (f : ClassDecl → ClassDecl) :
    (p.modifyClass c f).Counted :=
  { h with classes := h.classes.trans Table.size_modify.symm }

theorem Counted.pushField (h : p.Counted) (f : FieldDecl) : (p.pushField f).Counted :=
  { h with
    classes := h.classes.trans Table.size_modify.symm
    fields := by
      simp [Program.pushField, Program.modifyClass, Counter.succ, Table.size_push, h.fields] }

theorem Counted.pushMethod (h : p.Counted) (m : MethodDecl) : (p.pushMethod m).Counted :=
  { h with
    classes := h.classes.trans Table.size_modify.symm
    methods := by
      simp [Program.pushMethod, Program.modifyClass, Counter.succ, Table.size_push, h.methods] }

theorem Counted.modifyMethod (h : p.Counted) (m : MethodId) (f : MethodDecl → MethodDecl) :
    (p.modifyMethod m f).Counted :=
  { h with methods := h.methods.trans Table.size_modify.symm }

theorem Counted.pushVar (h : p.Counted) (m : MethodId) (name : String) (type : Ty) :
    (p.pushVar m name type).Counted :=
  { h with
    methods := h.methods.trans Table.size_modify.symm
    vars := by
      simp [Program.pushVar, Program.modifyMethod, Counter.succ, Table.size_push, h.vars] }

theorem Counted.pushThis (h : p.Counted) (m : MethodId) (className : String) :
    (p.pushThis m className).Counted :=
  (h.pushVar m _ _).modifyMethod m _

theorem Counted.pushParam (h : p.Counted) (m : MethodId) (name : String) (type : Ty) :
    (p.pushParam m name type).Counted :=
  (h.pushVar m name type).modifyMethod m _

theorem Counted.pushStmt (h : p.Counted) (m : MethodId) (stmt : Stmt) :
    (p.pushStmt m stmt).Counted := by
  rw [pushStmt_eq]
  exact { h with
    methods := h.methods.trans Table.size_modify.symm
    vars := by dsimp only; split <;> simp [Table.size_modify, h.vars]
    stmts := by simp [Counter.succ, Table.size_push, h.stmts]
    places := by simp [Table.size_push, h.places] }

/-- An element that is added is counted. -/
theorem Edit.counted (h : Edit p q) (hp : p.Counted) : q.Counted := by
  cases h with
  | pushClass c => exact hp.pushClass c
  | modifyClass c f => exact hp.modifyClass c f
  | pushField f => exact hp.pushField f
  | pushMethod m => exact hp.pushMethod m
  | pushThis m className => exact hp.pushThis m className
  | pushParam m name type => exact hp.pushParam m name type
  | pushLocal m name type => exact hp.pushVar m name type
  | pushStmt m stmt => exact hp.pushStmt m stmt
  | link | startAt => exact { hp with }

/-- The class names stand for classes of the program. -/
def NamesHold (p : Program) : Prop := ∀ name c, p.findClass? name = some c → p.classes.Holds c

theorem findClass?_pushClass (p : Program) (c : ClassDecl) (name : String) :
    (p.pushClass c).findClass? name = if c.name = name then some c.id else p.findClass? name := by
  simp [findClass?, Program.pushClass, Std.TreeMap.getElem?_insert]

theorem NamesHold.pushClass (h : p.NamesHold) {c : ClassDecl} (hid : c.id = p.classes.nextId) :
    (p.pushClass c).NamesHold := by
  intro name i hi
  change (p.classes.push c).Holds i
  rw [findClass?_pushClass] at hi
  split at hi
  · rw [← Option.some.inj hi, hid]
    exact Table.holds_of_get? Table.get?_push_self
  · exact Table.extends_push.holds (h name i hi)

theorem Edit.namesHold (h : Edit p q) (hp : p.NamesHold) : q.NamesHold := by
  have hle := h.within.classes
  have hsame (hids : q.classIds = p.classIds) : q.NamesHold := by
    intro name c hc
    rw [findClass?, hids] at hc
    exact Nat.lt_of_lt_of_le (hp name c hc) hle
  cases h with
  | pushClass c hid => exact hp.pushClass hid
  | pushStmt m stmt => exact hsame (by rw [pushStmt_eq])
  | _ => exact hsame rfl

/-- A known name stays known. -/
theorem Edit.findClass?_isSome (h : Edit p q) {name : String} (hp : (p.findClass? name).isSome) :
    (q.findClass? name).isSome := by
  cases h with
  | pushClass c =>
    rw [findClass?_pushClass]
    split
    · rfl
    · exact hp
  | pushStmt m stmt => rw [pushStmt_eq]; exact hp
  | _ => exact hp

theorem Edits.findClass?_isSome (h : Edits p q) {name : String} (hp : (p.findClass? name).isSome) :
    (q.findClass? name).isSome :=
  h.invariant (I := fun q => (q.findClass? name).isSome) (fun _ _ he => he.findClass?_isSome) hp

/-- The identifiers that the classes carry are in use. -/
def IdsHold (p : Program) : Prop := ∀ c ∈ p.classes.toList, p.classes.Holds c.id

theorem holds_id_of_modify {t : Table .cls ClassDecl} (h : ∀ c ∈ t.toList, t.Holds c.id)
    {i : ClassId} {f : ClassDecl → ClassDecl} (hf : ∀ d, (f d).id = d.id) :
    ∀ c ∈ (t.modify i f).toList, (t.modify i f).Holds c.id := by
  intro c hc
  rw [Table.holds_modify]
  obtain ⟨j, hj⟩ := Table.mem_toList.mp hc
  rw [Table.get?_modify] at hj
  split at hj
  · obtain ⟨d, hd, rfl⟩ := Option.map_eq_some_iff.mp hj
    rw [hf]
    exact h d (Table.mem_toList.mpr ⟨j, hd⟩)
  · exact h c (Table.mem_toList.mpr ⟨j, hj⟩)

theorem Edit.idsHold (h : Edit p q) (hp : p.IdsHold) : q.IdsHold := by
  cases h with
  | pushClass c hid =>
    intro d hd
    obtain ⟨j, hj⟩ := Table.mem_toList.mp hd
    change (p.classes.push c).get? j = some d at hj
    change (p.classes.push c).Holds d.id
    rw [Table.holds_push]
    rw [Table.get?_push] at hj
    split at hj
    · rw [← Option.some.inj hj, hid]
      exact .inr rfl
    · exact .inl (hp d (Table.mem_toList.mpr ⟨j, hj⟩))
  | modifyClass c f hdecl hsup hinterfaces hname =>
    exact holds_id_of_modify hp fun d => (hname d).1
  | pushField | pushMethod => exact holds_id_of_modify hp fun _ => rfl
  | pushStmt m stmt =>
    rw [pushStmt_eq]
    exact hp
  | link | pushThis | pushParam | pushLocal | startAt => exact hp

/-- The hierarchy has one node for each class. -/
def NodesMatch (p : Program) : Prop := p.hierarchy.nodes.toList = p.classes.ids

theorem NodesMatch.mem_nodes (h : p.NodesMatch) {c : ClassId} :
    c ∈ p.hierarchy.nodes ↔ p.classes.Holds c := by
  rw [← Array.mem_toList_iff, h, Table.mem_ids]

/-- A class that is new to the program is new to the hierarchy. -/
theorem NodesMatch.pushClass (h : p.NodesMatch) {c : ClassDecl} (hid : c.id = p.classes.nextId) :
    (p.pushClass c).NodesMatch := by
  have hfresh : c.id ∉ p.hierarchy.nodes := by
    rw [h.mem_nodes, hid]
    exact Table.not_holds_nextId
  have hnodes : (p.hierarchy.insertNode c.id).nodes = p.hierarchy.nodes.push c.id := by
    unfold Hierarchy.insertNode
    rw [if_neg (by simpa using hfresh)]
  unfold NodesMatch at h ⊢
  change (p.hierarchy.insertNode c.id).nodes.toList = (p.classes.push c).ids
  rw [hnodes, Array.toList_push, Table.ids_push, h, hid]

theorem Edit.nodesMatch (h : Edit p q) (hp : p.NodesMatch) : q.NodesMatch := by
  have hsame (hids : q.classes.size = p.classes.size)
      (hnodes : q.hierarchy.nodes = p.hierarchy.nodes) : q.NodesMatch := by
    unfold NodesMatch at hp ⊢
    rw [hnodes, hp, Table.ids, Table.ids, hids]
  cases h with
  | pushClass c hid => exact hp.pushClass hid
  | modifyClass => exact hsame Table.size_modify rfl
  | link => exact hsame rfl Hierarchy.nodes_insert
  | pushField => exact hsame Table.size_modify rfl
  | pushMethod => exact hsame Table.size_modify rfl
  | pushStmt m stmt => exact hsame (by rw [pushStmt_eq]) (by rw [pushStmt_eq])
  | pushThis | pushParam | pushLocal | startAt => exact hsame rfl rfl

/-- What calls rely on: the next identifiers are new, names and identifiers stand for classes, and
these are in the hierarchy. -/
structure Ready (p : Program) : Prop where
  counted : p.Counted
  names : p.NamesHold
  ids : p.IdsHold
  nodes : p.NodesMatch

theorem Edits.ready (h : Edits p q) (hp : p.Ready) : q.Ready :=
  h.invariant (fun _ _ he hq => ⟨he.counted hq.counted, he.namesHold hq.names, he.idsHold hq.ids,
    he.nodesMatch hq.nodes⟩) hp

theorem counted_empty : Counted {} := ⟨rfl, rfl, rfl, rfl, rfl, rfl⟩

theorem ready_empty : Ready {} where
  counted := counted_empty
  names name c hc := by simp [findClass?] at hc
  ids c hc := by cases hc
  nodes := rfl

theorem Edits.holds_class (h : Edits p q) {c : ClassId} (hc : p.classes.Holds c) :
    q.classes.Holds c :=
  Nat.lt_of_lt_of_le hc h.within.classes

theorem Edits.holds_method (h : Edits p q) {m : MethodId} (hm : p.methods.Holds m) :
    q.methods.Holds m :=
  Nat.lt_of_lt_of_le hm h.within.methods

/-- The receiver is a variable of the method. -/
theorem pushThis_eq (p : Program) (m : MethodId) (className : String) :
    p.pushThis m className =
      { p with
        counters.vars := p.counters.vars.succ
        vars := p.vars.push
          { id := p.counters.vars.next, method := m, name := "this", type := .ref className }
        methods := p.methods.modify m fun d =>
          { d with
            vars := d.vars.push p.counters.vars.next
            this := some p.counters.vars.next } } := by
  simp only [Program.pushThis, Program.pushVar, modifyMethod, Table.modify_modify]

/-- A parameter is a variable of the method. -/
theorem pushParam_eq (p : Program) (m : MethodId) (name : String) (type : Ty) :
    p.pushParam m name type =
      { p with
        counters.vars := p.counters.vars.succ
        vars := p.vars.push { id := p.counters.vars.next, method := m, name, type }
        methods := p.methods.modify m fun d =>
          { d with
            vars := d.vars.push p.counters.vars.next
            params := d.params.push p.counters.vars.next } } := by
  simp only [Program.pushParam, Program.pushVar, modifyMethod, Table.modify_modify]

/-- Parameters are added one after the other to a method that has no local variable yet. -/
theorem edits_pushParams (hp : p.Counted) {m : MethodId} (hm : p.methods.Holds m)
    (hheader : (p.methodDecl m).vars.toList = (p.methodDecl m).header)
    (params : List (String × Ty)) :
    Edits p (params.foldl (fun p (name, type) => p.pushParam m name type) p) := by
  induction params generalizing p with
  | nil => exact .refl
  | cons param params ih =>
    have he : Edit p (p.pushParam m param.1 param.2) := .pushParam m _ _ hp hm hheader
    refine he.edits.trans (ih (he.counted hp) (he.edits.holds_method hm) ?_)
    rw [pushParam_eq, methodDecl, Table.get_modify hm, if_pos rfl]
    change ((p.methodDecl m).vars.push _).toList = _ ++ ((p.methodDecl m).params.push _).toList
    rw [Array.toList_push, hheader, MethodDecl.header, Array.toList_push, List.append_assoc]
    rfl

end Program

namespace Draft

open Program (Edit Edits)

variable {α β : Type} {d d' : Draft}

/-- The result of a step and the draft that it leaves. -/
def exec (x : Build α) (d : Draft) : Except ProgramError α × Draft := x.run.run d

@[simp] theorem exec_pure (a : α) : exec (pure a) d = (.ok a, d) := rfl

@[simp] theorem exec_getProgram : exec getProgram d = (.ok d.program, d) := rfl

@[simp] theorem exec_report (e : Event) :
    exec (report e) d = (.ok (), { d with events := d.events.push e }) := rfl

@[simp] theorem exec_edit (f : Program → Program) :
    exec (edit f) d = (.ok (), { d with program := f d.program }) := rfl

theorem exec_bind (x : Build α) (f : α → Build β) :
    exec (x >>= f) d = match exec x d with
      | (.ok a, d') => exec (f a) d'
      | (.error e, d') => (.error e, d') := by
  change ((ExceptT.bindCont f (x.run.run d).1).run (x.run.run d).2) = _
  rcases h : exec x d with ⟨_ | a, d'⟩ <;>
  · change x.run.run d = _ at h
    rw [h]
    rfl

theorem exec_map (f : α → β) (x : Build α) :
    exec (f <$> x) d = match exec x d with
      | (.ok a, d') => (.ok (f a), d')
      | (.error e, d') => (.error e, d') := by
  rw [← bind_pure_comp, exec_bind]
  rfl

/-- Adding a class fails if the hierarchy has it already, but not before the class is added. -/
theorem exec_addClass_snd (c : ClassDecl) :
    (exec (addClass c) d).2 = { d with program := d.program.pushClass c } := by
  rw [addClass, exec_bind, exec_getProgram]
  simp only [exec_bind, exec_edit]
  split <;> rfl

theorem exec_addClass {c : ClassDecl} (hc : c.id ∉ d.program.hierarchy.nodes) :
    exec (addClass c) d = (.ok c.id, { d with program := d.program.pushClass c }) := by
  rw [addClass, exec_bind, exec_getProgram]
  simp only [exec_bind, exec_edit]
  rw [if_neg (by simpa using hc)]
  rfl

theorem exec_addLink {sub sup : ClassId} (hsub : sub ∈ d.program.hierarchy.nodes)
    (hsup : sup ∈ d.program.hierarchy.nodes) (kind : Inheritance) :
    exec (addLink sub sup kind) d =
      (.ok (), { d with program := d.program.link sub sup kind }) := by
  have hfind : [sub, sup].find? (!d.program.hierarchy.nodes.contains ·) = none := by
    simp [hsub, hsup]
  rw [addLink, exec_bind, exec_getProgram]
  simp only [hfind, exec_edit]

theorem exec_mentionClass (hd : d.program.Ready) (name : String) :
    exec (mentionClass name) d = match d.program.findClass? name with
      | some c => (.ok c, d)
      | none => (.ok d.program.classes.nextId,
        { program := d.program.pushClass
            { id := d.program.classes.nextId, name, defined := false }
          events := d.events.push (.registering name) }) := by
  rw [mentionClass, exec_bind]
  simp only [exec_getProgram]
  cases d.program.findClass? name with
  | some c => rfl
  | none =>
    have hfresh : d.program.classes.nextId ∉ d.program.hierarchy.nodes := by
      rw [hd.nodes.mem_nodes]
      exact Table.not_holds_nextId
    rw [exec_bind, exec_report, hd.counted.nextClass]
    exact exec_addClass (d := { d with events := d.events.push (.registering name) }) hfresh

/-- A class that is mentioned is known afterwards, and nothing but a class can have been added. -/
theorem mentionClass_cases (hd : d.program.Ready) (name : String) :
    ∃ c d', exec (mentionClass name) d = (.ok c, d') ∧ d'.program.findClass? name = some c ∧
      (d'.program = d.program ∨ ∃ decl, d'.program = d.program.pushClass decl) ∧
      Edits d.program d'.program ∧ d'.program.Ready := by
  cases hf : d.program.findClass? name with
  | some c => exact ⟨c, d, by rw [exec_mentionClass hd, hf], hf, .inl rfl, .refl, hd⟩
  | none =>
    let decl : ClassDecl := { id := d.program.classes.nextId, name, defined := false }
    have he : Edits d.program (d.program.pushClass decl) :=
      (Edit.pushClass decl rfl hf rfl ⟨rfl, rfl⟩ rfl).edits
    refine ⟨d.program.classes.nextId, ⟨d.program.pushClass decl, _⟩,
      by rw [exec_mentionClass hd, hf], ?_, .inr ⟨decl, rfl⟩, he, he.ready hd⟩
    rw [Program.findClass?_pushClass, if_pos rfl]

/-- A call that can change a draft. -/
inductive Action where
  | defineClass (name : String) (flags : ClassFlags)
  | extendClass (c : ClassId) (superclass : String)
  | implement (c : ClassId) (interface : String)
  | declareField (c : ClassId) (name : String) (type : Ty) (flags : FieldFlags)
  | declareMethod (c : ClassId) (signature : Signature) (flags : MethodFlags) (names : List String)
  | declareLocal (m : MethodId) (name : String) (type : Ty)
  | referTo (className : String) (signature : Signature)
  | startAt (m : MethodId)
  | appendStmt (m : MethodId) (stmt : Stmt)

namespace Action

def run : Action → Build Unit
  | defineClass name flags => discard (Draft.defineClass name flags)
  | extendClass c superclass => discard (Draft.extendClass c superclass)
  | implement c interface => discard (Draft.implement c interface)
  | declareField c name type flags => discard (Draft.declareField c name type flags)
  | declareMethod c signature flags names => discard (Draft.declareMethod c signature flags names)
  | declareLocal m name type => discard (Draft.declareLocal m name type)
  | referTo className signature => discard (Draft.referTo className signature)
  | startAt m => Draft.startAt m
  | appendStmt m stmt => discard (Draft.appendStmt m stmt)

/-- The classes, fields and methods that a call names are those of the draft. Variables need not
be: a statement with a strange one is refused. -/
def Known (p : Program) : Action → Prop
  | defineClass .. | referTo .. => True
  | extendClass c _ | implement c _ | declareField c .. | declareMethod c .. => p.classes.Holds c
  | declareLocal m .. | startAt m => p.methods.Holds m
  | appendStmt m stmt => p.methods.Holds m ∧ (∀ f ∈ stmt.field?, p.fields.Holds f) ∧
      ∀ call ∈ stmt.call?, p.classes.Holds call.target.cls

instance (p : Program) : (a : Action) → Decidable (a.Known p)
  | defineClass .. | referTo .. => inferInstanceAs (Decidable True)
  | extendClass c _ | implement c _ | declareField c .. | declareMethod c .. =>
    inferInstanceAs (Decidable (p.classes.Holds c))
  | declareLocal m .. | startAt m => inferInstanceAs (Decidable (p.methods.Holds m))
  | appendStmt m stmt => inferInstanceAs (Decidable (p.methods.Holds m ∧
      (∀ f ∈ stmt.field?, p.fields.Holds f) ∧ ∀ call ∈ stmt.call?, p.classes.Holds call.target.cls))

end Action

/-- A draft that calls lead to, successful or not. -/
inductive Built : Draft → Prop
  | empty : Built {}
  | act {d : Draft} (h : Built d) (a : Action) (ha : a.Known d.program) : Built (exec a.run d).2

/-- Calls one after the other. A call with strange identifiers is left out. -/
def runAll (d : Draft) : List Action → Draft
  | [] => d
  | a :: as => if a.Known d.program then runAll (exec a.run d).2 as else runAll d as

theorem Built.runAll (h : Built d) (as : List Action) : Built (d.runAll as) := by
  induction as generalizing d with
  | nil => exact h
  | cons a as ih =>
    rw [Draft.runAll]
    split
    · next ha => exact ih (h.act a ha)
    · exact ih h

/-- A class that is referred to before it is defined, a method with a body, and some calls that
fail. -/
def cellCalls : List Action :=
  let cell : Ty := .ref "Cell"
  [.defineClass "Cell" .none,
    .extendClass ⟨0⟩ "Base",
    .defineClass "Base" .none,
    .defineClass "Cell" .none, -- twice
    .declareField ⟨1⟩ "next" cell .none,
    .declareMethod ⟨0⟩ ⟨"swap", [cell], cell⟩ .none ["x"],
    .declareMethod ⟨0⟩ ⟨"swap", [cell], cell⟩ .none [], -- twice
    .declareLocal ⟨0⟩ "x" cell, -- twice
    .declareLocal ⟨0⟩ "y" cell,
    .appendStmt ⟨0⟩ (.load ⟨2⟩ (some ⟨0⟩) ⟨0⟩),
    .appendStmt ⟨0⟩ (.copy ⟨7⟩ ⟨1⟩), -- no such variable
    .appendStmt ⟨0⟩ (.store (some ⟨0⟩) ⟨0⟩ ⟨1⟩),
    .appendStmt ⟨0⟩ (.load ⟨1⟩ (some ⟨0⟩) ⟨0⟩),
    .appendStmt ⟨0⟩ (.ret (some ⟨2⟩)),
    .appendStmt ⟨0⟩ (.ret (some ⟨2⟩))]

theorem exec_discard (x : Build α) :
    exec (discard x) d = match exec x d with
      | (.ok _, d') => (.ok (), d')
      | (.error e, d') => (.error e, d') :=
  exec_map (fun _ => ()) x

theorem exec_discard_snd (x : Build α) : (exec (discard x) d).2 = (exec x d).2 := by
  rw [exec_discard]
  rcases exec x d with ⟨_ | _, _⟩ <;> rfl

/-- A step that changes a program by edits if it succeeds, and not at all if it fails. -/
structure Careful (x : Build α) (d : Draft) : Prop where
  edits : Edits d.program (exec x d).2.program
  unchanged {e} (h : (exec x d).1 = .error e) : (exec x d).2.program = d.program

theorem Careful.of_ok {x : Build α} {a : α} {b : Draft} (h : exec x d = (.ok a, b))
    (he : Edits d.program b.program) : Careful x d where
  edits := by rwa [h]
  unchanged hx := by rw [h] at hx; cases hx

theorem Careful.of_error {x : Build α} {e : ProgramError} {b : Draft}
    (h : exec x d = (.error e, b)) (hd : b.program = d.program) : Careful x d where
  edits := by rw [h, hd]; exact .refl
  unchanged _ := by rw [h, hd]

theorem Careful.discard {x : Build α} (h : Careful x d) : Careful (discard x) d := by
  rcases hx : exec x d with ⟨e | a, d'⟩
  · have hd : d'.program = d.program := by simpa [hx] using h.unchanged (congrArg Prod.fst hx)
    exact .of_error (by rw [exec_discard, hx]) hd
  · have he : Edits d.program d'.program := by simpa [hx] using h.edits
    exact .of_ok (by rw [exec_discard, hx]) he

/-- A class that is defined is added, or it is known and defined now. -/
theorem defineClass_cases (hd : d.program.Ready) (name : String) (flags : ClassFlags) :
    (∃ e d', exec (defineClass name flags) d = (.error e, d') ∧ d'.program = d.program) ∨
      ∃ c d', exec (defineClass name flags) d = (.ok c, d') ∧ Edits d.program d'.program ∧
        d'.program.classes.Holds c := by
  let d₁ : Draft := { d with events := d.events.push (.defining name) }
  cases hf : d.program.findClass? name with
  | none =>
    let decl : ClassDecl := { id := d.program.classes.nextId, name, flags }
    have hfresh : decl.id ∉ d₁.program.hierarchy.nodes := by
      rw [hd.nodes.mem_nodes]
      exact Table.not_holds_nextId
    have hexec : exec (defineClass name flags) d = exec (addClass decl) d₁ := by
      rw [defineClass, exec_bind, exec_report]
      simp only [exec_bind, exec_getProgram, hf, hd.counted.nextClass]
      rfl
    exact .inr ⟨decl.id, _, hexec.trans (exec_addClass hfresh),
      (Edit.pushClass decl rfl hf rfl ⟨rfl, rfl⟩ rfl).edits,
      Table.holds_of_get? Table.get?_push_self⟩
  | some c =>
    let f : ClassDecl → ClassDecl := fun i => { i with flags, defined := true }
    by_cases hdef : (d.program.classDecl c).defined
    · refine .inl ⟨.duplicateClass name, d₁, ?_, rfl⟩
      rw [defineClass, exec_bind, exec_report]
      simp only [exec_bind, exec_getProgram, hf, if_pos hdef]
      rfl
    · refine .inr ⟨c, { d₁ with program := d.program.modifyClass c f }, ?_,
        (Edit.modifyClass c f (fun _ => ⟨rfl, rfl⟩) (fun _ _ h => .inl h) (fun _ _ h => h)
          (fun _ => ⟨rfl, rfl⟩) fun _ => rfl).edits,
        Table.holds_modify.mpr (hd.names name c hf)⟩
      rw [defineClass, exec_bind, exec_report]
      simp only [exec_bind, exec_getProgram, hf, if_neg hdef]
      rfl

theorem careful_defineClass (hd : d.program.Ready) (name : String) (flags : ClassFlags) :
    Careful (defineClass name flags) d := by
  rcases defineClass_cases hd name flags with ⟨e, d', hx, hp⟩ | ⟨c, d', hx, he, -⟩
  · exact .of_error hx hp
  · exact .of_ok hx he

/-- A class that is linked to a supertype is changed first. -/
theorem exec_inherit (hnodes : d.program.NodesMatch) {c sup : ClassId}
    (hc : d.program.classes.Holds c) (hsup : d.program.classes.Holds sup)
    (f : ClassDecl → ClassDecl) (kind : Inheritance) :
    exec (addLink c sup kind) { d with program := d.program.modifyClass c f } =
      (.ok (), { d with program := (d.program.modifyClass c f).link c sup kind }) :=
  exec_addLink (d := { d with program := d.program.modifyClass c f })
    (hnodes.mem_nodes.mpr hc) (hnodes.mem_nodes.mpr hsup) kind

/-- Giving a class its superclass does not fail. -/
theorem extendClass_cases (hd : d.program.Ready) {c : ClassId} (hc : d.program.classes.Holds c)
    (superclass : String) : ∃ sup d', exec (extendClass c superclass) d = (.ok sup, d') ∧
      Edits d.program d'.program := by
  obtain ⟨sup, d₁, hx, hf, -, he, hd₁⟩ := mentionClass_cases hd superclass
  have hc₁ : d₁.program.classes.Holds c := he.holds_class hc
  have hsup : d₁.program.classes.Holds sup := hd₁.names _ _ hf
  let f : ClassDecl → ClassDecl := fun i => { i with superclass := some sup }
  have hexec : exec (extendClass c superclass) d =
      (.ok sup, { d₁ with program := (d₁.program.modifyClass c f).link c sup .extends }) := by
    rw [extendClass, exec_bind, hx]
    simp only [exec_bind, exec_edit]
    rw [exec_inherit hd₁.nodes hc₁ hsup f]
    rfl
  refine ⟨sup, _, hexec, .tail (.tail he (.modifyClass c f (fun _ => ⟨rfl, rfl⟩)
    (fun _ s hs => .inr ?_) (fun _ _ h => h) (fun _ => ⟨rfl, rfl⟩) fun _ => rfl))
    (.link _ _ _ nofun (Table.holds_modify.mpr hc₁) (Table.holds_modify.mpr hsup))⟩
  rw [← Option.some.inj hs]
  exact hsup

/-- Adding an interface to a class does not fail. -/
theorem implement_cases (hd : d.program.Ready) {c : ClassId} (hc : d.program.classes.Holds c)
    (interface : String) : ∃ sup d', exec (implement c interface) d = (.ok sup, d') ∧
      Edits d.program d'.program := by
  obtain ⟨sup, d₁, hx, hf, -, he, hd₁⟩ := mentionClass_cases hd interface
  have hc₁ : d₁.program.classes.Holds c := he.holds_class hc
  have hsup : d₁.program.classes.Holds sup := hd₁.names _ _ hf
  let f : ClassDecl → ClassDecl := fun i =>
    if i.interfaces.contains sup then i else { i with interfaces := i.interfaces.push sup }
  let q := d₁.program.modifyClass c f
  let kind : Inheritance := if (q.classDecl c).isInterface then .extends else .implements
  have hkeep (i : ClassDecl) : (f i).declared = i.declared ∧ (f i).fields = i.fields ∧
      (f i).superclass = i.superclass ∧ (f i).id = i.id ∧ (f i).name = i.name ∧
      (f i).methods = i.methods := by
    unfold f
    split <;> exact ⟨rfl, rfl, rfl, rfl, rfl, rfl⟩
  have hexec : exec (implement c interface) d =
      (.ok sup, { d₁ with program := q.link c sup kind }) := by
    rw [implement, exec_bind, hx]
    simp only [exec_bind, exec_edit, exec_getProgram]
    rw [exec_inherit hd₁.nodes hc₁ hsup f]
    rfl
  refine ⟨sup, _, hexec, .tail (.tail he (.modifyClass c f (fun i => ?_) (fun i s hs => .inl ?_)
    (fun i s hs => ?_) (fun i => ?_) fun i => ?_))
    (.link _ _ _ (fun _ => ?_) (Table.holds_modify.mpr hc₁) (Table.holds_modify.mpr hsup))⟩
  · exact ⟨(hkeep i).1, (hkeep i).2.1⟩
  · rwa [← (hkeep i).2.2.1]
  · unfold f
    split
    · exact hs
    · exact Array.mem_push_of_mem _ hs
  · exact ⟨(hkeep i).2.2.2.1, (hkeep i).2.2.2.2.1⟩
  · exact (hkeep i).2.2.2.2.2
  · rw [Program.classDecl, Program.modifyClass, Table.get_modify hc₁, if_pos rfl]
    unfold f
    split
    · next hmem => exact Array.contains_iff_mem.mp hmem
    · exact Array.mem_push_self

theorem referTo_cases (hd : d.program.Ready) (className : String) (signature : Signature) :
    ∃ r d', exec (referTo className signature) d = (.ok r, d') ∧
      Edits d.program d'.program := by
  obtain ⟨c, d', hx, -, -, he, -⟩ := mentionClass_cases hd className
  refine ⟨⟨c, signature⟩, d', ?_, he⟩
  rw [referTo, exec_bind, hx]
  rfl

theorem careful_declareField (hd : d.program.Ready) {c : ClassId}
    (hc : d.program.classes.Holds c) (name : String) (type : Ty) (flags : FieldFlags) :
    Careful (declareField c name type flags) d := by
  by_cases h : (d.program.declaredField? c name).isSome
  · refine .of_error (e := .duplicateField (d.program.classDecl c).name name) (b := d) ?_ rfl
    rw [declareField, exec_bind, exec_getProgram]
    dsimp only
    rw [if_pos h]
    rfl
  · let f : FieldDecl :=
      { id := d.program.fields.nextId, cls := c, className := (d.program.classDecl c).name
        name, type, flags }
    refine .of_ok (a := f.id) (b := { d with program := d.program.pushField f }) ?_
      (Edit.pushField f rfl hc).edits
    rw [declareField, exec_bind, exec_getProgram]
    dsimp only
    rw [if_neg h, hd.counted.nextField]
    rfl

theorem careful_declareLocal (hd : d.program.Ready) {m : MethodId}
    (hm : d.program.methods.Holds m) (name : String) (type : Ty) :
    Careful (declareLocal m name type) d := by
  cases h : d.program.findVar? m name with
  | some v =>
    refine .of_error (e := .malformed (d.program.methodLabel m) (.variableTwice name)) (b := d) ?_
      rfl
    rw [declareLocal, exec_bind, exec_getProgram]
    simp only [h]
    rfl
  | none =>
    refine .of_ok (a := d.program.counters.vars.next)
      (b := { d with program := d.program.pushVar m name type }) ?_
      (Edit.pushLocal m name type hd.counted hm h).edits
    rw [declareLocal, exec_bind, exec_getProgram]
    simp only [h]
    rfl

/-- A method that is declared is added first, and then its variables. -/
theorem declareMethod_cases (hd : d.program.Ready) (c : ClassId) (signature : Signature)
    (flags : MethodFlags) (names : List String) (hc : d.program.classes.Holds c) :
    (∃ e, exec (declareMethod c signature flags names) d = (.error e, d)) ∨
      ∃ decl d', exec (declareMethod c signature flags names) d =
          (.ok d.program.methods.nextId, d') ∧ Edit d.program (d.program.pushMethod decl) ∧
        Edits (d.program.pushMethod decl) d'.program := by
  rw [declareMethod, exec_bind]
  simp only [exec_getProgram]
  split
  · exact .inl ⟨_, rfl⟩
  next hnew =>
  split
  · exact .inl ⟨_, rfl⟩
  simp only [exec_bind, exec_edit, hd.counted.nextMethod]
  let flags' := flags ||| Flags.onlyIf signature.isConstructor MethodFlags.isConstructor
  let decl : MethodDecl :=
    { id := d.program.methods.nextId, cls := c, className := (d.program.classDecl c).name,
      signature, flags := flags' }
  have hm : (d.program.pushMethod decl).methods.Holds decl.id :=
    Table.holds_of_get? Table.get?_push_self
  have hdecl : (d.program.pushMethod decl).methods.get decl.id = decl := by
    change (d.program.methods.push decl).get decl.id = decl
    rw [Table.get_push, if_pos rfl]
  have hpush : Edit d.program (d.program.pushMethod decl) :=
    .pushMethod decl rfl hc rfl rfl rfl rfl rfl rfl (Option.not_isSome_iff_eq_none.mp hnew)
  have hcounted : (d.program.pushMethod decl).Counted := hpush.counted hd.counted
  refine .inr ⟨decl, _, rfl, hpush, ?_⟩
  dsimp only
  split
  · exact Program.edits_pushParams hcounted hm (by rw [Program.methodDecl, hdecl]; rfl) _
  · have hthis : Edit (d.program.pushMethod decl)
        ((d.program.pushMethod decl).pushThis decl.id decl.className) :=
      .pushThis decl.id decl.className hcounted hm (by rw [Program.methodDecl, hdecl])
    refine hthis.edits.trans (Program.edits_pushParams (hthis.counted hcounted)
      (hthis.edits.holds_method hm) ?_ _)
    rw [Program.pushThis_eq, Program.methodDecl, Table.get_modify hm, if_pos rfl, hdecl]
    rfl

theorem careful_declareMethod (hd : d.program.Ready) {c : ClassId}
    (hc : d.program.classes.Holds c) (signature : Signature) (flags : MethodFlags)
    (names : List String) : Careful (declareMethod c signature flags names) d := by
  rcases declareMethod_cases hd c signature flags names hc with ⟨e, hx⟩ | ⟨decl, d', hx, he, hes⟩
  · exact .of_error hx rfl
  · exact .of_ok hx (he.edits.trans hes)

theorem careful_appendStmt (hd : d.program.Ready) {m : MethodId} {stmt : Stmt}
    (hm : d.program.methods.Holds m) (hfield : ∀ f ∈ stmt.field?, d.program.fields.Holds f) :
    Careful (appendStmt m stmt) d := by
  cases hcheck : d.program.checkStmt m stmt with
  | error e =>
    refine .of_error (e := e) (b := d) ?_ rfl
    rw [appendStmt, exec_bind, exec_getProgram]
    simp only [hcheck]
    rfl
  | ok u =>
    by_cases hnew : ∃ x name, stmt = .new x (.ref name)
    · obtain ⟨x, name, rfl⟩ := hnew
      obtain ⟨c, d', hx, hf, hp, he, hd'⟩ := mentionClass_cases hd name
      have hknown : Edit d'.program (d'.program.pushStmt m (.new x (.ref name))) := by
        refine .pushStmt m _ hd'.counted (he.holds_method hm) ?_ (by simp [Stmt.field?]) ?_
        · rcases hp with hp | ⟨decl, hp⟩ <;> rw [hp] <;> exact hcheck
        · rintro _ _ ⟨⟩
          rw [hf]
          rfl
      refine .of_ok (a := d'.program.counters.stmts.next)
        (b := { d' with program := d'.program.pushStmt m (.new x (.ref name)) }) ?_
        (.tail he hknown)
      rw [appendStmt, exec_bind, exec_getProgram]
      simp only [hcheck, exec_bind, hx]
      rfl
    · have hnot (x : VarId) (name : String) : stmt ≠ .new x (.ref name) :=
        fun h => hnew ⟨x, name, h⟩
      refine .of_ok (a := d.program.counters.stmts.next)
        (b := { d with program := d.program.pushStmt m stmt }) ?_
        (Edit.pushStmt m stmt hd.counted hm hcheck hfield
          fun x name h => (hnot x name h).elim).edits
      rw [appendStmt, exec_bind, exec_getProgram]
      simp only [hcheck]
      rfl

/-- What a call does to a draft is a sequence of edits, and a call that fails does nothing. -/
theorem Action.careful (hd : d.program.Ready) (a : Action) (ha : a.Known d.program) :
    Careful a.run d := by
  cases a with
  | defineClass name flags => exact (careful_defineClass hd name flags).discard
  | extendClass c superclass =>
    obtain ⟨sup, d', hx, he⟩ := extendClass_cases hd ha superclass
    exact (Careful.of_ok hx he).discard
  | implement c interface =>
    obtain ⟨sup, d', hx, he⟩ := implement_cases hd ha interface
    exact (Careful.of_ok hx he).discard
  | declareField c name type flags => exact (careful_declareField hd ha name type flags).discard
  | declareMethod c signature flags names =>
    exact (careful_declareMethod hd ha signature flags names).discard
  | declareLocal m name type => exact (careful_declareLocal hd ha name type).discard
  | referTo className signature =>
    obtain ⟨r, d', hx, he⟩ := referTo_cases hd className signature
    exact (Careful.of_ok hx he).discard
  | startAt m => exact .of_ok (b := ⟨_, _⟩) rfl (Edit.startAt m ha).edits
  | appendStmt m stmt => exact (careful_appendStmt hd ha.1 ha.2.1).discard

theorem Built.edits (h : Built d) : Edits {} d.program := by
  induction h with
  | empty => exact .refl
  | act _ a ha ih => exact ih.trans (a.careful (ih.ready Program.ready_empty) ha).edits

theorem Built.ready (h : Built d) : d.program.Ready := h.edits.ready Program.ready_empty

/-- Whatever calls have been made, a call that fails changes nothing in the program, its counters
included; and a superclass, an interface or a reference to a method is never refused. -/
theorem failed_call_keeps_program (h : Built d) :
    (∀ a : Action, a.Known d.program → ∀ e d', exec a.run d = (.error e, d') →
      d'.program = d.program) ∧
    (∀ c, d.program.classes.Holds c → ∀ name,
      (∃ sup d', exec (extendClass c name) d = (.ok sup, d')) ∧
        ∃ sup d', exec (implement c name) d = (.ok sup, d')) ∧
    ∀ className signature, ∃ r d', exec (referTo className signature) d = (.ok r, d') := by
  refine ⟨?_, ?_, ?_⟩
  · intro a ha e d' hx
    have hkeep := (a.careful h.ready ha).unchanged (congrArg Prod.fst hx)
    rw [hx] at hkeep
    exact hkeep
  · intro c hc name
    obtain ⟨sup, d₁, hextend, -⟩ := extendClass_cases h.ready hc name
    obtain ⟨sup', d₂, himplement, -⟩ := implement_cases h.ready hc name
    exact ⟨⟨sup, d₁, hextend⟩, sup', d₂, himplement⟩
  · intro className signature
    obtain ⟨r, d', hx, -⟩ := referTo_cases h.ready className signature
    exact ⟨r, d', hx⟩

/-- An allocation into a strange variable does not make its class known. -/
theorem failed_call_keeps_program_cells :
    let d : Draft := runAll {} cellCalls
    let a : Action := .appendStmt ⟨0⟩ (.new ⟨7⟩ (.ref "Fresh"))
    Built d ∧ a.Known d.program ∧ (exec a.run d).1.isOk = false ∧
      (exec a.run d).2.program = d.program ∧ d.program.findClass? "Fresh" = none ∧
      (exec a.run d).2.program.counters =
        { classes := ⟨2⟩, fields := ⟨1⟩, methods := ⟨1⟩, vars := ⟨3⟩, stmts := ⟨5⟩ } ∧
      ∃ sup d', exec (extendClass ⟨1⟩ "Fresh") d = (.ok sup, d') := by
  intro d a
  have hbuilt : Built d := Built.empty.runAll cellCalls
  have hknown : a.Known d.program := by decide +kernel
  have hfalse : (exec a.run d).1.isOk = false := by decide +kernel
  obtain ⟨hfail, hlink, -⟩ := failed_call_keeps_program hbuilt
  have hkeep : (exec a.run d).2.program = d.program := by
    cases hx : (exec a.run d).1 with
    | ok u =>
      rw [hx] at hfalse
      cases hfalse
    | error e => exact hfail a hknown e _ (Prod.ext hx rfl)
  exact ⟨hbuilt, hknown, hfalse, hkeep, by decide +kernel, by rw [hkeep]; decide +kernel,
    (hlink ⟨1⟩ (by decide +kernel) "Fresh").1⟩

theorem edits_forM {f : α → Build PUnit} (l : List α)
    (hf : ∀ a ∈ l, ∀ d', Edits d.program d'.program → d'.program.Ready →
      Edits d'.program (exec (f a) d').2.program)
    (hd : d.program.Ready) : Edits d.program (exec (l.forM f) d).2.program := by
  induction l generalizing d with
  | nil => exact .refl
  | cons a l ih =>
    have ha := hf a (List.mem_cons_self ..) d .refl hd
    rw [List.forM, exec_bind]
    rcases hx : exec (f a) d with ⟨_ | _, d'⟩ <;> rw [hx] at ha
    · exact ha
    · refine ha.trans (ih (fun b hb d'' he hd'' => ?_) (ha.ready hd))
      exact hf b (List.mem_cons_of_mem _ hb) d'' (ha.trans he) hd''

/-- Completing a draft is a sequence of edits as well, and the root class is known afterwards. -/
theorem complete_edits (hd : d.program.Ready) {p : Program}
    (h : exec complete d = (.ok p, d')) :
    Edits d.program p ∧ (p.findClass? rootClassName).isSome := by
  obtain ⟨root, d₁, hx, hf, -, he, hd₁⟩ := mentionClass_cases hd rootClassName
  rw [complete, exec_bind, hx] at h
  simp only [exec_bind, exec_getProgram] at h
  have hlink (c : ClassDecl) (d : Draft) (hd : d.program.Ready)
      (hc : d.program.classes.Holds c.id) : Edits d.program
      (exec (do report (.rooting c.name); let _ ← extendClass c.id rootClassName) d).2.program := by
    obtain ⟨sup, d₂, hx, he⟩ := extendClass_cases
      (d := { d with events := d.events.push (.rooting c.name) }) hd hc rootClassName
    rw [exec_bind, exec_report]
    simp only [bind_pure_comp, exec_map, hx]
    exact he
  split at h
  · next d₂ hx₂ =>
    have hall : Edits d₁.program d₂.program := by
      have hd₂ := congrArg Prod.snd hx₂
      dsimp only at hd₂
      rw [← hd₂]
      refine edits_forM _ (fun c hc d' he' hn' => hlink c d' hn' ?_) hd₁
      exact he'.holds_class (hd₁.ids c (List.mem_filter.mp hc).1)
    split at h
    · cases h
      refine ⟨he.trans hall, hall.findClass?_isSome ?_⟩
      rw [hf]
      rfl
    · cases h
  · cases h

end Draft

/-- A program that the builder has returned. -/
def Program.Finished (p : Program) : Prop :=
  ∃ d d', Draft.Built d ∧ Draft.exec Draft.complete d = (.ok p, d')

theorem Program.Finished.edits {p : Program} (h : p.Finished) :
    Program.Edits {} p ∧ (p.findClass? rootClassName).isSome := by
  obtain ⟨d, d', hd, hx⟩ := h
  obtain ⟨hc, hroot⟩ := Draft.complete_edits hd.ready hx
  exact ⟨hd.edits.trans hc, hroot⟩

end PointsTo
