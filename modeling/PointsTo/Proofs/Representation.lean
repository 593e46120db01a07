import PointsTo.Proofs.Completion
import PointsTo.Proofs.Growth

/-!
The representation of a program. Rows are never moved, and each list that is kept at a class, a
method or a variable names exactly the rows that belong there, in the order in which they were
added. Every edit adds a row to its table and to the lists that it belongs to, or leaves both alone.
-/
namespace PointsTo

namespace Table

variable {κ : Entity} {α : Type} [Inhabited α] {t : Table κ α}

/-- The rows carry their own numbers. -/
def Numbered (t : Table κ α) (id : α → Id κ) : Prop := ∀ i, t.Holds i → id (t.get i) = i

theorem Numbered.push {id : α → Id κ} (h : t.Numbered id) {a : α} (ha : id a = t.nextId) :
    (t.push a).Numbered id := by
  intro i hi
  rw [get_push]
  split
  · next he => rw [ha, he]
  · next hne => exact h i ((holds_push.mp hi).resolve_right hne)

theorem Numbered.modify {id : α → Id κ} (h : t.Numbered id) (i : Id κ) {f : α → α}
    (hf : ∀ a, id (f a) = id a) : (t.modify i f).Numbered id := by
  intro j hj
  rw [apply_get_modify hf]
  exact h j (holds_modify.mp hj)

variable {β : Type} [DecidableEq β] {key : α → β} {b : β} {l : Array (Id κ)}

/-- A list of the rows with a key, when there is one more row. -/
theorem Lists.pushRow (h : t.Lists (fun i => key (t.get i) = b) l) (a : α) :
    (t.push a).Lists (fun i => key ((t.push a).get i) = b)
      (if key a = b then l.push t.nextId else l) := by
  have hpush := h.push (Q := fun i => key ((t.push a).get i) = b) a
    fun i hi => by rw [extends_push.get hi]
  simpa [get_push] using hpush

theorem Lists.modifyRow (h : t.Lists (fun i => key (t.get i) = b) l) (i : Id κ) {f : α → α}
    (hf : ∀ a, key (f a) = key a) :
    (t.modify i f).Lists (fun j => key ((t.modify i f).get j) = b) l :=
  h.congr size_modify fun j _ => by rw [apply_get_modify hf]

end Table

namespace Program

variable {p q : Program}

/-- The members of classes and the variables of methods are listed where they belong. -/
structure Indexed (p : Program) : Prop where
  fieldId : p.fields.Numbered FieldDecl.id
  methodId : p.methods.Numbered MethodDecl.id
  varId : p.vars.Numbered VarDecl.id
  fields (c : ClassId) : p.fields.Lists (fun f => (p.fieldDecl f).cls = c) (p.classDecl c).fields
  methods (c : ClassId) :
    p.methods.Lists (fun m => (p.methodDecl m).cls = c) (p.classDecl c).methods
  vars (m : MethodId) : p.vars.Lists (fun v => (p.varDecl v).method = m) (p.methodDecl m).vars
  header (m : MethodId) : (p.methodDecl m).header <+: (p.methodDecl m).vars.toList

theorem indexed_empty : Indexed {} where
  fieldId i hi := by cases hi
  methodId i hi := by cases hi
  varId i hi := by cases hi
  fields c := rfl
  methods c := rfl
  vars m := rfl
  header m := List.prefix_rfl

theorem methods_pushStmt (p : Program) (i : MethodId) (stmt : Stmt) :
    (p.pushStmt i stmt).methods = p.methods.modify i (·.append p.counters.stmts.next stmt) := by
  rw [pushStmt_eq]

/-- A statement is recorded at the variable that it goes through, if there is one. -/
theorem vars_pushStmt (p : Program) (i : MethodId) (stmt : Stmt) :
    stmt.use? = none ∧ (p.pushStmt i stmt).vars = p.vars ∨
      ∃ v u, stmt.use? = some (v, u) ∧
        (p.pushStmt i stmt).vars = p.vars.modify v (·.record p.counters.stmts.next u) := by
  rw [pushStmt_eq]
  cases stmt.use? with
  | none => exact .inl ⟨rfl, rfl⟩
  | some w => exact .inr ⟨w.1, w.2, rfl, rfl⟩

namespace Indexed

variable (h : p.Indexed)
include h

/-- Only the members that the classes list matter. -/
theorem withClasses {q : Program} (hfields : q.fields = p.fields) (hmethods : q.methods = p.methods)
    (hvars : q.vars = p.vars)
    (hmembers : ∀ c, ((q.classDecl c).fields, (q.classDecl c).methods) =
      ((p.classDecl c).fields, (p.classDecl c).methods)) : q.Indexed := by
  have hmethod : q.methodDecl = p.methodDecl := by
    funext m
    rw [methodDecl, methodDecl, hmethods]
  refine { fieldId := hfields ▸ h.fieldId, methodId := hmethods ▸ h.methodId
           varId := hvars ▸ h.varId, fields := fun c => ?_, methods := fun c => ?_
           vars := fun m => ?_, header := fun m => hmethod ▸ h.header m }
  · rw [(Prod.mk.inj (hmembers c)).1]
    exact (h.fields c).congr (by rw [hfields]) fun f _ => by rw [fieldDecl, fieldDecl, hfields]
  · rw [(Prod.mk.inj (hmembers c)).2, hmethods, hmethod]
    exact h.methods c
  · rw [hmethod]
    exact (h.vars m).congr (by rw [hvars]) fun v _ => by rw [varDecl, varDecl, hvars]

theorem pushField {f : FieldDecl} (hid : f.id = p.fields.nextId) (hc : p.classes.Holds f.cls) :
    (p.pushField f).Indexed := by
  refine { h with fieldId := h.fieldId.push hid, fields := fun c => ?_, methods := fun c => ?_ }
  · have hfields : ((p.pushField f).classDecl c).fields =
        if f.cls = c then (p.classDecl c).fields.push f.id else (p.classDecl c).fields :=
      Table.get_modify_push (g := ClassDecl.fields) hc (fun _ => rfl) c
    rw [hfields, hid]
    exact (h.fields c).pushRow f
  · have hmethods : ((p.pushField f).classDecl c).methods = (p.classDecl c).methods :=
      Table.apply_get_modify fun _ => rfl
    rw [hmethods]
    exact h.methods c

theorem pushMethod {decl : MethodDecl} (hid : decl.id = p.methods.nextId)
    (hc : p.classes.Holds decl.cls) (hthis : decl.this = none) (hparams : decl.params = #[])
    (hvars : decl.vars = #[]) : (p.pushMethod decl).Indexed := by
  have hm (m : MethodId) : ((p.pushMethod decl).methodDecl m).vars = (p.methodDecl m).vars :=
    Table.apply_get_push hvars m
  have hheader (m : MethodId) :
      ((p.pushMethod decl).methodDecl m).header = (p.methodDecl m).header := by
    have hempty : decl.header = (default : MethodDecl).header := by
      rw [MethodDecl.header, hthis, hparams]
      rfl
    exact Table.apply_get_push hempty m
  refine { h with
    methodId := h.methodId.push hid, fields := fun c => ?_, methods := fun c => ?_
    vars := fun m => ?_, header := fun m => ?_ }
  · have hfields : ((p.pushMethod decl).classDecl c).fields = (p.classDecl c).fields :=
      Table.apply_get_modify fun _ => rfl
    rw [hfields]
    exact h.fields c
  · have hmethods : ((p.pushMethod decl).classDecl c).methods = if decl.cls = c then
        (p.classDecl c).methods.push decl.id else (p.classDecl c).methods :=
      Table.get_modify_push (g := ClassDecl.methods) hc (fun _ => rfl) c
    rw [hmethods, hid]
    exact (h.methods c).pushRow decl
  · rw [hm]
    exact h.vars m
  · rw [hm, hheader]
    exact h.header m

/-- A method gets one more variable. -/
theorem addVar {i : MethodId} (hi : p.methods.Holds i) {counters : Counters} {decl : VarDecl}
    (hid : decl.id = p.vars.nextId) (hmethod : decl.method = i) {f : MethodDecl → MethodDecl}
    (hf : ∀ d, (f d).id = d.id ∧ (f d).cls = d.cls ∧ (f d).vars = d.vars.push p.vars.nextId)
    (hheader : (f (p.methodDecl i)).header <+: (f (p.methodDecl i)).vars.toList) :
    Indexed { p with counters, vars := p.vars.push decl, methods := p.methods.modify i f } where
  fieldId := h.fieldId
  methodId := h.methodId.modify i fun d => (hf d).1
  varId := h.varId.push hid
  fields := h.fields
  methods c := (h.methods c).modifyRow i fun d => (hf d).2.1
  vars m := by
    have hvars : ((p.methods.modify i f).get m).vars = if decl.method = m then
        (p.methodDecl m).vars.push p.vars.nextId else (p.methodDecl m).vars := by
      rw [hmethod]
      exact Table.get_modify_push (g := MethodDecl.vars) hi (fun d => (hf d).2.2) m
    rw [methodDecl, hvars]
    exact (h.vars m).pushRow decl
  header m := by
    rw [methodDecl, Table.get_modify hi]
    split
    · next him => exact him ▸ hheader
    · exact h.header m

/-- The receiver comes before all parameters. -/
theorem pushThis (hp : p.Counted) {i : MethodId} (hi : p.methods.Holds i)
    (hfirst : (p.methodDecl i).vars = #[]) (className : String) :
    (p.pushThis i className).Indexed := by
  have hnone : (p.methodDecl i).params = #[] := by
    have hprefix := h.header i
    rw [hfirst, Array.toList_empty, List.prefix_nil, MethodDecl.header,
      List.append_eq_nil_iff] at hprefix
    exact Array.toList_eq_nil_iff.mp hprefix.2
  rw [pushThis_eq, hp.nextVar]
  refine h.addVar hi rfl rfl (fun d => ⟨rfl, rfl, rfl⟩) ?_
  simp [MethodDecl.header, hfirst, hnone]

/-- Without local variables the new parameter is the last variable. -/
theorem pushParam (hp : p.Counted) {i : MethodId} (hi : p.methods.Holds i)
    (hheader : (p.methodDecl i).vars.toList = (p.methodDecl i).header) (name : String) (type : Ty) :
    (p.pushParam i name type).Indexed := by
  rw [pushParam_eq, hp.nextVar]
  refine h.addVar hi rfl rfl (fun d => ⟨rfl, rfl, rfl⟩) ⟨[], ?_⟩
  simp [MethodDecl.header, hheader]

theorem pushLocal (hp : p.Counted) {i : MethodId} (hi : p.methods.Holds i) (name : String)
    (type : Ty) : (p.pushVar i name type).Indexed := by
  rw [Program.pushVar, modifyMethod, hp.nextVar]
  refine h.addVar hi rfl rfl (fun d => ⟨rfl, rfl, rfl⟩) ?_
  rw [Array.toList_push]
  exact (h.header i).trans (List.prefix_append _ _)

/-- A statement more in a body changes neither members nor variables. -/
theorem pushStmt (i : MethodId) (stmt : Stmt) : (p.pushStmt i stmt).Indexed := by
  have hmethod := methods_pushStmt p i stmt
  have hlists (m : MethodId) : (((p.pushStmt i stmt).methodDecl m).vars,
      ((p.pushStmt i stmt).methodDecl m).header) =
        ((p.methodDecl m).vars, (p.methodDecl m).header) := by
    rw [methodDecl, hmethod]
    exact Table.apply_get_modify (g := fun d : MethodDecl => (d.vars, d.header)) fun _ => rfl
  have hvars : (p.pushStmt i stmt).vars.Numbered VarDecl.id ∧
      ∀ m, (p.pushStmt i stmt).vars.Lists (fun v => ((p.pushStmt i stmt).varDecl v).method = m)
        (p.methodDecl m).vars := by
    rcases vars_pushStmt p i stmt with ⟨-, hv⟩ | ⟨v, u, -, hv⟩
    · unfold varDecl
      rw [hv]
      exact ⟨h.varId, h.vars⟩
    · unfold varDecl
      rw [hv]
      exact ⟨h.varId.modify v fun d => by cases u <;> rfl,
        fun m => (h.vars m).modifyRow v fun d => d.method_record _ u⟩
  refine {
    fieldId := by rw [fields_pushStmt]; exact h.fieldId
    methodId := by rw [hmethod]; exact h.methodId.modify i fun _ => rfl
    varId := hvars.1
    fields := fun c => ?_, methods := fun c => ?_, vars := fun m => ?_, header := fun m => ?_ }
  · rw [classDecl_pushStmt]
    exact (h.fields c).congr (by rw [fields_pushStmt])
      fun f _ => by rw [fieldDecl, fields_pushStmt, fieldDecl]
  · unfold methodDecl
    rw [classDecl_pushStmt, hmethod]
    exact (h.methods c).modifyRow i fun _ => rfl
  · rw [(Prod.mk.inj (hlists m)).1]
    exact hvars.2 m
  · rw [(Prod.mk.inj (hlists m)).1, (Prod.mk.inj (hlists m)).2]
    exact h.header m

end Indexed

theorem Edit.indexed (he : Edit p q) (h : p.Indexed) : q.Indexed := by
  cases he with
  | pushClass d hid hnew hsup hdecl hmethods =>
    have hnone : (d.fields, d.methods) =
        ((default : ClassDecl).fields, (default : ClassDecl).methods) := by
      rw [hdecl.2, hmethods]
      rfl
    exact h.withClasses rfl rfl rfl
      (Table.apply_get_push (g := fun d : ClassDecl => (d.fields, d.methods)) hnone)
  | modifyClass i f hdecl hsup hinterfaces hname hmethods =>
    refine h.withClasses rfl rfl rfl fun c =>
      Table.apply_get_modify (g := fun d : ClassDecl => (d.fields, d.methods)) fun d => ?_
    rw [(hdecl d).2, hmethods]
  | pushField f hid hc => exact h.pushField hid hc
  | pushMethod decl hid hc hthis hparams hstmts hreturns hcalls hvars =>
    exact h.pushMethod hid hc hthis hparams hvars
  | pushThis i className hp hi hfirst => exact h.pushThis hp hi hfirst className
  | pushParam i name type hp hi hheader => exact h.pushParam hp hi hheader name type
  | pushLocal i name type hp hi => exact h.pushLocal hp hi name type
  | pushStmt i stmt => exact h.pushStmt i stmt
  | link | startAt => exact { h with }

/-- A class declares exactly its methods, each under its signature. -/
def Declares (p : Program) : Prop := ∀ c g m, (p.classDecl c).declaredMethod? g = some m ↔
  p.methods.Holds m ∧ (p.methodDecl m).cls = c ∧ (p.methodDecl m).signature = g

/-- A class gets a method with a signature that it does not declare yet. -/
theorem Declares.pushMethod (h : p.Declares) {decl : MethodDecl} (hid : decl.id = p.methods.nextId)
    (hc : p.classes.Holds decl.cls)
    (hnew : (p.classDecl decl.cls).declaredMethod? decl.signature = none) :
    (p.pushMethod decl).Declares := by
  intro c g m
  have hclass : ((p.pushMethod decl).classDecl c).declaredMethod? g =
      if decl.cls = c then
        ((p.classDecl c).declaredMethod? g).or ([(decl.signature, p.methods.nextId)].lookup g)
      else (p.classDecl c).declaredMethod? g := by
    have hget : (p.pushMethod decl).classDecl c = _ := Table.get_modify hc
    rw [hget, ← hid]
    split
    · exact List.lookup_append
    · rfl
  have hmethod : (p.pushMethod decl).methodDecl m =
      if m = p.methods.nextId then decl else p.methodDecl m := Table.get_push
  have hholds : (p.pushMethod decl).methods.Holds m ↔ p.methods.Holds m ∨ m = p.methods.nextId :=
    Table.holds_push
  have hfresh : (p.classDecl c).declaredMethod? g ≠ some p.methods.nextId := fun hg =>
    Table.not_holds_nextId ((h c g _).mp hg).1
  have hother (hg : decl.signature ≠ g) :
      [(decl.signature, p.methods.nextId)].lookup g = none := by
    rw [List.lookup_cons, beq_eq_false_iff_ne.mpr hg.symm, List.lookup_nil]
  rw [hclass, hmethod, hholds]
  by_cases hm : m = p.methods.nextId
  · subst hm
    by_cases hcls : decl.cls = c
    · subst hcls
      by_cases hg : decl.signature = g
      · subst hg
        simp [hnew]
      · simp [hother hg, hfresh, hg]
    · simp [hcls, hfresh]
  · have hold := h c g m
    by_cases hcls : decl.cls = c
    · subst hcls
      by_cases hg : decl.signature = g
      · subst hg
        rw [hnew] at hold
        simpa [hnew, hm, Ne.symm hm] using hold
      · simpa [hother hg, hm] using hold
    · simpa [hcls, hm] using hold

theorem Declares.congr (h : p.Declares)
    (hclass : ∀ c, (q.classDecl c).declared = (p.classDecl c).declared)
    (hsize : q.methods.size = p.methods.size)
    (hmethod : ∀ m, ((q.methodDecl m).cls, (q.methodDecl m).signature) =
      ((p.methodDecl m).cls, (p.methodDecl m).signature)) : q.Declares := by
  intro c g m
  obtain ⟨hcls, hsignature⟩ := Prod.mk.inj (hmethod m)
  rw [ClassDecl.declaredMethod?, hclass, Table.Holds, hsize, hcls, hsignature]
  exact h c g m

theorem Edit.declares (he : Edit p q) (h : p.Declares) : q.Declares := by
  have hkeep {i : MethodId} {f : MethodDecl → MethodDecl}
      (hf : ∀ d, ((f d).cls, (f d).signature) = (d.cls, d.signature)) (m : MethodId) :
      (((p.methods.modify i f).get m).cls, ((p.methods.modify i f).get m).signature) =
        ((p.methodDecl m).cls, (p.methodDecl m).signature) :=
    Table.apply_get_modify (g := fun d : MethodDecl => (d.cls, d.signature)) hf
  cases he with
  | pushClass d hid hnew hsup hdecl =>
    exact h.congr (Table.apply_get_push (g := ClassDecl.declared) hdecl.1) rfl fun _ => rfl
  | modifyClass i f hdecl =>
    exact h.congr (fun _ => Table.apply_get_modify (g := ClassDecl.declared) fun d => (hdecl d).1)
      rfl fun _ => rfl
  | pushField f =>
    exact h.congr (fun _ => Table.apply_get_modify (g := ClassDecl.declared) fun _ => rfl) rfl
      fun _ => rfl
  | pushMethod decl hid hc hthis hparams hstmts hreturns hcalls hvars hnew =>
    exact h.pushMethod hid hc hnew
  | pushThis i className =>
    rw [pushThis_eq]
    exact h.congr (fun _ => rfl) Table.size_modify (hkeep fun _ => rfl)
  | pushParam i name type =>
    rw [pushParam_eq]
    exact h.congr (fun _ => rfl) Table.size_modify (hkeep fun _ => rfl)
  | pushLocal i name type => exact h.congr (fun _ => rfl) Table.size_modify (hkeep fun _ => rfl)
  | pushStmt i stmt =>
    rw [pushStmt_eq]
    exact h.congr (fun _ => rfl) Table.size_modify (hkeep fun _ => rfl)
  | link | startAt => exact h

/-- The representation invariant. Rows stand at their numbers and are counted, names and nodes of
the hierarchy stand for classes one to one, and all lists and indices are exact. -/
structure Represented (p : Program) : Prop extends Indexed p, Placed p where
  counted : p.Counted
  classId : p.classes.Numbered ClassDecl.id
  name {n : String} {c : ClassId} :
    p.findClass? n = some c ↔ p.classes.Holds c ∧ (p.classDecl c).name = n
  nodes : p.hierarchy.nodes.toList = p.classes.ids
  declared {c : ClassId} {g : Signature} {m : MethodId} :
    (p.classDecl c).declaredMethod? g = some m ↔
      p.methods.Holds m ∧ (p.methodDecl m).cls = c ∧ (p.methodDecl m).signature = g
  operand {s : StmtId} {v : VarId} (h : v ∈ (p.stmt s).vars) :
    p.vars.Holds v ∧ (p.varDecl v).method = p.container s

/-- The receiver of a method is not one of its parameters. -/
theorem Represented.this_not_mem_params (h : p.Represented) {m : MethodId} {v : VarId}
    (hv : (p.methodDecl m).this = some v) : v ∉ (p.methodDecl m).params := by
  have hnodup := (h.vars m).nodup.sublist (h.header m).sublist
  rw [MethodDecl.header, hv, Option.toList_some, List.singleton_append, List.nodup_cons,
    Array.mem_toList_iff] at hnodup
  exact hnodup.1

theorem Edits.represented (h : Edits {} p) : p.Represented := by
  have hdeclares : Declares {} := by
    intro c g m
    constructor
    · intro hg
      cases hg
    · intro hm
      cases hm.1
  have hindexed := h.invariant (fun _ _ he => he.indexed) indexed_empty
  have hdeclared := h.invariant (fun _ _ he => he.declares) hdeclares
  have hregistered := h.invariant (fun _ _ he => he.registered) registered_empty
  exact
    { hindexed, h.placed with
      counted := hregistered.counted
      classId := fun _ hc => hregistered.id hc
      name := hregistered.name
      nodes := hregistered.nodes
      declared := hdeclared _ _ _
      operand := h.wellFormed.operand }

end Program

namespace Draft

/-- Whatever calls have been made, successful or not, the program is represented exactly, its
counters are the sizes of its tables, and so it is when it is completed. -/
theorem represented_of_built {d : Draft} (h : Built d) :
    d.program.Represented ∧ ∃ p d', exec complete d = (.ok p, d') ∧ p.Represented := by
  obtain ⟨root, -, hx⟩ := exec_complete d
    (h.edits.invariant (fun _ _ he => he.registered) Program.registered_empty)
  have hx : exec complete d = (.ok _, (exec complete d).2) := Prod.ext hx rfl
  have hcomplete := (complete_edits h.ready hx).1
  exact ⟨h.edits.represented, _, _, hx, (h.edits.trans hcomplete).represented⟩

theorem represented_of_built_cells :
    let d : Draft := runAll {} cellCalls
    Built d ∧ d.program.Represented ∧
      d.program.counters = { classes := ⟨2⟩, fields := ⟨1⟩, methods := ⟨1⟩, vars := ⟨3⟩
                             stmts := ⟨5⟩ } ∧
      d.program.places.size = 5 ∧ d.program.position ⟨3⟩ = 3 ∧
      d.program.findClass? "Base" = some ⟨1⟩ ∧
      (d.program.methodDecl ⟨0⟩).vars = #[⟨0⟩, ⟨1⟩, ⟨2⟩] ∧
      (d.program.varDecl ⟨0⟩).loads = #[⟨0⟩, ⟨2⟩] ∧ (d.program.varDecl ⟨0⟩).stores = #[⟨1⟩] ∧
      (d.program.methodDecl ⟨0⟩).returns = #[⟨2⟩] := by
  have hbuilt : Built (runAll {} cellCalls) := Built.empty.runAll cellCalls
  exact ⟨hbuilt, (represented_of_built hbuilt).1, by decide +kernel⟩

end Draft

end PointsTo
