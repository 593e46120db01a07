import PointsTo.Obj
import PointsTo.Proofs.Listing

/-!
What every finished program satisfies. The statements of a body, and the statements listed at a
variable or returned by a method, are exactly those that the table of statements puts there, and
everything that a statement names exists and belongs to the method that contains it.
-/
namespace PointsTo

namespace Program

/-- The program's tables agree with each other. -/
structure WellFormed (p : Program) : Prop where
  names : p.NamesHold
  superclass {c sup} (h : (p.classDecl c).superclass = some sup) : p.classes.Holds sup
  declared {c g m} (h : (g, m) ∈ (p.classDecl c).declared) : p.methods.Holds m
  declaredField {c f} (h : f ∈ (p.classDecl c).fields) : p.fields.Holds f
  entry {m} (h : p.entry = some m) : p.methods.Holds m
  owner {m} (h : p.methods.Holds m) : p.classes.Holds (p.methodDecl m).cls
  this {m v} (h : (p.methodDecl m).this = some v) : p.vars.Holds v ∧ (p.varDecl v).method = m
  param {m v} (h : v ∈ (p.methodDecl m).params) : p.vars.Holds v ∧ (p.varDecl v).method = m
  container {s} (h : p.stmts.Holds s) : p.methods.Holds (p.container s)
  operand {s v} (h : v ∈ (p.stmt s).vars) : p.vars.Holds v ∧ (p.varDecl v).method = p.container s
  field {s f} (h : (p.stmt s).field? = some f) : p.fields.Holds f
  alloc {s x t} (h : p.stmt s = .new x t) :
    t.isReference ∧ ∀ name, t = .ref name → (p.findClass? name).isSome
  receiver {s call} (h : p.stmt s = .invoke call) (hk : call.kind = .static) :
    call.receiver = none
  body {m s} : s ∈ (p.methodDecl m).stmts ↔ p.stmts.Holds s ∧ p.container s = m
  body_nodup {m} : (p.methodDecl m).stmts.toList.Nodup
  uses {v u s} : s ∈ (p.varDecl v).uses u ↔ (p.stmt s).use? = some (v, u)
  uses_nodup {v u} : ((p.varDecl v).uses u).toList.Nodup
  returns {m v} : v ∈ (p.methodDecl m).returns ↔ ∃ s, p.stmt s = .ret (some v) ∧ p.container s = m

end Program

namespace Program

variable {p q : Program} {m : MethodId} {stmt : Stmt}

theorem WellFormed.empty : WellFormed {} where
  names := ready_empty.names
  superclass h := by cases h
  declared h := by cases h
  declaredField h := (Array.not_mem_empty _ h).elim
  entry h := by cases h
  owner h := by cases h
  this h := by cases h
  param h := (Array.not_mem_empty _ h).elim
  container h := by cases h
  operand h := by cases h
  field h := by cases h
  alloc h := by cases h
  receiver h := by cases h
  body := placed_empty.mem_body
  body_nodup := (placed_empty.body _).nodup
  uses := placed_empty.mem_uses
  uses_nodup := (placed_empty.uses _ _).nodup
  returns := placed_empty.mem_returns

theorem WellFormed.pushClass (h : WellFormed p) {c : ClassDecl} (hid : c.id = p.classes.nextId)
    (hsup : c.superclass = none) (hdecl : c.declared = [] ∧ c.fields = #[]) :
    WellFormed (p.pushClass c) := by
  have hholds {i : ClassId} (hi : p.classes.Holds i) : (p.pushClass c).classes.Holds i :=
    Table.extends_push.holds hi
  have hclass (i : ClassId) :
      (p.pushClass c).classDecl i = if i = p.classes.nextId then c else p.classDecl i :=
    Table.get_push
  refine { h with
    names := h.names.pushClass hid, superclass := ?_, declared := ?_, declaredField := ?_
    owner := ?_, alloc := ?_ }
  · intro i sup hs
    rw [hclass] at hs
    split at hs
    · rw [hsup] at hs; cases hs
    · exact hholds (h.superclass hs)
  · intro i g m hm
    rw [hclass] at hm
    split at hm
    · rw [hdecl.1] at hm; cases hm
    · exact h.declared hm
  · intro i f hf
    rw [hclass] at hf
    split at hf
    · rw [hdecl.2] at hf; exact (Array.not_mem_empty _ hf).elim
    · exact h.declaredField hf
  · exact fun hm => hholds (h.owner hm)
  · intro s x t hs
    refine ⟨(h.alloc hs).1, fun name ht => ?_⟩
    rw [findClass?_pushClass]
    split
    · rfl
    · exact (h.alloc hs).2 name ht

/-- A class is changed or left as it is; one that does not exist cannot be changed. -/
theorem classDecl_modifyClass (c : ClassId) (f : ClassDecl → ClassDecl) (i : ClassId) :
    (p.modifyClass c f).classDecl i = p.classDecl i ∨
      (p.modifyClass c f).classDecl i = f (p.classDecl i) := by
  by_cases hc : p.classes.Holds c
  · change (p.classes.modify c f).get i = _ ∨ (p.classes.modify c f).get i = _
    rw [Table.get_modify hc]
    split
    · exact Or.inr rfl
    · exact Or.inl rfl
  · left
    change (p.classes.modify c f).get i = p.classes.get i
    have hnone : p.classes.get? c = none := by
      cases hg : p.classes.get? c with
      | none => rfl
      | some a => exact (hc (Table.holds_of_get? hg)).elim
    rw [Table.get, Table.get?_modify]
    split
    · next hi => rw [← hi, hnone, Table.get_of_not_holds hc]; rfl
    · rfl

theorem WellFormed.modifyClass (h : WellFormed p) {c : ClassId} {f : ClassDecl → ClassDecl}
    (hdecl : ∀ d g m, (g, m) ∈ (f d).declared → (g, m) ∈ d.declared ∨ p.methods.Holds m)
    (hfield : ∀ d i, i ∈ (f d).fields → i ∈ d.fields ∨ p.fields.Holds i)
    (hsup : ∀ d sup, (f d).superclass = some sup → d.superclass = some sup ∨ p.classes.Holds sup) :
    WellFormed (p.modifyClass c f) := by
  have hholds {i : ClassId} : (p.modifyClass c f).classes.Holds i ↔ p.classes.Holds i :=
    Table.holds_modify
  have hclass := classDecl_modifyClass (p := p) c f
  refine { h with names := ?_, superclass := ?_, declared := ?_, declaredField := ?_, owner := ?_ }
  · exact fun name i hi => hholds.mpr (h.names name i hi)
  · intro i sup hs
    rw [hholds]
    rcases hclass i with hi | hi <;> rw [hi] at hs
    · exact h.superclass hs
    · exact (hsup _ _ hs).elim h.superclass id
  · intro i g m hm
    rcases hclass i with hi | hi <;> rw [hi] at hm
    · exact h.declared hm
    · exact (hdecl _ _ _ hm).elim h.declared id
  · intro i g hg
    rcases hclass i with hi | hi <;> rw [hi] at hg
    · exact h.declaredField hg
    · exact (hfield _ _ hg).elim h.declaredField id
  · exact fun hm => hholds.mpr (h.owner hm)

theorem WellFormed.addField (h : WellFormed p) (counters : Counters) (f : FieldDecl) :
    WellFormed { p with counters, fields := p.fields.push f } :=
  { h with
    declaredField := fun hf => Table.extends_push.holds (h.declaredField hf)
    field := fun hf => Table.extends_push.holds (h.field hf) }

theorem WellFormed.addMethod (h : WellFormed p) (counters : Counters) {decl : MethodDecl}
    (hc : p.classes.Holds decl.cls) (hthis : decl.this = none) (hparams : decl.params = #[])
    (hq : Placed { p with counters, methods := p.methods.push decl }) :
    WellFormed { p with counters, methods := p.methods.push decl } := by
  have hholds {i : MethodId} (hi : p.methods.Holds i) : (p.methods.push decl).Holds i :=
    Table.extends_push.holds hi
  have hmethod (i : MethodId) :
      ({ p with counters, methods := p.methods.push decl } : Program).methodDecl i =
        if i = p.methods.nextId then decl else p.methodDecl i := Table.get_push
  refine { h with
    declared := fun hm => hholds (h.declared hm), entry := fun hm => hholds (h.entry hm)
    owner := ?_, this := ?_, param := ?_, container := fun hs => hholds (h.container hs)
    body := hq.mem_body, body_nodup := (hq.body _).nodup, returns := hq.mem_returns }
  · intro i hi
    rw [hmethod]
    split
    · exact hc
    · next hne => exact h.owner ((Table.holds_push.mp hi).resolve_right hne)
  · intro i v hv
    rw [hmethod] at hv
    split at hv
    · rw [hthis] at hv; cases hv
    · exact h.this hv
  · intro i v hv
    rw [hmethod] at hv
    split at hv
    · rw [hparams] at hv; exact (Array.not_mem_empty _ hv).elim
    · exact h.param hv

theorem methodDecl_modifyMethod {f : MethodDecl → MethodDecl} (hm : p.methods.Holds m)
    (i : MethodId) : (p.modifyMethod m f).methodDecl i =
      if m = i then f (p.methodDecl i) else p.methodDecl i :=
  Table.get_modify hm

/-- A method gets one more variable, which can be its receiver or a parameter. -/
theorem WellFormed.addVar (h : WellFormed p) (hm : p.methods.Holds m) {counters : Counters}
    {decl : VarDecl} (hown : decl.method = m) {f : MethodDecl → MethodDecl}
    (hcls : ∀ d, (f d).cls = d.cls)
    (hthis : ∀ d v, (f d).this = some v → d.this = some v ∨ v = p.vars.nextId)
    (hparam : ∀ d v, v ∈ (f d).params → v ∈ d.params ∨ v = p.vars.nextId)
    (hq : Placed { p with counters, vars := p.vars.push decl, methods := p.methods.modify m f }) :
    WellFormed { p with counters, vars := p.vars.push decl, methods := p.methods.modify m f } := by
  let q : Program := { p with counters, vars := p.vars.push decl, methods := p.methods.modify m f }
  have hvar (i : VarId) : q.varDecl i = if i = p.vars.nextId then decl else p.varDecl i :=
    Table.get_push
  have hmethod (i : MethodId) :
      q.methodDecl i = if m = i then f (p.methodDecl i) else p.methodDecl i := Table.get_modify hm
  have hholds {i : MethodId} : q.methods.Holds i ↔ p.methods.Holds i := Table.holds_modify
  have hkeep {v : VarId} {i : MethodId} (hv : p.vars.Holds v ∧ (p.varDecl v).method = i) :
      q.vars.Holds v ∧ (q.varDecl v).method = i := by
    have hne : v ≠ p.vars.nextId := fun he => Table.not_holds_nextId (he ▸ hv.1)
    rw [hvar, if_neg hne]
    exact ⟨Table.extends_push.holds hv.1, hv.2⟩
  have hnew : q.vars.Holds p.vars.nextId ∧ (q.varDecl p.vars.nextId).method = m := by
    rw [hvar, if_pos rfl]
    exact ⟨Table.holds_of_get? Table.get?_push_self, hown⟩
  refine { h with
    declared := fun hi => hholds.mpr (h.declared hi), entry := fun hi => hholds.mpr (h.entry hi)
    owner := ?_, this := ?_, param := ?_, container := fun hs => hholds.mpr (h.container hs)
    operand := fun hv => hkeep (h.operand hv), body := hq.mem_body
    body_nodup := (hq.body _).nodup, uses := hq.mem_uses, uses_nodup := (hq.uses _ _).nodup
    returns := hq.mem_returns }
  · intro i hi
    have ho := h.owner (hholds.mp hi)
    change p.classes.Holds (q.methodDecl i).cls
    rw [hmethod]
    split
    · rw [hcls]; exact ho
    · exact ho
  · intro i v hv
    change (q.methodDecl i).this = some v at hv
    rw [hmethod] at hv
    split at hv
    · next hi =>
      rcases hthis _ v hv with hv | rfl
      · exact hkeep (h.this hv)
      · exact hi ▸ hnew
    · exact hkeep (h.this hv)
  · intro i v hv
    change v ∈ (q.methodDecl i).params at hv
    rw [hmethod] at hv
    split at hv
    · next hi =>
      rcases hparam _ v hv with hv | rfl
      · exact hkeep (h.param hv)
      · exact hi ▸ hnew
    · exact hkeep (h.param hv)

theorem checkShape_new {x : VarId} {t : Ty} (h : p.checkShape (.new x t) = .ok ()) :
    t.isReference := by
  rw [checkShape] at h
  by_contra ht
  rw [if_neg ht] at h
  cases h

theorem checkShape_static {call : Call} (h : p.checkShape (.invoke call) = .ok ())
    (hk : call.kind = .static) : call.receiver = none := by
  rw [checkShape, checkCall] at h
  split at h
  · cases h
  · rw [hk] at h
    cases hr : call.receiver with
    | none => rfl
    | some v => rw [hr] at h; cases h

section PushStmt

variable (h : WellFormed p) (hp : p.Counted)

include hp in
/-- A new statement leaves the variables with their methods. -/
theorem owned_pushStmt (hvars : ∀ v ∈ stmt.vars, p.vars.Holds v) {v : VarId} {i : MethodId}
    (hv : p.vars.Holds v ∧ (p.varDecl v).method = i) :
    (p.pushStmt m stmt).vars.Holds v ∧ ((p.pushStmt m stmt).varDecl v).method = i := by
  rw [(varDecl_pushStmt hp hvars v).2, holds_var_pushStmt]
  exact hv

include hp in
/-- A new statement leaves the head of a method as it is. -/
theorem head_pushStmt (hm : p.methods.Holds m) (stmt : Stmt) (i : MethodId) :
    ((p.pushStmt m stmt).methodDecl i).cls = (p.methodDecl i).cls ∧
      ((p.pushStmt m stmt).methodDecl i).this = (p.methodDecl i).this ∧
      ((p.pushStmt m stmt).methodDecl i).params = (p.methodDecl i).params := by
  rw [methodDecl_pushStmt hp hm]
  split <;> exact ⟨rfl, rfl, rfl⟩

include h

include hp in
theorem WellFormed.container_pushStmt (hm : p.methods.Holds m) {s : StmtId}
    (hs : (p.pushStmt m stmt).stmts.Holds s) :
    (p.pushStmt m stmt).methods.Holds ((p.pushStmt m stmt).container s) := by
  rw [Program.container_pushStmt hp, holds_method_pushStmt]
  split
  · exact hm
  · next hne => exact h.container ((holds_stmt_pushStmt.mp hs).resolve_right hne)

include hp in
theorem WellFormed.operand_pushStmt
    (hvars : ∀ v ∈ stmt.vars, p.vars.Holds v ∧ (p.varDecl v).method = m) {s : StmtId} {v : VarId}
    (hv : v ∈ ((p.pushStmt m stmt).stmt s).vars) :
    (p.pushStmt m stmt).vars.Holds v ∧
      ((p.pushStmt m stmt).varDecl v).method = (p.pushStmt m stmt).container s := by
  apply owned_pushStmt hp fun v hv => (hvars v hv).1
  rw [stmt_pushStmt] at hv
  rw [Program.container_pushStmt hp]
  split at hv
  · next hs =>
    rw [if_pos hs]
    exact hvars v hv
  · next hs =>
    rw [if_neg hs]
    exact h.operand hv

theorem WellFormed.field_pushStmt (hfield : ∀ f ∈ stmt.field?, p.fields.Holds f) {s : StmtId}
    {f : FieldId} (hf : ((p.pushStmt m stmt).stmt s).field? = some f) : p.fields.Holds f := by
  rw [stmt_pushStmt] at hf
  split at hf
  · exact hfield f hf
  · exact h.field hf

theorem WellFormed.alloc_pushStmt (hshape : p.checkShape stmt = .ok ())
    (hnew : ∀ x name, stmt = .new x (.ref name) → (p.findClass? name).isSome) {s : StmtId}
    {x : VarId} {t : Ty} (hs : (p.pushStmt m stmt).stmt s = .new x t) :
    t.isReference ∧ ∀ name, t = .ref name → (p.findClass? name).isSome := by
  rw [stmt_pushStmt] at hs
  split at hs
  · exact ⟨checkShape_new (hs ▸ hshape), fun name ht => hnew x name (ht ▸ hs)⟩
  · exact h.alloc hs

theorem WellFormed.receiver_pushStmt (hshape : p.checkShape stmt = .ok ()) {s : StmtId}
    {call : Call} (hs : (p.pushStmt m stmt).stmt s = .invoke call) (hk : call.kind = .static) :
    call.receiver = none := by
  rw [stmt_pushStmt] at hs
  split at hs
  · exact checkShape_static (hs ▸ hshape) hk
  · exact h.receiver hs hk

include hp in
theorem WellFormed.pushStmt (hm : p.methods.Holds m) (hcheck : p.checkStmt m stmt = .ok ())
    (hq : (p.pushStmt m stmt).Placed) (hfield : ∀ f ∈ stmt.field?, p.fields.Holds f)
    (hnew : ∀ x name, stmt = .new x (.ref name) → (p.findClass? name).isSome) :
    WellFormed (p.pushStmt m stmt) := by
  obtain ⟨hvars, hshape⟩ := checkStmt_ok hcheck
  have hhead := head_pushStmt hp hm stmt
  have hown {v : VarId} {i : MethodId} := owned_pushStmt (m := m) (v := v) (i := i) hp
    fun v hv => (hvars v hv).1
  constructor
  case names => simpa [NamesHold] using h.names
  case superclass => simpa using @h.superclass
  case declared => simpa using @h.declared
  case declaredField => simpa using @h.declaredField
  case entry => simpa using @h.entry
  case owner => simpa [hhead] using @h.owner
  case this =>
    intro i v hv
    rw [(hhead i).2.1] at hv
    exact hown (h.this hv)
  case param =>
    intro i v hv
    rw [(hhead i).2.2] at hv
    exact hown (h.param hv)
  case container => exact h.container_pushStmt hp hm
  case operand => exact h.operand_pushStmt hp hvars
  case field =>
    rw [fields_pushStmt]
    exact h.field_pushStmt hfield
  case alloc =>
    simp only [findClass?_pushStmt]
    exact h.alloc_pushStmt hshape hnew
  case receiver => exact h.receiver_pushStmt hshape
  case body => exact hq.mem_body
  case body_nodup => exact (hq.body _).nodup
  case uses => exact hq.mem_uses
  case uses_nodup => exact (hq.uses _ _).nodup
  case returns => exact hq.mem_returns

end PushStmt

/-- Every change keeps a program well-formed. -/
theorem Edit.wellFormed (he : Edit p q) (hplaced : p.Placed) (h : WellFormed p) :
    WellFormed q := by
  have hq := he.placed hplaced
  cases he with
  | pushClass c hid hnew hsup hdecl => exact h.pushClass hid hsup hdecl
  | modifyClass c f hdecl hsup =>
    exact h.modifyClass (fun d g m hm => .inl ((hdecl d).1 ▸ hm))
      (fun d i hi => .inl ((hdecl d).2 ▸ hi)) hsup
  | link => exact { h with }
  | pushField f hid =>
    refine (h.addField _ f).modifyClass (fun _ _ _ hm => .inl hm) (fun d i hi => ?_)
      fun _ _ hs => .inl hs
    rcases Array.mem_push.mp hi with hi | rfl
    · exact .inl hi
    · right
      rw [hid]
      exact Table.holds_of_get? Table.get?_push_self
  | pushMethod decl hid hc hthis hparams =>
    have hadd := h.addMethod (p.pushMethod decl).counters hc hthis hparams
      (hq.congr ⟨rfl, rfl, fun _ => rfl, fun _ => rfl⟩)
    refine hadd.modifyClass (fun d g i hi => ?_) (fun _ _ hi => .inl hi) fun _ _ hs => .inl hs
    rcases List.mem_append.mp hi with hi | hi
    · exact .inl hi
    · obtain ⟨-, rfl⟩ := Prod.mk.inj (List.mem_singleton.mp hi)
      right
      rw [hid]
      exact Table.holds_of_get? Table.get?_push_self
  | pushThis i className hp hi =>
    rw [pushThis_eq, hp.nextVar] at hq ⊢
    exact h.addVar hi rfl (fun _ => rfl) (fun _ _ hv => .inr (Option.some.inj hv).symm)
      (fun _ _ hv => .inl hv) hq
  | pushParam i name type hp hi =>
    rw [pushParam_eq, hp.nextVar] at hq ⊢
    exact h.addVar hi rfl (fun _ => rfl) (fun _ _ hv => .inl hv)
      (fun _ _ hv => Array.mem_push.mp hv) hq
  | pushLocal i name type hp hi =>
    exact h.addVar hi rfl (fun _ => rfl) (fun _ _ hv => .inl hv) (fun _ _ hv => .inl hv) hq
  | pushStmt i stmt hp hi hcheck hfield hnew => exact h.pushStmt hp hi hcheck hq hfield hnew
  | startAt i hi => exact { h with entry := fun hm => Option.some.inj hm ▸ hi }

theorem Edits.wellFormed (h : Edits {} p) : WellFormed p := by
  have hboth := h.invariant (I := fun q => q.Placed ∧ q.WellFormed)
    (fun _ _ he hq => ⟨he.placed hq.1, he.wellFormed hq.1 hq.2⟩) ⟨placed_empty, .empty⟩
  exact hboth.2

/-- A statement that goes through a variable is in the body of the variable's method. -/
theorem WellFormed.mem_body_of_use? (h : WellFormed p) {s : StmtId} {v : VarId} {u : Use}
    (hs : (p.stmt s).use? = some (v, u)) : s ∈ (p.methodDecl (p.varDecl v).method).stmts := by
  refine h.body.mpr ⟨holds_of_stmt_ne fun hn => ?_, (h.operand (mem_vars_of_use? hs)).2.symm⟩
  rw [hn] at hs
  cases hs

theorem Finished.wellFormed (h : p.Finished) : WellFormed p := h.edits.1.wellFormed

end Program

end PointsTo
