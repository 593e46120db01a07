import PointsTo.Proofs.Construction

namespace PointsTo

namespace Table

variable {κ : Entity} {α : Type} {t : Table κ α} {P Q : Id κ → Bool} {l : Array (Id κ)}

/-- `l` names the elements with a property, in order. -/
def Lists (t : Table κ α) (P : Id κ → Bool) (l : Array (Id κ)) : Prop := l.toList = t.ids.filter P

theorem Lists.mem_iff (h : t.Lists P l) {i : Id κ} : i ∈ l ↔ t.Holds i ∧ P i := by
  rw [← Array.mem_toList_iff, h, List.mem_filter, mem_ids]

theorem Lists.nodup (h : t.Lists P l) : l.toList.Nodup := by
  rw [h]
  exact nodup_ids.filter _

/-- Only the elements of the table count. -/
theorem Lists.congr {β : Type} {t' : Table κ β} (h : t.Lists P l) (hsize : t'.size = t.size)
    (hQ : ∀ i, t.Holds i → Q i = P i) : t'.Lists Q l := by
  have hids : t'.ids = t.ids := by rw [ids, ids, hsize]
  unfold Lists at h ⊢
  rw [h, hids]
  apply List.filter_congr
  intro i hi
  exact (hQ i (mem_ids.mp hi)).symm

/-- A new element is named last, if it is named at all. -/
theorem Lists.push (h : t.Lists P l) (a : α) (hQ : ∀ i, t.Holds i → Q i = P i) :
    (t.push a).Lists Q (if Q t.nextId then l.push t.nextId else l) := by
  have hold : t.ids.filter Q = l.toList := (h.congr rfl hQ).symm
  unfold Lists
  rw [ids_push, List.filter_append, hold]
  cases ha : Q t.nextId with
  | true => simp [ha]
  | false => simp [ha]

variable [Inhabited α]

/-- A new row in which something is as in no row. -/
theorem apply_get_push {β : Type} {g : α → β} {a : α} (ha : g a = g default) (j : Id κ) :
    g ((t.push a).get j) = g (t.get j) := by
  rw [get_push]
  split
  · next hj => rw [hj, get_of_not_holds not_holds_nextId, ha]
  · rfl

/-- One row of many gets one more entry. -/
theorem get_modify_push {β : Type} {g : α → Array β} {i : Id κ} (hi : t.Holds i) {f : α → α} {x : β}
    (hf : ∀ a, g (f a) = (g a).push x) (j : Id κ) :
    g ((t.modify i f).get j) = if i = j then (g (t.get j)).push x else g (t.get j) := by
  rw [get_modify hi]
  split
  · exact hf _
  · rfl

end Table

/-- The variable that a statement returns. -/
def Stmt.returned? : Stmt → Option VarId
  | ret v => v
  | _ => none

namespace MethodDecl

/-- What a method lists of its body: the statements, the calls and the returned variables. -/
def lists (d : MethodDecl) : Array StmtId × Array StmtId × Array VarId :=
  (d.stmts, d.calls, d.returns)

variable {d : MethodDecl} {s : StmtId} {stmt : Stmt}

theorem returns_append_of_none (h : stmt.returned? = none) :
    (d.append s stmt).returns = d.returns := by
  rcases stmt with _ | _ | _ | _ | _ | _ | _ | ⟨_ | v⟩
  case ret.some => cases h
  all_goals rfl

theorem returns_append_of_some {v : VarId} (h : stmt.returned? = some v) :
    (d.append s stmt).returns = if v ∈ d.returns then d.returns else d.returns.push v := by
  rcases stmt with _ | _ | _ | _ | _ | _ | _ | ⟨_ | w⟩
  case ret.some =>
    cases h
    simp only [append, Array.contains_iff_mem]
  all_goals cases h

end MethodDecl

theorem eraseDups_concat {α : Type} [DecidableEq α] (l : List α) (a : α) :
    (l ++ [a]).eraseDups = if a ∈ l then l.eraseDups else l.eraseDups ++ [a] := by
  rw [List.eraseDups_append]
  by_cases h : a ∈ l
  · simp [h, List.removeAll]
  · simp [h, List.removeAll, List.eraseDups_cons]

namespace Program

variable {p q : Program} {m : MethodId} {stmt : Stmt}

theorem holds_of_stmt_ne {s : StmtId} (h : p.stmt s ≠ .ret none) : p.stmts.Holds s := by
  by_contra hn
  exact h (by rw [Program.stmt, Table.get_of_not_holds hn]; rfl)

theorem checkVars_ok {vs : List VarId} (h : vs.forM (p.checkVar m) = .ok ()) :
    ∀ v ∈ vs, p.vars.Holds v ∧ (p.varDecl v).method = m := by
  induction vs with
  | nil => simp
  | cons v vs ih =>
    have hv : p.checkVar m v = .ok () ∧ vs.forM (p.checkVar m) = .ok () := by
      rw [List.forM] at h
      cases hx : p.checkVar m v with
      | error e => rw [hx] at h; cases h
      | ok u => rw [hx] at h; exact ⟨rfl, h⟩
    intro w hw
    rcases List.mem_cons.mp hw with rfl | hw
    · have hc := hv.1
      rw [checkVar] at hc
      split at hc
      · cases hc
      · next d hd =>
        split at hc
        · next hm => exact ⟨Table.holds_of_get? hd, by rw [varDecl, Table.get_of_get? hd, hm]⟩
        · cases hc
    · exact ih hv.2 w hw

/-- What the checks on a new statement ensure. -/
theorem checkStmt_ok (h : p.checkStmt m stmt = .ok ()) :
    (∀ v ∈ stmt.vars, p.vars.Holds v ∧ (p.varDecl v).method = m) ∧ p.checkShape stmt = .ok () := by
  rw [checkStmt] at h
  dsimp only at h
  split at h
  · cases h
  · cases hv : stmt.vars.forM (p.checkVar m) with
    | error e => rw [hv] at h; cases h
    | ok u =>
      refine ⟨checkVars_ok hv, ?_⟩
      rw [hv] at h
      cases hs : p.checkShape stmt with
      | error e => rw [hs] at h; cases h
      | ok u => rfl

theorem mem_vars_of_use? {u : Use} {v : VarId} (h : stmt.use? = some (v, u)) : v ∈ stmt.vars := by
  rcases stmt with _ | _ | ⟨_, _ | _, _⟩ | ⟨_ | _, _, _⟩ | _ | _ | ⟨⟨_, _, _ | _, _, _⟩⟩ | _ <;>
    simp_all [Stmt.use?, Stmt.vars]

section PushStmt

@[simp] theorem classes_pushStmt : (p.pushStmt m stmt).classes = p.classes := by rw [pushStmt_eq]

@[simp] theorem fields_pushStmt : (p.pushStmt m stmt).fields = p.fields := by rw [pushStmt_eq]

@[simp] theorem stmts_pushStmt : (p.pushStmt m stmt).stmts = p.stmts.push stmt := by
  rw [pushStmt_eq]

@[simp] theorem hierarchy_pushStmt : (p.pushStmt m stmt).hierarchy = p.hierarchy := by
  rw [pushStmt_eq]

@[simp] theorem entry_pushStmt : (p.pushStmt m stmt).entry = p.entry := by rw [pushStmt_eq]

@[simp] theorem classDecl_pushStmt (c : ClassId) :
    (p.pushStmt m stmt).classDecl c = p.classDecl c := by
  rw [classDecl, classes_pushStmt]
  rfl

@[simp] theorem findClass?_pushStmt (name : String) :
    (p.pushStmt m stmt).findClass? name = p.findClass? name := by
  rw [pushStmt_eq]
  rfl

@[simp] theorem holds_method_pushStmt {i : MethodId} :
    (p.pushStmt m stmt).methods.Holds i ↔ p.methods.Holds i := by
  rw [pushStmt_eq]
  exact Table.holds_modify

@[simp] theorem holds_var_pushStmt {v : VarId} :
    (p.pushStmt m stmt).vars.Holds v ↔ p.vars.Holds v := by
  rw [pushStmt_eq]
  cases stmt.use? with
  | none => rfl
  | some w => exact Table.holds_modify

theorem stmt_pushStmt (s : StmtId) :
    (p.pushStmt m stmt).stmt s = if s = p.stmts.nextId then stmt else p.stmt s := by
  rw [Program.stmt, stmts_pushStmt, Table.get_push]
  rfl

theorem place_pushStmt (hp : p.Counted) (s : StmtId) :
    (p.pushStmt m stmt).places.get s =
      if s = p.stmts.nextId then ⟨m, (p.methodDecl m).stmts.size⟩ else p.places.get s := by
  rw [pushStmt_eq, Table.get_push, hp.nextPlace]

theorem container_pushStmt (hp : p.Counted) (s : StmtId) :
    (p.pushStmt m stmt).container s = if s = p.stmts.nextId then m else p.container s := by
  rw [Program.container, place_pushStmt hp]
  split <;> rfl

theorem holds_stmt_pushStmt {s : StmtId} :
    (p.pushStmt m stmt).stmts.Holds s ↔ p.stmts.Holds s ∨ s = p.stmts.nextId := by
  rw [stmts_pushStmt, Table.holds_push]

theorem methodDecl_pushStmt (hp : p.Counted) (hm : p.methods.Holds m) (i : MethodId) :
    (p.pushStmt m stmt).methodDecl i =
      if m = i then (p.methodDecl i).append p.stmts.nextId stmt else p.methodDecl i := by
  rw [pushStmt_eq, hp.nextStmt]
  exact Table.get_modify hm

theorem varDecl_pushStmt (hp : p.Counted) (hv : ∀ v ∈ stmt.vars, p.vars.Holds v) (v : VarId) :
    (∀ u, ((p.pushStmt m stmt).varDecl v).uses u =
      if stmt.use? = some (v, u) then ((p.varDecl v).uses u).push p.stmts.nextId
      else (p.varDecl v).uses u) ∧
    ((p.pushStmt m stmt).varDecl v).method = (p.varDecl v).method := by
  rw [pushStmt_eq, hp.nextStmt]
  cases hu : stmt.use? with
  | none => exact ⟨fun u => by simp [varDecl], rfl⟩
  | some w =>
    obtain ⟨w, u⟩ := w
    have hd : (p.vars.modify w (·.record p.stmts.nextId u)).get v = _ :=
      Table.get_modify (hv w (mem_vars_of_use? hu))
    simp only [varDecl, hd]
    by_cases hw : w = v
    · simp only [hw, if_true, VarDecl.method_record, and_true]
      intro u'
      rw [VarDecl.uses_record]
      by_cases huu : u = u' <;> simp [huu]
    · simp [hw]

end PushStmt

/-- The bodies of the methods are the same. -/
structure SameBodies (p q : Program) : Prop where
  stmts : q.stmts = p.stmts
  places : q.places = p.places
  method (m : MethodId) : (q.methodDecl m).lists = (p.methodDecl m).lists
  var (v : VarId) : (q.varDecl v).uses = (p.varDecl v).uses

/-- Nothing is recorded yet at a new variable. -/
theorem uses_eq_default {d : VarDecl} (h : ∀ u, d.uses u = #[]) :
    d.uses = (default : VarDecl).uses := by
  funext u
  rw [h]
  cases u <;> rfl

/-- Only a new statement touches a body. -/
theorem Edit.sameBodies_or (he : Edit p q) :
    SameBodies p q ∨ ∃ m stmt, p.Counted ∧ p.methods.Holds m ∧ p.checkStmt m stmt = .ok () ∧
      q = p.pushStmt m stmt := by
  cases he with
  | pushStmt m stmt hp hm hcheck => exact .inr ⟨m, stmt, hp, hm, hcheck, rfl⟩
  | pushMethod decl hid hc hthis hparams hstmts hreturns hcalls =>
    have hempty : decl.lists = (default : MethodDecl).lists := by
      rw [MethodDecl.lists, hstmts, hcalls, hreturns]
      rfl
    exact .inl ⟨rfl, rfl, Table.apply_get_push (g := MethodDecl.lists) hempty, fun _ => rfl⟩
  | pushThis m className =>
    rw [pushThis_eq]
    exact .inl ⟨rfl, rfl, fun _ => Table.apply_get_modify (g := MethodDecl.lists) fun _ => rfl,
      Table.apply_get_push (g := VarDecl.uses) (uses_eq_default fun u => by cases u <;> rfl)⟩
  | pushParam m name type =>
    rw [pushParam_eq]
    exact .inl ⟨rfl, rfl, fun _ => Table.apply_get_modify (g := MethodDecl.lists) fun _ => rfl,
      Table.apply_get_push (g := VarDecl.uses) (uses_eq_default fun u => by cases u <;> rfl)⟩
  | pushLocal m name type =>
    exact .inl ⟨rfl, rfl, fun _ => Table.apply_get_modify (g := MethodDecl.lists) fun _ => rfl,
      Table.apply_get_push (g := VarDecl.uses) (uses_eq_default fun u => by cases u <;> rfl)⟩
  | pushClass | modifyClass | link | pushField | startAt =>
    exact .inl ⟨rfl, rfl, fun _ => rfl, fun _ => rfl⟩

/-- The statements are listed where they belong: in a body at their position, as calls of the
method, and at the variable that they go through. -/
structure Placed (p : Program) : Prop where
  body (m : MethodId) : p.stmts.Lists (fun s => p.container s = m) (p.methodDecl m).stmts
  position {s : StmtId} (h : p.stmts.Holds s) :
    (p.methodDecl (p.container s)).stmts[p.position s]? = some s
  calls (m : MethodId) : p.stmts.Lists (fun s => (p.stmt s).call?.isSome ∧ p.container s = m)
    (p.methodDecl m).calls
  uses (v : VarId) (u : Use) :
    p.stmts.Lists (fun s => (p.stmt s).use? = some (v, u)) ((p.varDecl v).uses u)
  returns (m : MethodId) : (p.methodDecl m).returns.toList =
    ((p.methodDecl m).stmts.toList.filterMap fun s => (p.stmt s).returned?).eraseDups

theorem placed_empty : Placed {} where
  body m := rfl
  position h := by cases h
  calls m := rfl
  uses v u := by cases u <;> rfl
  returns m := rfl

theorem Placed.congr (h : p.Placed) (hs : SameBodies p q) : q.Placed := by
  have hbody (m : MethodId) : (q.methodDecl m).stmts = (p.methodDecl m).stmts :=
    congrArg Prod.fst (hs.method m)
  have hcalls (m : MethodId) : (q.methodDecl m).calls = (p.methodDecl m).calls :=
    congrArg (·.2.1) (hs.method m)
  have hreturns (m : MethodId) : (q.methodDecl m).returns = (p.methodDecl m).returns :=
    congrArg (·.2.2) (hs.method m)
  have hstmt : q.stmt = p.stmt := by
    funext s
    rw [stmt, stmt, hs.stmts]
  have hcontainer : q.container = p.container := by
    funext s
    rw [container, container, hs.places]
  refine { body := fun m => ?_, position := fun {s} hi => ?_, calls := fun m => ?_
           uses := fun v u => ?_, returns := fun m => ?_ }
  · rw [hs.stmts, hcontainer, hbody]
    exact h.body m
  · rw [hs.stmts] at hi
    rw [hcontainer, Program.position, hs.places, hbody]
    exact h.position hi
  · rw [hs.stmts, hstmt, hcontainer, hcalls]
    exact h.calls m
  · rw [hs.stmts, hstmt, hs.var]
    exact h.uses v u
  · rw [hreturns, hbody, hstmt]
    exact h.returns m

/-- The variables that a body returns, with one more statement. -/
theorem Placed.returns_pushStmt (h : p.Placed) (hp : p.Counted) {i : MethodId}
    (hi : p.methods.Holds i) (stmt : Stmt) (m : MethodId) :
    ((p.pushStmt i stmt).methodDecl m).returns.toList =
      (((p.pushStmt i stmt).methodDecl m).stmts.toList.filterMap
        fun s => ((p.pushStmt i stmt).stmt s).returned?).eraseDups := by
  have hold : (p.methodDecl m).stmts.toList.filterMap
      (fun s => ((p.pushStmt i stmt).stmt s).returned?) =
        (p.methodDecl m).stmts.toList.filterMap fun s => (p.stmt s).returned? := by
    apply List.filterMap_congr
    intro s hs
    have hs : p.stmts.Holds s := ((h.body m).mem_iff.mp (Array.mem_toList_iff.mp hs)).1
    have hne : s ≠ p.stmts.nextId := fun he => Table.not_holds_nextId (he ▸ hs)
    rw [stmt_pushStmt, if_neg hne]
  have hnew : (p.pushStmt i stmt).stmt p.stmts.nextId = stmt := by rw [stmt_pushStmt, if_pos rfl]
  rw [methodDecl_pushStmt hp hi]
  split
  · have hstmts : ((p.methodDecl m).append p.stmts.nextId stmt).stmts.toList =
        (p.methodDecl m).stmts.toList ++ [p.stmts.nextId] := Array.toList_push
    rw [hstmts, List.filterMap_append, hold]
    cases hr : stmt.returned? with
    | none =>
      rw [MethodDecl.returns_append_of_none hr]
      simp [hnew, hr, h.returns m]
    | some v =>
      have hmem : v ∈ (p.methodDecl m).returns ↔
          v ∈ (p.methodDecl m).stmts.toList.filterMap fun s => (p.stmt s).returned? := by
        rw [← Array.mem_toList_iff, h.returns m, List.mem_eraseDups]
      have hone : [p.stmts.nextId].filterMap (fun s => ((p.pushStmt i stmt).stmt s).returned?) =
          [v] := by
        simp [hnew, hr]
      rw [MethodDecl.returns_append_of_some hr, hone, eraseDups_concat]
      by_cases hv : v ∈ (p.methodDecl m).returns
      · rw [if_pos hv, if_pos (hmem.mp hv), h.returns m]
      · rw [if_neg hv, if_neg fun hw => hv (hmem.mpr hw), Array.toList_push, h.returns m]
  · rw [hold]
    exact h.returns m

/-- The new statement is the last one of its body. -/
theorem Placed.position_pushStmt (h : p.Placed) (hp : p.Counted) {i : MethodId}
    (hi : p.methods.Holds i) (stmt : Stmt) {s : StmtId} (hs : (p.pushStmt i stmt).stmts.Holds s) :
    ((p.pushStmt i stmt).methodDecl ((p.pushStmt i stmt).container s)).stmts[
      (p.pushStmt i stmt).position s]? = some s := by
  have hbody (m : MethodId) : ((p.pushStmt i stmt).methodDecl m).stmts =
      if i = m then (p.methodDecl m).stmts.push p.stmts.nextId else (p.methodDecl m).stmts := by
    rw [methodDecl_pushStmt hp hi]
    split <;> rfl
  rw [container, Program.position, place_pushStmt hp, hbody]
  split
  · next hnew => rw [if_pos rfl, Array.getElem?_push_size, hnew]
  · next hne =>
    have hpos := h.position ((holds_stmt_pushStmt.mp hs).resolve_right hne)
    rw [container, Program.position] at hpos
    split
    · obtain ⟨hlt, -⟩ := Array.getElem?_eq_some_iff.mp hpos
      rw [Array.getElem?_push, if_neg (Nat.ne_of_lt hlt)]
      exact hpos
    · exact hpos

theorem Placed.pushStmt (h : p.Placed) (hp : p.Counted) {i : MethodId} (hi : p.methods.Holds i)
    {stmt : Stmt} (hvars : ∀ v ∈ stmt.vars, p.vars.Holds v) : (p.pushStmt i stmt).Placed := by
  have hold {s : StmtId} (hs : p.stmts.Holds s) : (p.pushStmt i stmt).stmt s = p.stmt s ∧
      (p.pushStmt i stmt).container s = p.container s := by
    have hne : s ≠ p.stmts.nextId := fun he => Table.not_holds_nextId (he ▸ hs)
    rw [stmt_pushStmt, container_pushStmt hp, if_neg hne, if_neg hne]
    exact ⟨rfl, rfl⟩
  have hnew : (p.pushStmt i stmt).stmt p.stmts.nextId = stmt ∧
      (p.pushStmt i stmt).container p.stmts.nextId = i := by
    rw [stmt_pushStmt, container_pushStmt hp, if_pos rfl, if_pos rfl]
    exact ⟨rfl, rfl⟩
  refine { body := fun m => ?_, position := h.position_pushStmt hp hi stmt, calls := fun m => ?_
           uses := fun v u => ?_, returns := h.returns_pushStmt hp hi stmt }
  · have hpush := (h.body m).push (Q := fun s => (p.pushStmt i stmt).container s = m) stmt
      fun s hs => by rw [(hold hs).2]
    simp only [decide_eq_true_eq, hnew.2] at hpush
    rw [stmts_pushStmt, methodDecl_pushStmt hp hi, apply_ite MethodDecl.stmts]
    exact hpush
  · have hpush := (h.calls m).push (Q := fun s => ((p.pushStmt i stmt).stmt s).call?.isSome ∧
      (p.pushStmt i stmt).container s = m) stmt fun s hs => by rw [(hold hs).1, (hold hs).2]
    simp only [decide_eq_true_eq, hnew.1, hnew.2] at hpush
    have hcalls : ((p.pushStmt i stmt).methodDecl m).calls =
        if stmt.call?.isSome ∧ i = m then (p.methodDecl m).calls.push p.stmts.nextId
        else (p.methodDecl m).calls := by
      rw [methodDecl_pushStmt hp hi]
      by_cases him : i = m <;> by_cases hcall : stmt.call?.isSome <;>
        simp [him, hcall, MethodDecl.append]
    rw [stmts_pushStmt, hcalls]
    exact hpush
  · have hpush := (h.uses v u).push
      (Q := fun s => ((p.pushStmt i stmt).stmt s).use? = some (v, u)) stmt
      fun s hs => by rw [(hold hs).1]
    simp only [decide_eq_true_eq, hnew.1] at hpush
    rw [stmts_pushStmt, (varDecl_pushStmt hp hvars v).1]
    exact hpush

theorem Edit.placed (he : Edit p q) (h : p.Placed) : q.Placed := by
  rcases he.sameBodies_or with hs | ⟨m, stmt, hp, hm, hcheck, rfl⟩
  · exact h.congr hs
  · exact h.pushStmt hp hm fun v hv => ((checkStmt_ok hcheck).1 v hv).1

theorem Edits.placed (h : Edits {} p) : p.Placed :=
  h.invariant (fun _ _ he => he.placed) placed_empty

namespace Placed

variable (h : p.Placed)
include h

theorem mem_body {s : StmtId} :
    s ∈ (p.methodDecl m).stmts ↔ p.stmts.Holds s ∧ p.container s = m := by
  rw [(h.body m).mem_iff, decide_eq_true_eq]

theorem mem_calls {s : StmtId} :
    s ∈ (p.methodDecl m).calls ↔ (p.stmt s).call?.isSome ∧ p.container s = m := by
  rw [(h.calls m).mem_iff, decide_eq_true_eq]
  refine and_iff_right_of_imp fun hs => holds_of_stmt_ne fun hr => ?_
  rw [hr] at hs
  cases hs.1

theorem mem_uses {v : VarId} {u : Use} {s : StmtId} :
    s ∈ (p.varDecl v).uses u ↔ (p.stmt s).use? = some (v, u) := by
  rw [(h.uses v u).mem_iff, decide_eq_true_eq]
  refine and_iff_right_of_imp fun hs => holds_of_stmt_ne fun hr => ?_
  rw [hr] at hs
  cases hs

theorem mem_returns {v : VarId} :
    v ∈ (p.methodDecl m).returns ↔ ∃ s, p.stmt s = .ret (some v) ∧ p.container s = m := by
  have hreturned (s : StmtId) : (p.stmt s).returned? = some v ↔ p.stmt s = .ret (some v) := by
    cases p.stmt s <;> simp [Stmt.returned?]
  rw [← Array.mem_toList_iff, h.returns m, List.mem_eraseDups, List.mem_filterMap]
  simp only [Array.mem_toList_iff, h.mem_body, hreturned]
  constructor
  · intro hs
    obtain ⟨s, ⟨-, hm⟩, hs⟩ := hs
    exact ⟨s, hs, hm⟩
  · intro hs
    obtain ⟨s, hs, hm⟩ := hs
    refine ⟨s, ⟨holds_of_stmt_ne ?_, hm⟩, hs⟩
    rw [hs]
    simp

end Placed

end Program

end PointsTo
