import PointsTo.Proofs.Precision
import PointsTo.Proofs.Trails

namespace PointsTo.Propagation

namespace State

/-- Where objects arrive next, with those of them that are new there. -/
def delivery? (s : State) : Option (PointerId × ObjSet) :=
  match s.agenda, s.queue.pop? with
  | [], some ((x, set), _) => some (x, ((s.store.pointees x).absorb set).1)
  | _, _ => none

/-- The method that becomes reachable next. -/
def entering? (s : State) : Option CtxMethod :=
  match s.agenda with
  | .enter m :: _ => if s.calls.contains m then none else some m
  | _ => none

end State

/-- The objects that were new to a pointer in some steps, for each step where there were any. -/
def deltas (l : List State) (x : PointerId) : List ObjSet :=
  ((l.filterMap State.delivery?).filter fun d => d.1 = x && !d.2.isEmpty).map Prod.snd

/-- The tasks that were done in some steps. -/
def performed (l : List State) : List Task := l.filterMap (·.agenda.head?)

/-- The tasks that were done in some steps, and those that wait after them. -/
def work (l : List State) (s : State) : List Task := performed l ++ s.agenda

/-- The methods that became reachable in some steps. -/
def entered (l : List State) : List CtxMethod := l.filterMap State.entering?

/-- The statement of a method, in its context, that a task looks at. -/
def Task.stmtOf? (p : Program) (m : CtxMethod) : Task → Option StmtId
  | exec c st => if c = m.context ∧ p.container st = m.id then some st else none
  | _ => none

/-- The object that a task uses a variable on. -/
def Task.objectOf? (v : CtxVar) : Task → Option CtxObjId
  | receive w o => if w = v then some o else none
  | _ => none

/-- The statements of a method that were looked at in some steps. -/
def executed (p : Program) (l : List State) (m : CtxMethod) : List StmtId :=
  (performed l).filterMap (Task.stmtOf? p m)

/-- The objects that a variable was used on in some steps. -/
def received (l : List State) (v : CtxVar) : List CtxObjId :=
  (performed l).filterMap (Task.objectOf? v)

variable {p : Program} {π : Policy} {entry : MethodId} {s s' : State} {l : List State}

section Observations

variable {t : Task} {agenda tasks : List Task} {x : PointerId} {set : ObjSet}
  {queue : Queue (PointerId × ObjSet)}

theorem deltas_of_perform (ha : s.agenda = t :: agenda) (x : PointerId) :
    deltas (l ++ [s]) x = deltas l x := by
  have hnone : s.delivery? = none := by simp [State.delivery?, ha]
  simp [deltas, hnone]

theorem deltas_of_deliver (ha : s.agenda = []) (hq : s.queue.pop? = some ((x, set), queue))
    (y : PointerId) : deltas (l ++ [s]) y = deltas l y ++
      if x = y ∧ ¬((s.store.pointees x).missing set).isEmpty then [(s.store.pointees x).missing set]
      else [] := by
  have hsome : s.delivery? = some (x, (s.store.pointees x).missing set) := by
    simp [State.delivery?, ha, hq, ObjSet.absorb]
  simp only [deltas, List.filterMap_append, List.filterMap_cons, hsome, List.filterMap_nil,
    List.filter_append, List.map_append, List.filter_cons, List.filter_nil]
  congr 1
  by_cases hnew : x = y ∧ ¬((s.store.pointees x).missing set).isEmpty
  · rw [if_pos hnew, if_pos (by simpa using hnew)]
    rfl
  · rw [if_neg hnew, if_neg (by simpa using hnew)]
    rfl

theorem performed_of_perform (ha : s.agenda = t :: agenda) :
    performed (l ++ [s]) = performed l ++ [t] := by
  simp [performed, ha]

/-- The tasks that are done or wait, when a task has been done and has planned others. -/
theorem work_of_perform (ha : s.agenda = t :: agenda) (ha' : s'.agenda = tasks ++ agenda) :
    work (l ++ [s]) s' = performed l ++ t :: (tasks ++ agenda) := by
  rw [work, performed_of_perform ha, ha', List.append_assoc, List.singleton_append]

/-- The tasks that are done or wait, when objects have arrived. -/
theorem work_of_deliver (ha : s.agenda = []) :
    work (l ++ [s]) (State.arrive { s with queue } x set) =
      work l s ++ s.arrivalTasks x ((s.store.pointees x).missing set) := by
  have hperformed : performed (l ++ [s]) = performed l := by simp [performed, ha]
  have hagenda : (State.arrive { s with queue } x set).agenda =
      s.arrivalTasks x ((s.store.pointees x).missing set) ++ s.agenda :=
    State.agenda_arrive { s with queue } x set
  rw [work, work, hperformed, hagenda, ha, List.append_nil, List.append_nil]

variable {α : Type} {f : Task → Option α}

theorem filterMap_work_of_perform (ha : s.agenda = t :: agenda) (ha' : s'.agenda = tasks ++ agenda)
    (htasks : tasks.filterMap f = []) :
    (work (l ++ [s]) s').filterMap f = (work l s).filterMap f := by
  rw [work_of_perform ha ha', work, ha]
  simp only [List.filterMap_append, List.filterMap_cons, htasks, List.nil_append]

/-- If there was nothing of a kind before, then all there is of it has just been planned. -/
theorem filterMap_work_of_fresh (ha : s.agenda = t :: agenda) (ha' : s'.agenda = tasks ++ agenda)
    (hfresh : (work l s).filterMap f = []) :
    (work (l ++ [s]) s').filterMap f = tasks.filterMap f := by
  rw [work, ha, List.filterMap_append, List.append_eq_nil_iff, List.filterMap_eq_nil_iff,
    List.filterMap_eq_nil_iff] at hfresh
  have hdone : (performed l).filterMap f = [] := List.filterMap_eq_nil_iff.mpr hfresh.1
  have hwaits : agenda.filterMap f = [] :=
    List.filterMap_eq_nil_iff.mpr fun a h => hfresh.2 a (List.mem_cons_of_mem t h)
  rw [work_of_perform ha ha', List.filterMap_append, hdone, List.nil_append,
    List.filterMap_cons_none (hfresh.2 t List.mem_cons_self), List.filterMap_append, hwaits,
    List.append_nil]

end Observations

section Objects

/-- No task changes what a pointer points to. -/
theorem pointees_perform {t : Task} {agenda : List Task} (hs : s.Valid p)
    (ha : s.agenda = t :: agenda) (h : State.perform p π { s with agenda } t = .ok s')
    (x : PointerId) (o : CtxObjId) :
    (s'.store.pointees x).contains o ↔ (s.store.pointees x).contains o := by
  obtain ⟨hs₀, ht⟩ := hs.popTask ha
  have hE := (State.effect_perform hs₀ ht h).1
  constructor
  · intro hx
    have hfact : .pts (s'.store.place x) (s'.store.heapObj o) ∈ s'.facts := ⟨x, o, hx, rfl, rfl⟩
    obtain ⟨y, u, hy, hyx, huo⟩ := (hE.facts_pts _ _).mp hfact
    have hyh := hs.holds_of_pointee hy
    have huh := hs.store.member hy
    have hplace := (hE.store.place hs.store hyh).trans hyx
    have hobj := (hE.store.heapObj hs.store huh).trans huo
    have hxy := hE.valid.store.place_injective (hE.store.pointers.holds hyh)
      (hE.valid.holds_of_pointee hx) hplace
    have hou := hE.valid.store.heapObj_injective (hE.store.ctxObjects.holds huh)
      (hE.valid.store.member hx) hobj
    rw [← hxy, ← hou]
    exact hy
  · exact (Move.within hs (.perform ha h)).pointees

/-- What a pointer points to after objects have arrived. -/
theorem pointees_deliver {x : PointerId} {set : ObjSet} {queue : Queue (PointerId × ObjSet)}
    (hs : s.Valid p) (hq : s.queue.pop? = some ((x, set), queue)) (y : PointerId) (o : CtxObjId) :
    ((State.arrive { s with queue } x set).store.pointees y).contains o ↔
      (s.store.pointees y).contains o ∨ x = y ∧ ((s.store.pointees x).missing set).contains o := by
  by_cases hempty : ((s.store.pointees x).missing set).isEmpty
  · rw [State.arrive_of_known (s := { s with queue }) hempty, ObjSet.isEmpty_iff.mp hempty o]
    simp
  · obtain ⟨queue', events, he, -⟩ := State.arrive_of_new (s := { s with queue }) hempty
    have hx : s.store.pointers.values.Holds x :=
      (hs.popEntry (.of_eq (Queue.toList_of_pop? hq))).2.1
    rw [he, AbstractStore.pointees_setPointees hs.store hx]
    by_cases hxy : x = y
    · subst hxy
      simp only [if_pos, ObjSet.contains_union, ObjSet.contains_missing]
      cases (s.store.pointees x).contains o <;> simp
    · simp [hxy]

/-- A pointer points to exactly the objects that were new to it at some step. -/
theorem mem_pointees_iff (h : Step.Trail (step p π) (start π entry) l s) (x : PointerId)
    (o : CtxObjId) : (s.store.pointees x).contains o ↔ ∃ d ∈ deltas l x, d.contains o := by
  induction h with
  | start =>
    have hempty : (start π entry).store.pointees x = .empty := rfl
    simp [hempty, deltas]
  | @next l s₁ s₂ hprev hstep ih =>
    have hs := valid_of_trail hprev
    cases step_case hstep with
    | perform ha h => rw [pointees_perform hs ha h, deltas_of_perform ha, ih]
    | @deliver y set queue ha hq h =>
      rw [h, pointees_deliver hs hq, deltas_of_deliver ha hq, ih]
      simp only [List.mem_append, or_and_right, exists_or]
      refine or_congr_right ?_
      split
      · next hnew => simp [hnew.1]
      · next hnew =>
        simp only [List.not_mem_nil, false_and, exists_false, iff_false, not_and, Bool.not_eq_true]
        intro hyx
        have hempty : ((s₁.store.pointees y).missing set).isEmpty := by
          by_contra hne
          exact hnew ⟨hyx, hne⟩
        exact ObjSet.isEmpty_iff.mp hempty o

/-- An object is new to a pointer at one step only. -/
theorem disjoint_deltas (h : Step.Trail (step p π) (start π entry) l s) (x : PointerId) :
    (deltas l x).Pairwise fun d d' => ∀ o, d.contains o → ¬d'.contains o := by
  induction h with
  | start => exact .nil
  | @next l s₁ s₂ hprev hstep ih =>
    cases step_case hstep with
    | perform ha h =>
      rw [deltas_of_perform ha]
      exact ih
    | @deliver y set queue ha hq h =>
      rw [deltas_of_deliver ha hq]
      split
      · next hnew =>
        refine List.pairwise_append.mpr ⟨ih, List.pairwise_singleton _ _, ?_⟩
        intro d hd d' hd' o ho
        rw [List.mem_singleton.mp hd', ObjSet.contains_missing, hnew.1]
        rw [(mem_pointees_iff hprev x o).mpr ⟨d, hd, ho⟩]
        simp
      · rw [List.append_nil]
        exact ih

end Objects

section Methods

theorem reachable_start (π : Policy) (entry : MethodId) :
    (start π entry).calls.reachable = #[] := by
  obtain ⟨entries, hcalls⟩ := calls_start π entry
  rw [hcalls]

/-- Methods are listed as reachable in the order in which they are entered. -/
theorem entered_eq (h : Step.Trail (step p π) (start π entry) l s) :
    entered l = s.calls.reachable.toList := by
  induction h with
  | start =>
    rw [reachable_start]
    rfl
  | @next l s₁ s₂ hprev hstep ih =>
    have hlast (m? : Option CtxMethod) (hm : s₁.entering? = m?) :
        entered (l ++ [s₁]) = s₁.calls.reachable.toList ++ m?.toList := by
      rw [← ih, entered, List.filterMap_append, ← entered]
      cases m? <;> simp [hm]
    cases step_case hstep with
    | @perform t agenda ha h =>
      cases State.plans_perform h with
      | @body m hm hr ha' =>
        have hnew : s₁.entering? = some m := by
          rw [State.entering?, ha]
          exact if_neg hm
        rw [hlast _ hnew, hr, Array.toList_push]
        rfl
      | other ht hr ha' htasks =>
        have hold : s₁.entering? = none := by
          rw [State.entering?, ha]
          cases t with
          | enter m => exact if_pos (ht m rfl)
          | _ => rfl
        rw [hlast _ hold, hr]
        exact List.append_nil _
    | @deliver x set queue ha hq h =>
      have hold : s₁.entering? = none := by rw [State.entering?, ha]
      rw [hlast _ hold, h, State.calls_arrive]
      exact List.append_nil _

/-- The tasks for the statements of a method. -/
def bodyTasks (p : Program) (m : CtxMethod) : List Task :=
  (p.methodDecl m.id).stmts.toList.map (.exec m.context)

theorem stmtOf?_bodyTasks_self (hwf : p.WellFormed) (m : CtxMethod) :
    (bodyTasks p m).filterMap (Task.stmtOf? p m) = (p.methodDecl m.id).stmts.toList := by
  rw [bodyTasks, List.filterMap_map]
  refine (List.filterMap_congr fun st hst => ?_).trans List.filterMap_some
  have hcontainer := (hwf.body.mp (Array.mem_toList_iff.mp hst)).2
  exact if_pos ⟨rfl, hcontainer⟩

theorem stmtOf?_bodyTasks_of_ne (hwf : p.WellFormed) {m n : CtxMethod} (h : m ≠ n) :
    (bodyTasks p n).filterMap (Task.stmtOf? p m) = [] := by
  rw [bodyTasks, List.filterMap_map, List.filterMap_eq_nil_iff]
  intro st hst
  have hcontainer := (hwf.body.mp (Array.mem_toList_iff.mp hst)).2
  refine if_neg fun hboth => h (Qualified.ext hboth.1.symm ?_)
  exact hboth.2.symm.trans hcontainer

theorem stmtOf?_of_leads {m : CtxMethod} {tasks : List Task} (h : ∀ t ∈ tasks, t.Leads) :
    tasks.filterMap (Task.stmtOf? p m) = [] := by
  rw [List.filterMap_eq_nil_iff]
  intro t ht
  cases t with
  | exec => exact (h _ ht).elim
  | _ => rfl

theorem stmtOf?_arrivalTasks (m : CtxMethod) (s : State) (x : PointerId) (delta : ObjSet) :
    (s.arrivalTasks x delta).filterMap (Task.stmtOf? p m) = [] := by
  rw [State.arrivalTasks]
  cases s.store.pointer x with
  | var v =>
    rw [List.filterMap_map, List.filterMap_eq_nil_iff]
    exact fun o _ => rfl
  | _ => rfl

/-- The statements of a method that are looked at, or are about to be, are all of its statements in
their order if the method is reachable, and none otherwise. -/
theorem stmtOf?_work (hwf : p.WellFormed) (h : Step.Trail (step p π) (start π entry) l s)
    (m : CtxMethod) :
    (m ∈ s.calls.reachable →
      (work l s).filterMap (Task.stmtOf? p m) = (p.methodDecl m.id).stmts.toList) ∧
    (m ∉ s.calls.reachable → (work l s).filterMap (Task.stmtOf? p m) = []) := by
  induction h with
  | start =>
    rw [reachable_start]
    exact ⟨fun hm => (Array.not_mem_empty m hm).elim, fun _ => rfl⟩
  | @next l s₁ s₂ hprev hstep ih =>
    cases step_case hstep with
    | @perform t agenda ha h =>
      cases State.plans_perform h with
      | other ht hr ha' htasks =>
        rw [filterMap_work_of_perform ha ha' (stmtOf?_of_leads htasks), hr]
        exact ih
      | @body n hn hr ha' =>
        rw [hr, Array.mem_push]
        by_cases hmn : m = n
        · -- the method is entered now, so that none of its statements was planned before
          subst hmn
          have hfresh : m ∉ s₁.calls.reachable :=
            fun hmem => hn (((valid_of_trail hprev).calls m).mpr hmem)
          rw [filterMap_work_of_fresh ha ha' (ih.2 hfresh)]
          exact ⟨fun _ => stmtOf?_bodyTasks_self hwf m, fun hm => (hm (.inr rfl)).elim⟩
        · rw [filterMap_work_of_perform ha ha' (stmtOf?_bodyTasks_of_ne hwf hmn)]
          exact ⟨fun hm => ih.1 (hm.resolve_right hmn), fun hm => ih.2 fun hold => hm (.inl hold)⟩
    | @deliver x set queue ha hq h =>
      rw [h, work_of_deliver ha, List.filterMap_append, stmtOf?_arrivalTasks, List.append_nil,
        State.calls_arrive]
      exact ih

end Methods

section Variables

/-- A variable points to an object. -/
def State.VarPoints (s : State) (v : CtxVar) (o : CtxObjId) : Prop :=
  ∃ x, s.store.findPointer? (.var v) = some x ∧ (s.store.pointees x).contains o

theorem objectOf?_of_leads {v : CtxVar} {tasks : List Task} (h : ∀ t ∈ tasks, t.Leads) :
    tasks.filterMap (Task.objectOf? v) = [] := by
  rw [List.filterMap_eq_nil_iff]
  intro t ht
  cases t with
  | receive => exact (h _ ht).elim
  | _ => rfl

theorem objectOf?_bodyTasks (v : CtxVar) (m : CtxMethod) :
    (bodyTasks p m).filterMap (Task.objectOf? v) = [] := by
  rw [bodyTasks, List.filterMap_map, List.filterMap_eq_nil_iff]
  exact fun st _ => rfl

theorem objectOf?_arrivalTasks_self {v : CtxVar} {x : PointerId}
    (hx : s.store.pointer x = .var v) (delta : ObjSet) :
    (s.arrivalTasks x delta).filterMap (Task.objectOf? v) = delta.toList := by
  simp only [State.arrivalTasks, hx, List.filterMap_map]
  refine (List.filterMap_congr fun o _ => ?_).trans List.filterMap_some
  exact if_pos rfl

theorem objectOf?_arrivalTasks_of_ne {v : CtxVar} {x : PointerId}
    (hx : s.store.pointer x ≠ .var v) (delta : ObjSet) :
    (s.arrivalTasks x delta).filterMap (Task.objectOf? v) = [] := by
  rw [State.arrivalTasks]
  cases hw : s.store.pointer x with
  | var w =>
    rw [List.filterMap_map, List.filterMap_eq_nil_iff]
    intro o _
    refine if_neg fun hwv : w = v => hx ?_
    rw [hw, hwv]
  | _ => rfl

/-- Doing a task does not change what a variable points to. -/
theorem varPoints_perform {t : Task} {agenda : List Task} (hs : s.Valid p)
    (ha : s.agenda = t :: agenda) (h : State.perform p π { s with agenda } t = .ok s') {v : CtxVar}
    {o : CtxObjId} : s'.VarPoints v o ↔ s.VarPoints v o := by
  have hE := (Move.within hs (.perform ha h)).store
  simp only [State.VarPoints, AbstractStore.findPointer?_eq_some]
  refine exists_congr fun x => ?_
  rw [pointees_perform hs ha h]
  refine and_congr_left fun ho => ?_
  have hx := Table.get?_of_holds (hs.holds_of_pointee ho)
  rw [hx, hE.pointers x _ hx]

theorem varPoints_deliver {x : PointerId} {set : ObjSet} {queue : Queue (PointerId × ObjSet)}
    (hs : s.Valid p) (hq : s.queue.pop? = some ((x, set), queue)) {v : CtxVar} {o : CtxObjId} :
    (State.arrive { s with queue } x set).VarPoints v o ↔ s.VarPoints v o ∨
      s.store.pointer x = .var v ∧ ((s.store.pointees x).missing set).contains o := by
  have hx := Table.get?_of_holds (hs.popEntry (.of_eq (Queue.toList_of_pop? hq))).2.1
  have hpointer : s.store.findPointer? (.var v) = some x ↔ s.store.pointer x = .var v := by
    rw [AbstractStore.findPointer?_eq_some, hx, Option.some.injEq]
    rfl
  obtain ⟨sets, hstore⟩ := store_arrive { s with queue } x set
  have hfind : (State.arrive { s with queue } x set).store.findPointer? (.var v) =
      s.store.findPointer? (.var v) := by
    rw [hstore]
    rfl
  simp only [State.VarPoints, hfind, pointees_deliver hs hq, ← hpointer]
  constructor
  · rintro ⟨y, hy, ho | ⟨rfl, ho⟩⟩
    · exact .inl ⟨y, hy, ho⟩
    · exact .inr ⟨hy, ho⟩
  · rintro (⟨y, hy, ho⟩ | ⟨hy, ho⟩)
    · exact ⟨y, hy, .inl ho⟩
    · exact ⟨x, hy, .inr ⟨rfl, ho⟩⟩

/-- A variable is used on an object, or is about to be, if and only if it points to it, and on no
object twice. -/
theorem objectOf?_work (h : Step.Trail (step p π) (start π entry) l s) (v : CtxVar) :
    ((work l s).filterMap (Task.objectOf? v)).Nodup ∧
    ∀ o, o ∈ (work l s).filterMap (Task.objectOf? v) ↔ s.VarPoints v o := by
  induction h with
  | start =>
    have hnone : (work [] (start π entry)).filterMap (Task.objectOf? v) = [] := rfl
    rw [hnone]
    refine ⟨List.nodup_nil, fun o => ⟨fun ho => (List.not_mem_nil ho).elim, ?_⟩⟩
    rintro ⟨x, hx, -⟩
    rw [AbstractStore.findPointer?_eq_some] at hx
    cases hx
  | @next l s₁ s₂ hprev hstep ih =>
    have hs := valid_of_trail hprev
    cases step_case hstep with
    | @perform t agenda ha h =>
      have hwork : (work (l ++ [s₁]) s₂).filterMap (Task.objectOf? v) =
          (work l s₁).filterMap (Task.objectOf? v) := by
        cases State.plans_perform h with
        | other ht hr ha' htasks =>
          exact filterMap_work_of_perform ha ha' (objectOf?_of_leads htasks)
        | body hn hr ha' => exact filterMap_work_of_perform ha ha' (objectOf?_bodyTasks v _)
      rw [hwork]
      simp only [varPoints_perform hs ha h]
      exact ih
    | @deliver x set queue ha hq h =>
      subst h
      simp only [work_of_deliver ha, List.filterMap_append, varPoints_deliver hs hq]
      by_cases hx : s₁.store.pointer x = .var v
      · rw [objectOf?_arrivalTasks_self hx]
        refine ⟨List.nodup_append.mpr ⟨ih.1, ObjSet.nodup_toList _, ?_⟩, fun o => ?_⟩
        · intro o ho o' ho' heq
          subst heq
          obtain ⟨y, hy, hold⟩ := (ih.2 o).mp ho
          rw [ObjSet.mem_toList, ObjSet.contains_missing, Bool.and_eq_true, Bool.not_eq_true']
            at ho'
          have hxh := Table.get?_of_holds (hs.popEntry (.of_eq (Queue.toList_of_pop? hq))).2.1
          have hxv : s₁.store.findPointer? (.var v) = some x :=
            AbstractStore.findPointer?_eq_some.mpr (hxh.trans (congrArg some hx))
          rw [Option.some.inj (hy.symm.trans hxv), ho'.2] at hold
          cases hold
        · rw [List.mem_append, ih.2, ObjSet.mem_toList]
          simp [hx]
      · rw [objectOf?_arrivalTasks_of_ne hx, List.append_nil]
        simp only [hx, false_and, or_false]
        exact ih

end Variables

/-- A state in which nothing is left to do is the last one of its run. -/
theorem step_of_idle (ha : s.agenda = []) (hq : s.queue.toList = []) :
    step p π s = .halt (none, s) := by
  rw [step, ha]
  cases hpop : s.queue.pop? with
  | none => rfl
  | some found =>
    rw [Queue.toList_of_pop? hpop] at hq
    cases hq

theorem executed_append (p : Program) (l : List State) (s : State) (m : CtxMethod) :
    (work l s).filterMap (Task.stmtOf? p m) =
      executed p l m ++ s.agenda.filterMap (Task.stmtOf? p m) :=
  List.filterMap_append

theorem received_append (l : List State) (s : State) (v : CtxVar) :
    (work l s).filterMap (Task.objectOf? v) =
      received l v ++ s.agenda.filterMap (Task.objectOf? v) :=
  List.filterMap_append

/-- The points that a run has gone through, and the one that it is at: nothing is lost, and nothing
is handled twice. -/
structure HandlesOnce (p : Program) (l : List State) (s : State) : Prop where
  monotone : (l ++ [s]).Pairwise State.Within
  disjoint (x : PointerId) :
    (deltas l x).Pairwise fun d d' => ∀ o, d.contains o → ¬d'.contains o
  pointees {x : PointerId} {o : CtxObjId} :
    (s.store.pointees x).contains o ↔ ∃ d ∈ deltas l x, d.contains o
  unrepeated (v : CtxVar) : (received l v).Nodup
  reachable : entered l = s.calls.reachable.toList
  nodup : (entered l).Nodup
  partly (m : CtxMethod) : executed p l m <+: (p.methodDecl m.id).stmts.toList
  unseen {m : CtxMethod} (h : m ∉ entered l) : executed p l m = []

/-- A run that has come to its end: all objects and all reachable bodies have been handled. -/
structure HandlesAll (p : Program) (π : Policy) (l : List State) (s : State) (r : Solution) :
    Prop where
  halts : step p π s = .halt (none, s)
  result : r = ⟨p, s.store, s.flow, s.calls⟩
  pointees {x : PointerId} {o : CtxObjId} :
    (r.store.pointees x).contains o ↔ ∃ d ∈ deltas l x, d.contains o
  objects {v : CtxVar} {o : CtxObjId} : o ∈ received l v ↔
    ∃ x, r.store.findPointer? (.var v) = some x ∧ (r.store.pointees x).contains o
  reachable : entered l = r.calls.reachable.toList
  bodies {m : CtxMethod} (h : m ∈ r.calls.reachable) :
    executed p l m = (p.methodDecl m.id).stmts.toList

theorem handlesOnce (hp : p.Finished) {entry : MethodId} {l : List State} {s : State}
    (h : Step.Trail (step p π) (start π entry) l s) : HandlesOnce p l s := by
  have hentered := entered_eq h
  have hplanned (m : CtxMethod) := stmtOf?_work hp.wellFormed h m
  simp only [executed_append] at hplanned
  constructor
  case monotone => exact within_of_trail h
  case disjoint => exact disjoint_deltas h
  case pointees => exact fun {x o} => mem_pointees_iff h x o
  case unrepeated =>
    intro v
    have hnodup := (objectOf?_work h v).1
    rw [received_append] at hnodup
    exact (List.nodup_append.mp hnodup).1
  case reachable => exact hentered
  case nodup =>
    rw [hentered]
    exact ((moves_of_reaches h.reaches).tracks hp.listed).nodup
  case partly =>
    intro m
    by_cases hm : m ∈ s.calls.reachable
    · rw [← (hplanned m).1 hm]
      exact List.prefix_append _ _
    · rw [(List.append_eq_nil_iff.mp ((hplanned m).2 hm)).1]
      exact List.nil_prefix
  case unseen =>
    intro m hm
    rw [hentered, Array.mem_toList_iff] at hm
    exact (List.append_eq_nil_iff.mp ((hplanned m).2 hm)).1

theorem handlesAll (hp : p.Finished) {r : Solution} (hr : (analyze p π).1 = .ok r) :
    ∃ entry l s, p.entry = some entry ∧ Step.Trail (step p π) (start π entry) l s ∧
      HandlesAll p π l s r := by
  obtain ⟨entry, s, he, hreaches, ha, hq, rfl⟩ := reaches_of_analyze hr
  obtain ⟨l, h⟩ := hreaches.exists_trail
  refine ⟨entry, l, s, he, h, step_of_idle ha hq, rfl, fun {x o} => mem_pointees_iff h x o,
    fun {v o} => ?_, entered_eq h, fun {m} hm => ?_⟩
  · have hobjects := (objectOf?_work h v).2 o
    rw [received_append, ha, List.filterMap_nil, List.append_nil] at hobjects
    exact hobjects
  · have hstmts := (stmtOf?_work hp.wellFormed h m).1 hm
    rw [executed_append, ha, List.filterMap_nil, List.append_nil] at hstmts
    exact hstmts

/-- Each object is handled once at each pointer, at every point of a run, and all of them are when
the analysis succeeds. -/
theorem each_object_once (hp : p.Finished) :
    (∀ entry l s, Step.Trail (step p π) (start π entry) l s → HandlesOnce p l s) ∧
    ∀ r, (analyze p π).1 = .ok r → ∃ entry l s, p.entry = some entry ∧
      Step.Trail (step p π) (start π entry) l s ∧ HandlesAll p π l s r :=
  ⟨fun _ _ _ h => handlesOnce hp h, fun _ hr => handlesAll hp hr⟩

/-- Without contexts the method is entered once, and its parameter gets both boxes. -/
theorem each_object_once_pairs : ∃ entry l s,
    Step.Trail (step Description.pairs.program .insensitive) (start .insensitive entry) l s ∧
    entered l = [⟨⟨0⟩, ⟨1⟩⟩, ⟨⟨0⟩, ⟨0⟩⟩] ∧
    executed Description.pairs.program l ⟨⟨0⟩, ⟨0⟩⟩ = [⟨0⟩] ∧
    (∃ d ∈ deltas l ⟨5⟩, d.contains ⟨0⟩) ∧ (∃ d ∈ deltas l ⟨5⟩, d.contains ⟨1⟩) ∧
    (received l ⟨⟨0⟩, ⟨1⟩⟩).Nodup ∧ ⟨0⟩ ∈ received l ⟨⟨0⟩, ⟨1⟩⟩ ∧ ⟨1⟩ ∈ received l ⟨⟨0⟩, ⟨1⟩⟩ := by
  obtain ⟨hrun, hok⟩ := each_object_once (π := .insensitive) Description.pairs_finished
  have hvalue : (analyze Description.pairs.program .insensitive).1.toOption.map (fun r =>
      decide (r.calls.reachable.toList = [⟨⟨0⟩, ⟨1⟩⟩, ⟨⟨0⟩, ⟨0⟩⟩] ∧
        (Description.pairs.program.methodDecl ⟨0⟩).stmts.toList = [⟨0⟩] ∧
        r.store.findPointer? (.var ⟨⟨0⟩, ⟨1⟩⟩) = some ⟨5⟩ ∧ (r.store.pointees ⟨5⟩).contains ⟨0⟩ ∧
        (r.store.pointees ⟨5⟩).contains ⟨1⟩)) = some true := by
    decide +kernel
  obtain ⟨r, hr, hfacts⟩ := exists_of_toOption_map hvalue
  obtain ⟨hreachable, hbody, hpointer, hfirst, hsecond⟩ := of_decide_eq_true hfacts
  obtain ⟨entry, l, s, -, htrail, hall⟩ := hok r hr
  refine ⟨entry, l, s, htrail, hall.reachable.trans hreachable, ?_, hall.pointees.mp hfirst,
    hall.pointees.mp hsecond, (hrun entry l s htrail).unrepeated _, ?_, ?_⟩
  · rw [hall.bodies (m := ⟨⟨0⟩, ⟨0⟩⟩) (by rw [← Array.mem_toList_iff, hreachable]; decide)]
    exact hbody
  · exact hall.objects.mpr ⟨⟨5⟩, hpointer, hfirst⟩
  · exact hall.objects.mpr ⟨⟨5⟩, hpointer, hsecond⟩

end PointsTo.Propagation
