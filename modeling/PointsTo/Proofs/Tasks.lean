import PointsTo.Proofs.Effects

namespace PointsTo

/-- The flow that an access through a variable in context `c` calls for on an object. -/
def Stmt.accessFlow (c : Context) (o : HeapObj) : Stmt → Set Fact
  | .store _ f y => {.flow (.var c y) (.field o f)}
  | .load x _ f => {.flow (.field o f) (.var c x)}
  | .arrayStore _ _ y => {.flow (.var c y) (.array o)}
  | .arrayLoad x _ _ => {.flow (.array o) (.var c x)}
  | _ => ∅

/-- A statement that has nothing to say before an object reaches the variable that it goes through,
or nothing at all. -/
def Stmt.Waits : Stmt → Prop
  | load _ (some _) _ | store (some _) _ _ | arrayLoad .. | arrayStore .. | ret _ => True
  | invoke call => call.kind ≠ .static ∧ call.kind ≠ .dynamic
  | _ => False

/-- The statements that access a field or an element through a variable. -/
def VarDecl.accesses (d : VarDecl) : Array StmtId :=
  d.stores ++ d.loads ++ d.arrayStores ++ d.arrayLoads

/-- The flow from the arguments of a call in context `c` to the parameters of its callee. -/
def Program.argumentFlow (p : Program) (c : Context) (call : Call) (d : Context) (m : MethodId) :
    Set Fact :=
  {f | ∃ a ∈ call.args.zip (p.methodDecl m).params.toList, f = .flow (.var c a.1) (.var d a.2)}

/-- The flow from the returned variables of a callee to the result of a call in context `c`. -/
def Program.resultFlow (p : Program) (c : Context) (x : VarId) (d : Context) (m : MethodId) :
    Set Fact :=
  {f | ∃ v ∈ (p.methodDecl m).returns.toList, f = .flow (.var d v) (.var c x)}

namespace Chore

variable (p : Program) (π : Policy)

/-- The facts that a chore finds. -/
def asserts : Chore → Set Fact
  | enter c m => {.reach c m}
  | exec c s =>
    match p.stmt s with
    | .new x _ => {f | ∃ obj, p.objectAt s = .ok obj ∧ f = .pts (.var c x) ⟨π.forObject c, obj⟩}
    | .copy x y => {.flow (.var c y) (.var c x)}
    | .load x none f => {.flow (.static f) (.var c x)}
    | .store none f y => {.flow (.var c y) (.static f)}
    | .invoke call => {f | call.kind = .static ∧ ∃ callee, p.calleeAt none s = .ok callee ∧
        f = .call .static c s (π.forStaticCall c s) callee}
    | _ => ∅
  | bindCall c s d m => {f | ∃ call, p.stmt s = .invoke call ∧
      (f ∈ p.argumentFlow c call d m ∨ ∃ x, call.result = some x ∧ f ∈ p.resultFlow c x d m)}
  | receive c v o => {f | ∃ s ∈ (p.varDecl v).accesses.toList, f ∈ (p.stmt s).accessFlow c o}
  | invoke c s o => {f | ∃ call callee, p.stmt s = .invoke call ∧
      p.calleeAt (some o.obj.cls) s = .ok callee ∧
      ((∃ this, (p.methodDecl callee).this = some this ∧
          f = .pts (.var (π.calleeContext c s o) this) o) ∨
        f = .call call.kind c s (π.calleeContext c s o) callee)}

/-- The chores that a chore leads to by itself: a receiver is called on. -/
def follows : Chore → Set Chore
  | receive c v o => {ch | ∃ s ∈ (p.varDecl v).calls.toList, ch = .invoke c s o}
  | _ => ∅

/-- A chore for which the program has an object or a callee, where it needs one. -/
def Resolved : Chore → Prop
  | exec _ s =>
    (∀ x t, p.stmt s = .new x t → ∃ obj, p.objectAt s = .ok obj) ∧
    ∀ call, p.stmt s = .invoke call → call.kind ≠ .dynamic ∧
      (call.kind = .static → ∃ callee, p.calleeAt none s = .ok callee)
  | invoke _ s o => ∃ callee, p.calleeAt (some o.obj.cls) s = .ok callee
  | _ => True

variable {p π} {c : Context} {s : StmtId}

theorem asserts_of_waits (h : (p.stmt s).Waits) : (exec c s).asserts p π = ∅ := by
  rw [asserts]
  cases hst : p.stmt s with
  | load x b f => cases b <;> simp_all [Stmt.Waits]
  | store b f y => cases b <;> simp_all [Stmt.Waits]
  | _ => simp_all [Stmt.Waits]

theorem resolved_of_waits (h : (p.stmt s).Waits) : (exec c s).Resolved p := by
  constructor
  · intro x t hst
    rw [hst] at h
    exact h.elim
  · intro call hst
    rw [hst] at h
    exact ⟨h.2, fun hk => (h.1 hk).elim⟩

end Chore

/-- What is known of the object of an allocation site. -/
theorem Program.of_objectAt {p : Program} {s : StmtId} {o : Obj} (h : p.objectAt s = .ok o) :
    (∃ x name, p.stmt s = .new x o.type ∧ runtimeClassName? o.type = some name ∧
      p.findClass? name = some o.cls) ∧
    o.site = s ∧ o.containerClass = (p.methodDecl (p.container s)).cls := by
  rw [objectAt] at h
  split at h
  · next x t hs =>
    split at h
    · next name hn =>
      split at h
      · next cls hc =>
        cases h
        exact ⟨⟨x, name, hs, hn, hc⟩, rfl, rfl⟩
      · cases h
    · cases h
  · cases h

theorem Program.site_of_objectAt {p : Program} {s : StmtId} {o : Obj} (h : p.objectAt s = .ok o) :
    o.site = s :=
  (of_objectAt h).2.1

theorem Program.callAt_eq_ok {p : Program} {s : StmtId} {call : Call} :
    p.callAt s = .ok call ↔ p.stmt s = .invoke call := by
  rw [callAt]
  cases hs : p.stmt s <;> simp [Stmt.call?]

namespace Propagation.State

variable {p : Program} {π : Policy} {s s' : State}

theorem effect_foldl {α : Type} (hs : s.Valid p) (l : List α) (op : State → α → State)
    (C : α → Set Fact)
    (h : ∀ s', s'.Valid p → s'.store.Extends s.store → ∀ a ∈ l, Effect p s' (op s' a) (C a) ∅) :
    Effect p s (l.foldl op s) {f | ∃ a ∈ l, f ∈ C a} ∅ := by
  induction l generalizing s with
  | nil =>
    have hC : {f | ∃ a ∈ ([] : List α), f ∈ C a} = ∅ := by ext f; simp
    rw [hC]
    exact .refl hs
  | cons a l ih =>
    have ha := h s hs (.refl _) a List.mem_cons_self
    have hl := ih ha.valid fun s' hs' hE b hb =>
      h s' hs' (hE.trans ha.store) b (List.mem_cons_of_mem a hb)
    have hC : {f | ∃ b ∈ a :: l, f ∈ C b} = C a ∪ {f | ∃ b ∈ l, f ∈ C b} := by ext f; simp
    have hE := ha.trans hl
    rw [Set.empty_union] at hE
    rw [hC]
    exact hE

theorem internObject_grows (hs : s.store.Valid p) {h : ContextId} {o : Obj}
    (hh : s.store.contexts.values.Holds h) (ho : p.objectAt o.site = .ok o) :
    (s.internObject h o).2.store.Grows p s.store ∧
      (s.internObject h o).2.store.ctxObjects.values.Holds (s.internObject h o).1 ∧
      (s.internObject h o).2.store.heapObj (s.internObject h o).1 = ⟨s.store.context h, o⟩ := by
  let A := (s.store.internObject o).2
  let i := (s.store.internObject o).1
  have hA : A.Grows p s.store := AbstractStore.internObject_grows hs ho
  have hi : A.objects.values.get? i = some o := AbstractStore.object_internObject hs ho
  have hB : (A.internCtxObject ⟨h, i⟩).2.Grows p A :=
    AbstractStore.internCtxObject_grows hA.valid (hA.contexts.holds hh) (Table.holds_of_get? hi)
  refine ⟨hB.trans hA, AbstractStore.holds_internCtxObject _, ?_⟩
  have hq : (A.internCtxObject ⟨h, i⟩).2.ctxObject (A.internCtxObject ⟨h, i⟩).1 = ⟨h, i⟩ :=
    AbstractStore.ctxObject_internCtxObject _
  have hobj : (A.internCtxObject ⟨h, i⟩).2.object i = o := Table.get_of_get? (hB.objects i o hi)
  have hheap : (A.internCtxObject ⟨h, i⟩).2.context h = s.store.context h :=
    (hB.trans hA).context hh
  change AbstractStore.heapObj (A.internCtxObject ⟨h, i⟩).2 (A.internCtxObject ⟨h, i⟩).1 = _
  rw [AbstractStore.heapObj, AbstractStore.heapContextOf, AbstractStore.objectOf, hq, hobj, hheap]

/-- Sends an object to a pointer that may be new. -/
theorem effect_sendTo (hs : s.Valid p) {x : Pointer} (hx : s.store.HasPointer x) {u : CtxObjId}
    (hu : s.store.ctxObjects.values.Holds u) :
    Effect p s ((s.internPointer x).2.send (s.internPointer x).1 (.singleton u))
      {.pts (s.store.location x) (s.store.heapObj u)} ∅ := by
  have hG : (s.internPointer x).2.store.Grows p s.store :=
    AbstractStore.internPointer_grows hs.store hx
  have hE : Effect p s (s.internPointer x).2 ∅ ∅ := effect_grows hs hG
  have h := effect_send hE.valid (AbstractStore.holds_internPointer x) (hG.ctxObjects.holds hu)
  rw [hG.heapObj hs.store hu] at h
  rw [← AbstractStore.place_internPointer hs.store hx]
  exact hE.after h

/-- Sends an object, numbered in its heap context, to a variable. -/
def allocate (s : State) (c : ContextId) (v : VarId) (h : Context) (o : Obj) : State :=
  let r := (s.internContext h).2.internObject (s.internContext h).1 o
  (r.2.internPointer (.var ⟨c, v⟩)).2.send (r.2.internPointer (.var ⟨c, v⟩)).1 (.singleton r.1)

theorem effect_allocate (hs : s.Valid p) {c : ContextId} (hc : s.store.contexts.values.Holds c)
    {o : Obj} (ho : p.objectAt o.site = .ok o) (d : Context) (v : VarId) :
    Effect p s (s.allocate c v d o) {.pts (.var (s.store.context c) v) ⟨d, o⟩} ∅ := by
  let r := (s.internContext d).2.internObject (s.internContext d).1 o
  have h₁ : (s.internContext d).2.store.Grows p s.store :=
    AbstractStore.internContext_grows hs.store d
  obtain ⟨h₂, hr, hobj⟩ := internObject_grows h₁.valid
    (AbstractStore.holds_internContext d) ho
  have hobj : r.2.store.heapObj r.1 = ⟨d, o⟩ :=
    hobj.trans (congrArg (HeapObj.mk · o) (AbstractStore.context_internContext d))
  have hE : Effect p s r.2 ∅ ∅ := effect_grows hs (h₂.trans h₁)
  have hx : r.2.store.HasPointer (.var ⟨c, v⟩) := hE.store.contexts.holds hc
  have h := effect_sendTo hE.valid hx (u := r.1) hr
  rw [hobj, AbstractStore.location, hE.store.context hc] at h
  exact hE.after h

theorem effect_internContext (hs : s.Valid p) {D : Context} {d : ContextId}
    (hd : s.internContext D = (d, s')) :
    Effect p s s' ∅ ∅ ∧ s'.store.contexts.values.Holds d ∧ s'.store.context d = D := by
  have hG := effect_grows hs (AbstractStore.internContext_grows hs.store D)
  cases hd
  exact ⟨hG, AbstractStore.holds_internContext D, AbstractStore.context_internContext D⟩

theorem effect_call (hs : s.Valid p) (site : CtxSite)
    (hc : s.store.contexts.values.Holds site.context) (k : CallKind) {D : Context} {d : ContextId}
    (hd : s.internContext D = (d, s')) (callee : MethodId) :
    Effect p s (s'.addCall k site ⟨d, callee⟩)
      {.call k (s.store.context site.context) site.id D callee} ∅ := by
  obtain ⟨hE, hdh, hdD⟩ := effect_internContext hs hd
  have h := effect_addCall (k := k) (m := ⟨d, callee⟩) hE.valid (hE.store.contexts.holds hc) hdh
  rw [hE.store.context hc, hdD] at h
  exact hE.after h

/-- What looking at a statement can come to. -/
inductive ExecCase (p : Program) (π : Policy) (s : State) (c : ContextId) (st : StmtId) :
    Except AnalysisError State → Prop
  | new {x t obj} (hst : p.stmt st = .new x t) (ho : p.objectAt st = .ok obj) :
      ExecCase p π s c st (.ok (s.allocate c x (π.forObject (s.store.context c)) obj))
  | noObject {x t e} (hst : p.stmt st = .new x t) (ho : p.objectAt st = .error e) :
      ExecCase p π s c st (.error e)
  | copy {x y} (hst : p.stmt st = .copy x y) :
      ExecCase p π s c st (.ok (s.connect (.var ⟨c, y⟩) (.var ⟨c, x⟩)))
  | loadStatic {x f} (hst : p.stmt st = .load x none f) :
      ExecCase p π s c st (.ok (s.connect (.static f) (.var ⟨c, x⟩)))
  | storeStatic {f y} (hst : p.stmt st = .store none f y) :
      ExecCase p π s c st (.ok (s.connect (.var ⟨c, y⟩) (.static f)))
  | staticCall {call callee d s'} (hst : p.stmt st = .invoke call) (hk : call.kind = .static)
      (hc : p.calleeAt none st = .ok callee)
      (hd : s.internContext (π.forStaticCall (s.store.context c) st) = (d, s')) :
      ExecCase p π s c st (.ok (s'.addCall .static ⟨c, st⟩ ⟨d, callee⟩))
  | noCallee {call e} (hst : p.stmt st = .invoke call) (hk : call.kind = .static)
      (hc : p.calleeAt none st = .error e) : ExecCase p π s c st (.error e)
  | dynamic {call} (hst : p.stmt st = .invoke call) (hk : call.kind = .dynamic) :
      ExecCase p π s c st (.error (.unrecognizedKind (p.stmtLabel st) .dynamic))
  | wait (hst : (p.stmt st).Waits) : ExecCase p π s c st (.ok s)

theorem exec_case (p : Program) (π : Policy) (s : State) (c : ContextId) (st : StmtId) :
    ExecCase p π s c st (s.exec p π c st) := by
  rw [exec]
  cases hst : p.stmt st with
  | new x t =>
    cases ho : p.objectAt st with
    | error e => exact .noObject hst ho
    | ok obj => exact .new hst ho
  | copy x y => exact .copy hst
  | load x b f =>
    cases b with
    | none => exact .loadStatic hst
    | some b => exact .wait (hst ▸ trivial)
  | store b f y =>
    cases b with
    | none => exact .storeStatic hst
    | some b => exact .wait (hst ▸ trivial)
  | arrayLoad | arrayStore | ret => exact .wait (hst ▸ trivial)
  | invoke call =>
    have hwait (hk : call.kind ≠ .static ∧ call.kind ≠ .dynamic) : (p.stmt st).Waits := hst ▸ hk
    dsimp only
    cases hk : call.kind with
    | static =>
      cases hc : p.calleeAt none st with
      | error e => exact .noCallee hst hk hc
      | ok callee => exact .staticCall hst hk hc rfl
    | dynamic => exact .dynamic hst hk
    | special | virtual | interface => exact .wait (hwait (by simp [hk]))

theorem effect_exec (hs : s.Valid p) {c : ContextId} {st : StmtId}
    (hc : s.store.contexts.values.Holds c) (h : s.exec p π c st = .ok s') :
    Effect p s s' ((Chore.exec (s.store.context c) st).asserts p π) ∅ := by
  have hcase := exec_case p π s c st
  rw [h] at hcase
  cases hcase with
  | @new x t obj hst ho =>
    have hC : (Chore.exec (s.store.context c) st).asserts p π =
        {.pts (.var (s.store.context c) x) ⟨π.forObject (s.store.context c), obj⟩} := by
      ext f
      simp [Chore.asserts, hst, ho]
    rw [hC]
    exact effect_allocate hs hc (by rwa [Program.site_of_objectAt ho]) _ _
  | copy hst =>
    rw [Chore.asserts, hst]
    exact effect_connect hs hc hc
  | loadStatic hst =>
    rw [Chore.asserts, hst]
    exact effect_connect hs trivial hc
  | storeStatic hst =>
    rw [Chore.asserts, hst]
    exact effect_connect hs hc trivial
  | @staticCall call callee d s₁ hst hk hcallee hd =>
    have hC : (Chore.exec (s.store.context c) st).asserts p π = {.call .static
        (s.store.context c) st (π.forStaticCall (s.store.context c) st) callee} := by
      ext f
      simp [Chore.asserts, hst, hk, hcallee]
    rw [hC]
    exact effect_call hs ⟨c, st⟩ hc _ hd callee
  | wait hst =>
    rw [Chore.asserts_of_waits hst]
    exact .refl hs

theorem resolved_of_exec {c : ContextId} {st : StmtId} (h : s.exec p π c st = .ok s')
    (d : Context) : (Chore.exec d st).Resolved p := by
  have hcase := exec_case p π s c st
  rw [h] at hcase
  cases hcase with
  | new hst ho => simp [Chore.Resolved, hst, ho]
  | copy hst => simp [Chore.Resolved, hst]
  | loadStatic hst => simp [Chore.Resolved, hst]
  | storeStatic hst => simp [Chore.Resolved, hst]
  | staticCall hst hk hc hd => simp [Chore.Resolved, hst, hk, hc]
  | wait hst => exact Chore.resolved_of_waits hst

theorem effect_arguments (hs : s.Valid p) {c d : ContextId} (hc : s.store.contexts.values.Holds c)
    (hd : s.store.contexts.values.Holds d) (call : Call) (m : MethodId) :
    Effect p s ((call.args.zip (p.methodDecl m).params.toList).foldl
      (fun s (arg, param) => s.connect (.var ⟨c, arg⟩) (.var ⟨d, param⟩)) s)
      (p.argumentFlow (s.store.context c) call (s.store.context d) m) ∅ := by
  refine effect_foldl hs _ _
    (fun a : VarId × VarId =>
      {.flow (.var (s.store.context c) a.1) (.var (s.store.context d) a.2)}) ?_
  intro s' hs' hE a _
  rw [← hE.context hc, ← hE.context hd]
  exact effect_connect hs' (hE.contexts.holds hc) (hE.contexts.holds hd)

theorem effect_results (hs : s.Valid p) {c d : ContextId} (hc : s.store.contexts.values.Holds c)
    (hd : s.store.contexts.values.Holds d) (x : VarId) (m : MethodId) :
    Effect p s ((p.methodDecl m).returns.toList.foldl
      (fun s v => s.connect (.var ⟨d, v⟩) (.var ⟨c, x⟩)) (s.internPointer (.var ⟨c, x⟩)).2)
      (p.resultFlow (s.store.context c) x (s.store.context d) m) ∅ := by
  have hG : (s.internPointer (.var ⟨c, x⟩)).2.store.Grows p s.store :=
    AbstractStore.internPointer_grows hs.store hc
  have h₁ : Effect p s (s.internPointer (.var ⟨c, x⟩)).2 ∅ ∅ := effect_grows hs hG
  refine h₁.after (effect_foldl h₁.valid _ _
    (fun v => {.flow (.var (s.store.context d) v) (.var (s.store.context c) x)}) ?_)
  intro s' hs' hE v _
  have hE := hE.trans h₁.store
  rw [← hE.context hc, ← hE.context hd]
  exact effect_connect hs' (hE.contexts.holds hd) (hE.contexts.holds hc)

theorem effect_bindCall (hs : s.Valid p) {site : CtxSite} {m : CtxMethod}
    (hc : s.store.contexts.values.Holds site.context)
    (hm : s.store.contexts.values.Holds m.context) (h : s.bindCall p site m = .ok s') :
    Effect p s s' ((Chore.bindCall (s.store.context site.context) site.id
      (s.store.context m.context) m.id).asserts p π) ∅ := by
  rw [bindCall] at h
  cases hcall : p.callAt site.id with
  | error e => rw [hcall] at h; cases h
  | ok call =>
    rw [hcall] at h
    have hst := Program.callAt_eq_ok.mp hcall
    have hargs := effect_arguments hs hc hm call m.id
    cases hres : call.result with
    | none =>
      simp only [bind, Except.bind, hres] at h
      cases h
      simp only [Chore.asserts, hst, Stmt.invoke.injEq, exists_eq_left', hres, reduceCtorEq,
        false_and, exists_false, or_false, Set.ofPred_mem_eq]
      exact hargs
    | some x =>
      simp only [bind, Except.bind, hres] at h
      cases h
      simp only [Chore.asserts, hst, Stmt.invoke.injEq, exists_eq_left', hres, Option.some.injEq]
      have hresults := effect_results hargs.valid (hargs.store.contexts.holds hc)
        (hargs.store.contexts.holds hm) x m.id
      rw [hargs.store.context hc, hargs.store.context hm] at hresults
      have h := hargs.trans hresults
      rwa [Set.empty_union] at h

theorem effect_access (hs : s.Valid p) {c : ContextId} {o : CtxObjId}
    (hc : s.store.contexts.values.Holds c) (ho : s.store.ctxObjects.values.Holds o) (st : StmtId) :
    Effect p s (s.access p c o st)
      ((p.stmt st).accessFlow (s.store.context c) (s.store.heapObj o)) ∅ := by
  rw [access]
  cases hst : p.stmt st with
  | store b f y => exact effect_connect hs hc ho
  | load x b f => exact effect_connect hs ho hc
  | arrayStore b i y => exact effect_connect hs hc ho
  | arrayLoad x b i => exact effect_connect hs ho hc
  | _ => exact .refl hs

theorem effect_receive (hs : s.Valid p) {v : CtxVar} {o : CtxObjId}
    (hc : s.store.contexts.values.Holds v.context) (ho : s.store.ctxObjects.values.Holds o) :
    let ch := Chore.receive (s.store.context v.context) v.id (s.store.heapObj o)
    Effect p s (s.receive p v o) (ch.asserts p π) (ch.follows p) := by
  intro ch
  let s₁ := (p.varDecl v.id).accesses.toList.foldl (fun s st => s.access p v.context o st) s
  have h₁ : Effect p s s₁ (ch.asserts p π) ∅ := by
    refine effect_foldl hs _ _ _ ?_
    intro s' hs' hE st _
    rw [← hE.context hc, ← hE.heapObj hs.store ho]
    exact effect_access hs' (hE.contexts.holds hc) (hE.ctxObjects.holds ho) st
  let tasks : List Task := (p.varDecl v.id).calls.toList.map fun site =>
    .invoke ⟨v.context, site⟩ o
  have ht (t : Task) (ht : t ∈ tasks) : s₁.store.HasTask t := by
    obtain ⟨site, -, rfl⟩ := List.mem_map.mp ht
    exact ⟨h₁.store.contexts.holds hc, h₁.store.ctxObjects.holds ho⟩
  have h := h₁.trans (effect_plan h₁.valid ht)
  have hN : {ch | ∃ t ∈ tasks, s₁.store.chore t = ch} = ch.follows p := by
    ext ch'
    simp [tasks, ch, Chore.follows, AbstractStore.chore, h₁.store.context hc,
      h₁.store.heapObj hs.store ho, eq_comm]
  rw [Set.empty_union, Set.union_empty, hN] at h
  exact h

/-- Sends the object that a call is done on to the receiver variable of the callee. -/
def sendReceiver (p : Program) (s : State) (d : ContextId) (o : CtxObjId) (callee : MethodId) :
    State :=
  match (p.methodDecl callee).this with
  | none => s
  | some this => (s.internPointer (.var ⟨d, this⟩)).2.send
      (s.internPointer (.var ⟨d, this⟩)).1 (.singleton o)

theorem effect_sendReceiver (hs : s.Valid p) {d : ContextId} {o : CtxObjId}
    (hd : s.store.contexts.values.Holds d) (ho : s.store.ctxObjects.values.Holds o)
    (callee : MethodId) :
    Effect p s (s.sendReceiver p d o callee)
      {f | ∃ this, (p.methodDecl callee).this = some this ∧
        f = .pts (.var (s.store.context d) this) (s.store.heapObj o)} ∅ := by
  rw [sendReceiver]
  cases (p.methodDecl callee).this with
  | none =>
    have hC : {f | ∃ this : VarId, (none : Option VarId) = some this ∧
        f = Fact.pts (.var (s.store.context d) this) (s.store.heapObj o)} = ∅ := by
      ext f; simp
    rw [hC]
    exact .refl hs
  | some this =>
    have hC : {f | ∃ v : VarId, some this = some v ∧
        f = Fact.pts (.var (s.store.context d) v) (s.store.heapObj o)} =
        {.pts (.var (s.store.context d) this) (s.store.heapObj o)} := by
      ext f; simp
    rw [hC]
    exact effect_sendTo (x := .var ⟨d, this⟩) hs hd ho

/-- What an instance call on an object can come to. -/
inductive InvokeCase (p : Program) (π : Policy) (s : State) (site : CtxSite) (o : CtxObjId) :
    Except AnalysisError State → Prop
  | notCall {e} (h : p.callAt site.id = .error e) : InvokeCase p π s site o (.error e)
  | noCallee {call e} (hst : p.stmt site.id = .invoke call)
      (hc : p.calleeAt (some (s.store.heapObj o).obj.cls) site.id = .error e) :
      InvokeCase p π s site o (.error e)
  | call {call callee d s'} (hst : p.stmt site.id = .invoke call)
      (hc : p.calleeAt (some (s.store.heapObj o).obj.cls) site.id = .ok callee)
      (hd : s.internContext (π.calleeContext (s.store.context site.context) site.id
        (s.store.heapObj o)) = (d, s')) :
      InvokeCase p π s site o
        (.ok ((s'.sendReceiver p d o callee).addCall call.kind site ⟨d, callee⟩))

theorem invoke_case (p : Program) (π : Policy) (s : State) (site : CtxSite) (o : CtxObjId) :
    InvokeCase p π s site o (s.invoke p π site o) := by
  rw [invoke]
  cases hcall : p.callAt site.id with
  | error e => exact .notCall hcall
  | ok call =>
    have hst := Program.callAt_eq_ok.mp hcall
    cases hc : p.calleeAt (some (s.store.objectOf o).cls) site.id with
    | error e =>
      simp only [bind, Except.bind, hc]
      exact .noCallee hst hc
    | ok callee =>
      simp only [bind, Except.bind, hc]
      exact .call hst hc rfl

theorem effect_invoke (hs : s.Valid p) {site : CtxSite} {o : CtxObjId}
    (hc : s.store.contexts.values.Holds site.context) (ho : s.store.ctxObjects.values.Holds o)
    (h : s.invoke p π site o = .ok s') :
    let ch := Chore.invoke (s.store.context site.context) site.id (s.store.heapObj o)
    Effect p s s' (ch.asserts p π) ∅ ∧ ch.Resolved p := by
  intro ch
  have hcase := invoke_case p π s site o
  rw [h] at hcase
  cases hcase with
  | @call call callee d s₁ hst hcallee hd =>
    refine ⟨?_, callee, hcallee⟩
    let D := π.calleeContext (s.store.context site.context) site.id (s.store.heapObj o)
    obtain ⟨h₁, hdh, hdD⟩ := effect_internContext hs hd
    have h₂ := effect_sendReceiver h₁.valid hdh (h₁.store.ctxObjects.holds ho) callee
    have h₃ := effect_addCall (k := call.kind) (m := ⟨d, callee⟩) h₂.valid
      (h₂.store.contexts.holds (h₁.store.contexts.holds hc)) (h₂.store.contexts.holds hdh)
    rw [h₂.store.context hdh, h₂.store.context (h₁.store.contexts.holds hc), hdD,
      h₁.store.context hc] at h₃
    rw [hdD, h₁.store.heapObj hs.store ho] at h₂
    have h := h₁.after (h₂.trans h₃)
    rw [Set.empty_union] at h
    have hC : ch.asserts p π = {f | ∃ this, (p.methodDecl callee).this = some this ∧
        f = .pts (.var D this) (s.store.heapObj o)} ∪
        {.call call.kind (s.store.context site.context) site.id D callee} := by
      ext f
      simp only [ch, Chore.asserts, hst, hcallee, Stmt.invoke.injEq, Except.ok.injEq,
        exists_and_left, exists_eq_left']
      rfl
    rw [hC]
    exact h

/-- A task that succeeds does its chore. -/
theorem effect_perform (hs : s.Valid p) {t : Task} (ht : s.store.HasTask t)
    (h : s.perform p π t = .ok s') :
    Effect p s s' ((s.store.chore t).asserts p π) ((s.store.chore t).follows p) ∧
      (s.store.chore t).Resolved p := by
  cases t with
  | enter m =>
    cases h
    exact ⟨effect_enter hs ht, trivial⟩
  | exec c st => exact ⟨effect_exec hs ht h, resolved_of_exec h _⟩
  | bindCall site m => exact ⟨effect_bindCall hs ht.1 ht.2 h, trivial⟩
  | receive v o =>
    cases h
    exact ⟨effect_receive hs ht.1 ht.2, trivial⟩
  | invoke site o => exact effect_invoke hs ht.1 ht.2 h

/-- Nothing but pointers, the flow between them and what is on its way to them differs. -/
structure FlowOnly (s s' : State) : Prop where
  contexts : s'.store.contexts = s.store.contexts
  objects : s'.store.objects = s.store.objects
  ctxObjects : s'.store.ctxObjects = s.store.ctxObjects
  calls : s'.calls = s.calls
  agenda : s'.agenda = s.agenda
  events : s'.events = s.events

theorem FlowOnly.refl (s : State) : s.FlowOnly s := ⟨rfl, rfl, rfl, rfl, rfl, rfl⟩

theorem FlowOnly.trans {s'' : State} (h₁ : s.FlowOnly s') (h₂ : s'.FlowOnly s'') :
    s.FlowOnly s'' where
  contexts := h₂.contexts.trans h₁.contexts
  objects := h₂.objects.trans h₁.objects
  ctxObjects := h₂.ctxObjects.trans h₁.ctxObjects
  calls := h₂.calls.trans h₁.calls
  agenda := h₂.agenda.trans h₁.agenda
  events := h₂.events.trans h₁.events

theorem flowOnly_internPointer (s : State) (x : Pointer) : s.FlowOnly (s.internPointer x).2 :=
  ⟨rfl, rfl, rfl, rfl, rfl, rfl⟩

theorem flowOnly_connect (s : State) (x y : Pointer) : s.FlowOnly (s.connect x y) := by
  simp only [connect]
  split
  · exact ⟨rfl, rfl, rfl, rfl, rfl, rfl⟩
  · split
    · exact ⟨rfl, rfl, rfl, rfl, rfl, rfl⟩
    · exact ⟨rfl, rfl, rfl, rfl, rfl, rfl⟩

theorem flowOnly_foldl {α : Type} (l : List α) (op : State → α → State)
    (h : ∀ (s : State) a, s.FlowOnly (op s a)) (s : State) : s.FlowOnly (l.foldl op s) := by
  induction l generalizing s with
  | nil => exact .refl s
  | cons a l ih => exact (h s a).trans (ih (op s a))

theorem flowOnly_bindCall {site : CtxSite} {m : CtxMethod} (h : s.bindCall p site m = .ok s') :
    s.FlowOnly s' := by
  rw [bindCall] at h
  cases hcall : p.callAt site.id with
  | error e => rw [hcall] at h; cases h
  | ok call =>
    rw [hcall] at h
    have hargs := flowOnly_foldl (call.args.zip (p.methodDecl m.id).params.toList)
      (fun s a => s.connect (.var ⟨site.context, a.1⟩) (.var ⟨m.context, a.2⟩))
      (fun s _ => flowOnly_connect s _ _) s
    cases hres : call.result with
    | none =>
      simp only [bind, Except.bind, hres] at h
      cases h
      exact hargs
    | some x =>
      simp only [bind, Except.bind, hres] at h
      cases h
      have hresult := hargs.trans (flowOnly_internPointer _ (.var ⟨site.context, x⟩))
      exact hresult.trans (flowOnly_foldl _ _ (fun s _ => flowOnly_connect s _ _) _)

theorem flowOnly_access (s : State) (p : Program) (c : ContextId) (o : CtxObjId) (st : StmtId) :
    s.FlowOnly (s.access p c o st) := by
  rw [access]
  cases p.stmt st with
  | store | load | arrayStore | arrayLoad => exact flowOnly_connect s _ _
  | _ => exact .refl s

/-- Before its calls are planned, a variable that receives an object only lets it flow. -/
theorem flowOnly_accesses (s : State) (p : Program) (v : CtxVar) (o : CtxObjId) : s.FlowOnly
    ((p.varDecl v.id).accesses.toList.foldl (fun s st => s.access p v.context o st) s) :=
  flowOnly_foldl _ _ (fun s st => flowOnly_access s p v.context o st) s

theorem flowOnly_sendReceiver (s : State) (p : Program) (d : ContextId) (o : CtxObjId)
    (callee : MethodId) : s.FlowOnly (s.sendReceiver p d o callee) := by
  rw [sendReceiver]
  split
  · exact .refl s
  · exact ⟨rfl, rfl, rfl, rfl, rfl, rfl⟩

end Propagation.State

end PointsTo
