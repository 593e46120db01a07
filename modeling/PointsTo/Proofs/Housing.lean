import PointsTo.Proofs.Failures

namespace PointsTo.Propagation

variable {p : Program} {π : Policy} {K : Set Fact}

namespace State

variable {s s' s'' : State}

/-- From `s` to `s'` pointers are added only for static fields, objects, and the variables of
methods that `K` reaches. -/
structure Housing (p : Program) (K : Set Fact) (s s' : State) : Prop where
  valid : s'.Valid p
  store : s'.store.Extends s.store
  pointers {i} (hi : s'.store.pointers.values.Holds i) :
    s.store.pointers.values.Holds i ∨ (s'.store.place i).Housed p K

namespace Housing

theorem trans (h₁ : Housing p K s s') (h₂ : Housing p K s' s'') : Housing p K s s'' := by
  refine ⟨h₂.valid, h₂.store.trans h₁.store, fun {i} hi => ?_⟩
  rcases h₂.pointers hi with hi' | hhoused
  · rcases h₁.pointers hi' with hi₀ | hhoused
    · exact .inl hi₀
    · rw [← h₂.store.place h₁.valid.store hi'] at hhoused
      exact .inr hhoused
  · exact .inr hhoused

/-- What happens outside of the store adds no pointers. -/
theorem of_store (h : Housing p K s s') (hv : s''.Valid p) (hst : s''.store = s'.store) :
    Housing p K s s'' := by
  refine ⟨hv, hst ▸ h.store, fun {i} hi => ?_⟩
  rw [hst] at hi ⊢
  exact h.pointers hi

theorem of_effect {C : Set Fact} {N : Set Chore} (hE : Effect p s s' C N)
    (h : s'.store.pointers = s.store.pointers) : Housing p K s s' := by
  refine ⟨hE.valid, hE.store, fun {i} hi => ?_⟩
  rw [h] at hi
  exact .inl hi

theorem refl (hs : s.Valid p) : Housing p K s s := of_effect (.refl hs) rfl

theorem foldl {α : Type} (hs : s.Valid p) (l : List α) (op : State → α → State)
    (h : ∀ s', s'.Valid p → s'.store.Extends s.store → ∀ a ∈ l, Housing p K s' (op s' a)) :
    Housing p K s (l.foldl op s) := by
  induction l generalizing s with
  | nil => exact refl hs
  | cons a l ih =>
    have ha := h s hs (.refl _) a List.mem_cons_self
    exact ha.trans (ih ha.valid fun s' hs' hE b hb =>
      h s' hs' (hE.trans ha.store) b (List.mem_cons_of_mem a hb))

end Housing

theorem housing_internPointer (hs : s.Valid p) {x : Pointer} (hx : s.store.HasPointer x)
    (hhoused : (s.store.location x).Housed p K) : Housing p K s (s.internPointer x).2 := by
  have hG : (s.internPointer x).2.store.Grows p s.store :=
    AbstractStore.internPointer_grows hs.store hx
  have hE : Effect p s (s.internPointer x).2 ∅ ∅ := effect_grows hs hG
  refine ⟨hE.valid, hE.store, fun {i} hi => ?_⟩
  rcases Interner.get?_of_intern (Table.get?_of_holds hi) with hold | ⟨-, -, hnew⟩
  · exact .inl (Table.holds_of_get? hold)
  · right
    have hplace : (s.internPointer x).2.store.place i = s.store.location x := by
      have hpointer : (s.internPointer x).2.store.pointer i = x := hnew
      rw [AbstractStore.place, hpointer]
      exact hG.location hs.store hx
    rw [hplace]
    exact hhoused

theorem store_connect (x y : Pointer) :
    (s.connect x y).store = ((s.internPointer x).2.internPointer y).2.store := by
  simp only [connect]
  split
  · rfl
  · split
    · rfl
    · rfl

theorem housing_connect (hs : s.Valid p) {x y : Pointer} (hx : s.store.HasPointer x)
    (hy : s.store.HasPointer y) (hxK : (s.store.location x).Housed p K)
    (hyK : (s.store.location y).Housed p K) : Housing p K s (s.connect x y) := by
  have h₁ := housing_internPointer hs hx hxK
  have hyK' : ((s.internPointer x).2.store.location y).Housed p K := by
    rw [h₁.store.location hs.store hy]
    exact hyK
  have h₂ := housing_internPointer h₁.valid (h₁.store.hasPointer hy) hyK'
  exact (h₁.trans h₂).of_store (effect_connect hs hx hy).valid (store_connect x y)

theorem housing_internContext (hs : s.Valid p) {D : Context} {d : ContextId}
    (hd : s.internContext D = (d, s')) :
    Housing p K s s' ∧ s'.store.contexts.values.Holds d ∧ s'.store.context d = D := by
  obtain ⟨hE, hdh, hdD⟩ := effect_internContext hs hd
  refine ⟨.of_effect hE ?_, hdh, hdD⟩
  cases hd
  rfl

theorem housing_addCall (hs : s.Valid p) {k : CallKind} {site : CtxSite} {m : CtxMethod}
    (hc : s.store.contexts.values.Holds site.context)
    (hm : s.store.contexts.values.Holds m.context) : Housing p K s (s.addCall k site m) := by
  refine .of_effect (effect_addCall hs hc hm) ?_
  rw [addCall]
  split
  · rfl
  · rfl

theorem housing_enter (hs : s.Valid p) {m : CtxMethod}
    (hm : s.store.contexts.values.Holds m.context) : Housing p K s (s.enter p m) := by
  refine .of_effect (effect_enter hs hm) ?_
  simp only [enter]
  split
  · rfl
  · rfl

theorem housing_allocate (hs : s.Valid p) {c : ContextId} (hc : s.store.contexts.values.Holds c)
    {o : Obj} (ho : p.objectAt o.site = .ok o) (d : Context) {v : VarId}
    (hv : (Location.var (s.store.context c) v).Housed p K) :
    Housing p K s (s.allocate c v d o) := by
  let r := (s.internContext d).2.internObject (s.internContext d).1 o
  have h₁ : (s.internContext d).2.store.Grows p s.store :=
    AbstractStore.internContext_grows hs.store d
  have h₂ := (internObject_grows h₁.valid (AbstractStore.holds_internContext d) ho).1
  have hr : Housing p K s r.2 := .of_effect (effect_grows hs (h₂.trans h₁)) rfl
  have hx : r.2.store.HasPointer (.var ⟨c, v⟩) := hr.store.contexts.holds hc
  have hxK : (r.2.store.location (.var ⟨c, v⟩)).Housed p K := by
    rw [AbstractStore.location, hr.store.context hc]
    exact hv
  have h₃ := housing_internPointer hr.valid hx hxK
  exact (hr.trans h₃).of_store (effect_allocate hs hc ho d v).valid rfl

theorem housing_exec (hs : s.Valid p) {c : ContextId} {st : StmtId}
    (hc : s.store.contexts.values.Holds c)
    (hvars : ∀ v ∈ (p.stmt st).vars, (Location.var (s.store.context c) v).Housed p K)
    (h : s.exec p π c st = .ok s') : Housing p K s s' := by
  have hcase := exec_case p π s c st
  rw [h] at hcase
  cases hcase with
  | new hst ho =>
    rw [← Program.site_of_objectAt ho] at ho
    exact housing_allocate hs hc ho _ (hvars _ (by simp [hst, Stmt.vars]))
  | copy hst =>
    refine housing_connect hs hc hc ?_ ?_
    · exact hvars _ (by simp [hst, Stmt.vars])
    · exact hvars _ (by simp [hst, Stmt.vars])
  | loadStatic hst =>
    refine housing_connect hs trivial hc trivial ?_
    exact hvars _ (by simp [hst, Stmt.vars])
  | storeStatic hst =>
    refine housing_connect hs hc trivial ?_ trivial
    exact hvars _ (by simp [hst, Stmt.vars])
  | staticCall hst hk hcallee hd =>
    obtain ⟨h₁, hdh, -⟩ := housing_internContext (K := K) hs hd
    exact h₁.trans (housing_addCall h₁.valid (h₁.store.contexts.holds hc) hdh)
  | wait hst => exact .refl hs

theorem housing_bindCall (hs : s.Valid p) {site : CtxSite} {m : CtxMethod}
    (hc : s.store.contexts.values.Holds site.context)
    (hm : s.store.contexts.values.Holds m.context)
    (hvars : ∀ v ∈ (p.stmt site.id).vars,
      (Location.var (s.store.context site.context) v).Housed p K)
    (hparams : ∀ v ∈ (p.methodDecl m.id).params,
      (Location.var (s.store.context m.context) v).Housed p K)
    (hreturns : ∀ v ∈ (p.methodDecl m.id).returns,
      (Location.var (s.store.context m.context) v).Housed p K)
    (h : s.bindCall p site m = .ok s') : Housing p K s s' := by
  have hconnect {s₁ : State} (hs₁ : s₁.Valid p) (hE : s₁.store.Extends s.store) {v w : CtxVar}
      (hv : s.store.contexts.values.Holds v.context) (hw : s.store.contexts.values.Holds w.context)
      (hvK : (Location.var (s.store.context v.context) v.id).Housed p K)
      (hwK : (Location.var (s.store.context w.context) w.id).Housed p K) :
      Housing p K s₁ (s₁.connect (.var v) (.var w)) := by
    refine housing_connect hs₁ (hE.contexts.holds hv) (hE.contexts.holds hw) ?_ ?_
    · rw [AbstractStore.location, hE.context hv]
      exact hvK
    · rw [AbstractStore.location, hE.context hw]
      exact hwK
  rw [bindCall] at h
  cases hcall : p.callAt site.id with
  | error e => rw [hcall] at h; cases h
  | ok call =>
    rw [hcall] at h
    have hst := Program.callAt_eq_ok.mp hcall
    have hargs : Housing p K s ((call.args.zip (p.methodDecl m.id).params.toList).foldl
        (fun s (a : VarId × VarId) =>
          s.connect (.var ⟨site.context, a.1⟩) (.var ⟨m.context, a.2⟩)) s) := by
      refine .foldl hs _ _ fun s' hs' hE a ha => ?_
      obtain ⟨harg, hparam⟩ := List.of_mem_zip ha
      apply hconnect hs' hE hc hm
      · exact hvars _ (by simp [hst, Stmt.vars, harg])
      · exact hparams _ (Array.mem_toList_iff.mp hparam)
    cases hres : call.result with
    | none =>
      simp only [bind, Except.bind, hres] at h
      cases h
      exact hargs
    | some x =>
      simp only [bind, Except.bind, hres] at h
      cases h
      have hx := hvars x (by simp [hst, Stmt.vars, hres])
      have htarget := hargs.trans (housing_internPointer (x := .var ⟨site.context, x⟩) hargs.valid
        (hargs.store.contexts.holds hc)
        (by rw [AbstractStore.location, hargs.store.context hc]; exact hx))
      refine htarget.trans (.foldl htarget.valid _ _ fun s' hs' hE v hv => ?_)
      apply hconnect hs' (hE.trans htarget.store) hm hc
      · exact hreturns v (Array.mem_toList_iff.mp hv)
      · exact hx

theorem housing_access (hs : s.Valid p) {c : ContextId} {o : CtxObjId}
    (hc : s.store.contexts.values.Holds c) (ho : s.store.ctxObjects.values.Holds o) {st : StmtId}
    (hvars : ∀ v ∈ (p.stmt st).vars, (Location.var (s.store.context c) v).Housed p K) :
    Housing p K s (s.access p c o st) := by
  rw [access]
  cases hst : p.stmt st with
  | store b f y =>
    refine housing_connect hs hc ho ?_ trivial
    exact hvars y (by simp [hst, Stmt.vars])
  | load x b f =>
    refine housing_connect hs ho hc trivial ?_
    exact hvars x (by simp [hst, Stmt.vars])
  | arrayStore b i y =>
    refine housing_connect hs hc ho ?_ trivial
    exact hvars y (by simp [hst, Stmt.vars])
  | arrayLoad x b i =>
    refine housing_connect hs ho hc trivial ?_
    exact hvars x (by simp [hst, Stmt.vars])
  | _ => exact .refl hs

theorem housing_receive (hs : s.Valid p) {v : CtxVar} {o : CtxObjId}
    (hc : s.store.contexts.values.Holds v.context) (ho : s.store.ctxObjects.values.Holds o)
    (hvars : ∀ st ∈ (p.varDecl v.id).accesses, ∀ w ∈ (p.stmt st).vars,
      (Location.var (s.store.context v.context) w).Housed p K) :
    Housing p K s (s.receive p v o) := by
  let s₁ := (p.varDecl v.id).accesses.toList.foldl (fun s st => s.access p v.context o st) s
  have h₁ : Housing p K s s₁ := by
    refine .foldl hs _ _ fun s' hs' hE st hst => ?_
    apply housing_access hs' (hE.contexts.holds hc) (hE.ctxObjects.holds ho)
    rw [hE.context hc]
    exact hvars st (Array.mem_toList_iff.mp hst)
  exact h₁.of_store (effect_receive (π := default) hs hc ho).valid rfl

theorem housing_sendReceiver (hs : s.Valid p) {d : ContextId} {o : CtxObjId}
    (hd : s.store.contexts.values.Holds d) (ho : s.store.ctxObjects.values.Holds o)
    {callee : MethodId}
    (hthis : ∀ v, (p.methodDecl callee).this = some v →
      (Location.var (s.store.context d) v).Housed p K) :
    Housing p K s (s.sendReceiver p d o callee) := by
  have hv := (effect_sendReceiver hs hd ho callee).valid
  rw [sendReceiver] at hv ⊢
  cases ht : (p.methodDecl callee).this with
  | none => exact .refl hs
  | some this =>
    rw [ht] at hv
    have h := housing_internPointer (x := .var ⟨d, this⟩) hs hd (hthis this ht)
    exact h.of_store hv rfl

theorem housing_invoke (hs : s.Valid p) {site : CtxSite} {o : CtxObjId}
    (hc : s.store.contexts.values.Holds site.context) (ho : s.store.ctxObjects.values.Holds o)
    (hthis : ∀ callee v, p.calleeAt (some (s.store.heapObj o).obj.cls) site.id = .ok callee →
      (p.methodDecl callee).this = some v →
      (Location.var (π.calleeContext (s.store.context site.context) site.id
        (s.store.heapObj o)) v).Housed p K)
    (h : s.invoke p π site o = .ok s') : Housing p K s s' := by
  have hcase := invoke_case p π s site o
  rw [h] at hcase
  cases hcase with
  | @call call callee d s₁ hst hcallee hd =>
    obtain ⟨h₁, hdh, hdD⟩ := housing_internContext (K := K) hs hd
    have h₂ : Housing p K s₁ (s₁.sendReceiver p d o callee) := by
      apply housing_sendReceiver h₁.valid hdh (h₁.store.ctxObjects.holds ho)
      rw [hdD]
      exact fun v => hthis callee v hcallee
    have h₁₂ := h₁.trans h₂
    exact h₁₂.trans (housing_addCall h₁₂.valid (h₁₂.store.contexts.holds hc)
      (h₂.store.contexts.holds hdh))

end State

open State

variable {s s' : State} {entry : MethodId}

/-- A call edge leads from a method that is reachable in the context of the edge. -/
theorem reach_of_call_mem (hwf : p.WellFormed) {k : CallKind} {c d : Context} {st : StmtId}
    {m : MethodId} (hcall : .call k c st d m ∈ leastFacts p π) :
    .reach c (p.container st) ∈ leastFacts p π := by
  cases infers_of_mem_leastFacts hcall with
  | staticCall hm hs =>
    rw [(hwf.body.mp hs).2]
    exact hm
  | instanceCall hm hs =>
    rw [(hwf.body.mp hs).2]
    exact hm

/-- The variables of a statement are those of the method that contains it. -/
theorem housed_operand (hwf : p.WellFormed) {c : Context} {st : StmtId}
    (hm : .reach c (p.container st) ∈ K) :
    ∀ v ∈ (p.stmt st).vars, (Location.var c v).Housed p K := by
  intro v hv
  rw [Location.Housed, (hwf.operand hv).2]
  exact hm

/-- A task that is due numbers the variables of reachable methods only. -/
theorem housing_perform (hwf : p.WellFormed) (hs : s.Valid p) {t : Task} (ht : s.store.HasTask t)
    (hd : (s.store.chore t).Due p (leastFacts p π)) (h : s.perform p π t = .ok s') :
    Housing p (leastFacts p π) s s' := by
  have hK := closed_leastFacts p π
  cases t with
  | enter m =>
    cases h
    exact housing_enter hs ht
  | exec c st =>
    obtain ⟨m, hm, hst⟩ := hd
    apply housing_exec hs ht _ h
    apply housed_operand hwf
    rw [(hwf.body.mp hst).2]
    exact hm
  | bindCall site m =>
    obtain ⟨k, hcall⟩ := hd
    have hcallee := hK _ (.callee hcall)
    apply housing_bindCall hs ht.1 ht.2 _ _ _ h
    · exact housed_operand hwf (reach_of_call_mem hwf hcall)
    · intro v hv
      rw [Location.Housed, (hwf.param hv).2]
      exact hcallee
    · intro v hv
      obtain ⟨st, hst, hm⟩ := hwf.returns.mp hv
      have hreach : .reach _ (p.container st) ∈ leastFacts p π := hm ▸ hcallee
      exact housed_operand hwf hreach v (by simp [hst, Stmt.vars])
  | receive v o =>
    cases h
    apply housing_receive hs ht.1 ht.2
    intro st hst
    obtain ⟨u, -, hst⟩ := VarDecl.mem_accesses.mp (Array.mem_toList_iff.mpr hst)
    have hbody := hwf.mem_body_of_use? (hwf.uses.mp hst)
    apply housed_operand hwf
    rw [(hwf.body.mp hbody).2]
    exact hd.2
  | invoke site o =>
    obtain ⟨v, ho, hv⟩ := hd
    have huse : (p.stmt site.id).use? = some (v, .call) := hwf.uses.mp hv
    apply housing_invoke hs ht.1 ht.2 _ h
    intro callee this hcallee hthis
    obtain ⟨call, hst, -⟩ := Stmt.exists_call_of_use? huse
    cases within_invoke hwf hK ho huse with
    | mk ha _ => exact (ha ⟨call, callee, hst, hcallee, .inl ⟨this, hthis, rfl⟩⟩).2

/-- Objects that arrive change the points-to sets only. -/
theorem store_arrive (s : State) (i : PointerId) (set : ObjSet) :
    ∃ sets, (s.arrive i set).store = { s.store with sets } := by
  by_cases h : ((s.store.pointees i).missing set).isEmpty
  · rw [arrive_of_known h]
    exact ⟨s.store.sets, rfl⟩
  · obtain ⟨queue, events, he, -⟩ := arrive_of_new h
    rw [he]
    exact ⟨_, rfl⟩

/-- Every pointer of a run is housed. -/
theorem Moves.housed (hp : p.Finished) (he : p.entry = some entry)
    (h : Moves p π (start π entry) s) {i : PointerId} (hi : s.store.pointers.values.Holds i) :
    (s.store.place i).Housed p (leastFacts p π) := by
  induction h generalizing i with
  | refl => exact (Nat.not_lt_zero _ hi).elim
  | @tail s₁ s₂ hprev hmove ih =>
    have hs₁ := Moves.valid hprev
    cases hmove with
    | @perform _ task agenda ha h =>
      obtain ⟨hs₀, ht⟩ := hs₁.popTask ha
      have hdue := Moves.due hp.wellFormed (closed_leastFacts p π) he hprev _
        ⟨task, ha ▸ List.mem_cons_self, rfl⟩
      have hstep := housing_perform hp.wellFormed hs₀ ht hdue h
      rcases hstep.pointers hi with hi₁ | hhoused
      · rw [hstep.store.place hs₁.store hi₁]
        exact ih hi₁
      · exact hhoused
    | @deliver j set queue ha hq =>
      obtain ⟨sets, hstore⟩ := store_arrive { s₁ with queue } j set
      rw [hstore] at hi ⊢
      exact ih hi

end PointsTo.Propagation
