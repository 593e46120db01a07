import PointsTo.Proofs.LeastFacts

namespace PointsTo

/-- The calls that are bound when an object reaches their receiver. -/
def CallKind.IsInstance (k : CallKind) : Prop := k = .special ∨ k = .virtual ∨ k = .interface

theorem CallKind.isInstance_of_ne {k : CallKind} (hs : k ≠ .static) (hd : k ≠ .dynamic) :
    k.IsInstance := by
  cases k with
  | static => exact (hs rfl).elim
  | dynamic => exact (hd rfl).elim
  | special => exact .inl rfl
  | virtual => exact .inr (.inl rfl)
  | interface => exact .inr (.inr rfl)

/-- The class that an instance call on an object of class `c` is dispatched on. A special call is
bound to the class named at the site. -/
def Call.dispatchClass (call : Call) (c : ClassId) : ClassId :=
  if call.kind = .special then call.target.cls else c

/-- The calls that a family of facts makes an analysis look at resolve, and none is dynamic. -/
structure CallsResolve (p : Program) (K : Set Fact) : Prop where
  dynamic {c m s call} (hm : .reach c m ∈ K) (hs : s ∈ (p.methodDecl m).stmts)
    (h : p.stmt s = .invoke call) : call.kind ≠ .dynamic
  staticCall {c m s call} (hm : .reach c m ∈ K) (hs : s ∈ (p.methodDecl m).stmts)
    (h : p.stmt s = .invoke call) (hk : call.kind = .static) :
    ∃ callee, p.calleeAt none s = .ok callee
  instanceCall {c m s call b o} (hm : .reach c m ∈ K) (hs : s ∈ (p.methodDecl m).stmts)
    (h : p.stmt s = .invoke call) (hk : call.kind.IsInstance) (hb : call.receiver = some b)
    (ho : .pts (.var c b) o ∈ K) : ∃ callee, p.calleeAt (some o.obj.cls) s = .ok callee

/-- An error that names a call which a family of facts makes an analysis look at, and which fails in
the way that the error says. -/
inductive Fails (p : Program) (K : Set Fact) : AnalysisError → Prop
  | dynamic {c m s call} (hm : .reach c m ∈ K) (hs : s ∈ (p.methodDecl m).stmts)
      (h : p.stmt s = .invoke call) (hk : call.kind = .dynamic) :
      Fails p K (.unrecognizedKind (p.stmtLabel s) .dynamic)
  | staticCall {c m s call} (hm : .reach c m ∈ K) (hs : s ∈ (p.methodDecl m).stmts)
      (h : p.stmt s = .invoke call) (hk : call.kind = .static)
      (hd : p.dispatch call.target.cls call.target.signature = none) :
      Fails p K (.methodNotFound
        (methodLabel (p.classDecl call.target.cls).name call.target.signature))
  | instanceCall {c m s call b o} (hm : .reach c m ∈ K) (hs : s ∈ (p.methodDecl m).stmts)
      (h : p.stmt s = .invoke call) (hk : call.kind.IsInstance) (hb : call.receiver = some b)
      (ho : .pts (.var c b) o ∈ K)
      (hd : p.dispatch (call.dispatchClass o.obj.cls) call.target.signature = none) :
      Fails p K (.unresolvedDispatch (p.stmtLabel s)
        (p.classDecl (call.dispatchClass o.obj.cls)).name call.target.signature)

theorem Stmt.exists_call_of_use? {st : Stmt} {v : VarId} (h : st.use? = some (v, .call)) :
    ∃ call, st = .invoke call ∧ call.receiver = some v := by
  cases st with
  | invoke call =>
    refine ⟨call, rfl, ?_⟩
    simpa [Stmt.use?] using h
  | load x b f => cases b <;> simp [Stmt.use?] at h
  | store b f y => cases b <;> simp [Stmt.use?] at h
  | _ => simp [Stmt.use?] at h

namespace Program

variable {p : Program} {s : StmtId} {call : Call} {e : AnalysisError}

theorem dispatchAt_eq_error {c : ClassId} {g : Signature} :
    p.dispatchAt s c g = .error e ↔ p.dispatch c g = none ∧
      e = .unresolvedDispatch (p.stmtLabel s) (p.classDecl c).name g := by
  rw [dispatchAt]
  cases p.dispatch c g with
  | none => simp [eq_comm]
  | some m => simp

theorem calleeAt_dynamic (h : p.stmt s = .invoke call) (hk : call.kind = .dynamic)
    (recv : Option ClassId) :
    p.calleeAt recv s = .error (.unrecognizedKind (p.stmtLabel s) .dynamic) := by
  rw [calleeAt, callAt_eq_ok.mpr h]
  simp only [bind, Except.bind, hk]
  rfl

/-- A static call fails if the class named at the site has no method to run. -/
theorem calleeAt_static_eq_error (h : p.stmt s = .invoke call) (hk : call.kind = .static)
    (recv : Option ClassId) :
    p.calleeAt recv s = .error e ↔
      p.dispatch call.target.cls call.target.signature = none ∧
      e = .methodNotFound
        (PointsTo.methodLabel (p.classDecl call.target.cls).name call.target.signature) := by
  rw [calleeAt, callAt_eq_ok.mpr h]
  simp only [bind, Except.bind, hk]
  cases p.dispatch call.target.cls call.target.signature with
  | none => simp [throw, throwThe, MonadExceptOf.throw, eq_comm]
  | some m => simp [pure, Except.pure]

/-- An instance call fails if the class that it is dispatched on has no method to run. -/
theorem calleeAt_instance_eq_error (h : p.stmt s = .invoke call) (hk : call.kind.IsInstance)
    (c : ClassId) :
    p.calleeAt (some c) s = .error e ↔
      p.dispatch (call.dispatchClass c) call.target.signature = none ∧
      e = .unresolvedDispatch (p.stmtLabel s) (p.classDecl (call.dispatchClass c)).name
        call.target.signature := by
  rw [calleeAt, callAt_eq_ok.mpr h, Call.dispatchClass]
  rcases hk with hk | hk | hk
  · simp only [bind, Except.bind, hk, if_true]
    exact dispatchAt_eq_error
  · simp only [bind, Except.bind, hk, reduceCtorEq, if_false, Option.getD_some]
    exact dispatchAt_eq_error
  · simp only [bind, Except.bind, hk, reduceCtorEq, if_false, Option.getD_some]
    exact dispatchAt_eq_error

/-- Every allocation of a finished program has an object. -/
theorem Finished.exists_object (hp : p.Finished) {x : VarId} {t : Ty} (h : p.stmt s = .new x t) :
    ∃ obj, p.objectAt s = .ok obj := by
  obtain ⟨href, hclass⟩ := hp.wellFormed.alloc h
  have hname : ∃ name cls, runtimeClassName? t = some name ∧ p.findClass? name = some cls := by
    cases t with
    | ref name =>
      obtain ⟨cls, hcls⟩ := Option.isSome_iff_exists.mp (hclass name rfl)
      exact ⟨name, cls, rfl, hcls⟩
    | array d t =>
      obtain ⟨cls, hcls⟩ := Option.isSome_iff_exists.mp hp.edits.2
      exact ⟨rootClassName, cls, rfl, hcls⟩
    | void => cases href
    | prim t => cases href
  obtain ⟨name, cls, hn, hc⟩ := hname
  simp only [objectAt, h, hn, hc]
  exact ⟨_, rfl⟩

end Program

variable {p : Program} {π : Policy} {K : Set Fact} {e : AnalysisError}

theorem Fails.not_callsResolve (h : Fails p K e) : ¬CallsResolve p K := by
  intro hK
  cases h with
  | dynamic hm hs h hk => exact hK.dynamic hm hs h hk
  | staticCall hm hs h hk hd =>
    obtain ⟨callee, hc⟩ := hK.staticCall hm hs h hk
    rw [(Program.calleeAt_static_eq_error h hk none).mpr ⟨hd, rfl⟩] at hc
    cases hc
  | instanceCall hm hs h hk hb ho hd =>
    obtain ⟨callee, hc⟩ := hK.instanceCall hm hs h hk hb ho
    rw [(Program.calleeAt_instance_eq_error h hk _).mpr ⟨hd, rfl⟩] at hc
    cases hc

/-- A chore that the facts of `K` call for. -/
def Chore.Due (p : Program) (K : Set Fact) : Chore → Prop
  | enter .. => True
  | exec c s => ∃ m, .reach c m ∈ K ∧ s ∈ (p.methodDecl m).stmts
  | bindCall c s d m => ∃ k, .call k c s d m ∈ K
  | receive c v o => .pts (.var c v) o ∈ housed p K
  | invoke c s o => ∃ v, .pts (.var c v) o ∈ housed p K ∧ s ∈ (p.varDecl v).calls

theorem due_of_mem {f : Fact} (hf : f ∈ housed p K) {ch : Chore} (hch : ch ∈ f.chores p) :
    ch.Due p K := by
  cases f with
  | reach c m =>
    obtain ⟨s, hs, rfl⟩ := hch
    exact ⟨m, hf.1, hs⟩
  | call k c s d m =>
    rcases hch with rfl | rfl
    · trivial
    · exact ⟨k, hf.1⟩
  | flow x y => exact hch.elim
  | pts x o =>
    cases x with
    | var c v =>
      cases hch
      exact hf
    | _ => exact hch.elim

theorem Chore.Due.follows {ch ch' : Chore} (h : ch.Due p K) (hf : ch' ∈ ch.follows p) :
    ch'.Due p K := by
  cases ch with
  | receive c v o =>
    obtain ⟨s, hs, rfl⟩ := hf
    exact ⟨v, h, Array.mem_toList_iff.mp hs⟩
  | _ => exact hf.elim

namespace Propagation

variable {s s' : State}

/-- A turn plans nothing but what its facts call for. -/
theorem Turn.due (h : Turn p π s s') (hs : s.Inside p π K) (hd : ∀ ch ∈ s.chores, ch.Due p K) :
    ∀ ch ∈ s'.chores, ch.Due p K := by
  intro ch' hch'
  cases h with
  | work s₀ ch hf hq hc hE =>
    have hmem : ch ∈ s.chores := (hc ch).mpr (.inl rfl)
    obtain ⟨ha, -⟩ := hs.chore hmem
    rcases (hE.chores ch').mp hch' with h | h | ⟨f, hf, -, -, h⟩
    · exact hd ch' ((hc ch').mpr (.inr h))
    · exact (hd ch hmem).follows h
    · exact due_of_mem (ha hf) h
  | arrive s₀ C hf hq hc hA =>
    rcases (hA.chores ch').mp hch' with h | ⟨f, hf, -, h⟩
    · exact hd ch' (hc ▸ h)
    · exact due_of_mem (hs.pending ((hq f).mpr (.inl hf))) h

theorem Moves.due (hwf : p.WellFormed) (hK : Closed p π K) {entry : MethodId}
    (he : p.entry = some entry) (h : Moves p π (start π entry) s) :
    ∀ ch ∈ s.chores, ch.Due p K := by
  have hstart : ∀ ch ∈ (start π entry).chores, ch.Due p K := by
    intro ch hch
    rcases ((effect_start p π entry).chores ch).mp hch with ⟨t, ht, -⟩ | rfl | ⟨f, hf, -⟩
    · cases ht
    · trivial
    · exact hf.elim
  exact (h.invariant (I := fun s => s.Inside p π K ∧ ∀ ch ∈ s.chores, ch.Due p K)
    (effect_start p π entry).valid ⟨inside_start hK he, hstart⟩
    fun _ _ _ hs ht => ⟨ht.inside hwf hK hs.1, ht.due hs.1 hs.2⟩).2.2

theorem fails_of_exec (hp : p.Finished) {c : ContextId} {st : StmtId}
    (hd : (Chore.exec (s.store.context c) st).Due p K) (h : s.exec p π c st = .error e) :
    Fails p K e := by
  obtain ⟨m, hm, hs⟩ := hd
  have hcase := State.exec_case p π s c st
  rw [h] at hcase
  cases hcase with
  | noObject hst ho =>
    obtain ⟨obj, hobj⟩ := hp.exists_object hst
    rw [ho] at hobj
    cases hobj
  | noCallee hst hk hc =>
    obtain ⟨hd, rfl⟩ := (Program.calleeAt_static_eq_error hst hk none).mp hc
    exact .staticCall hm hs hst hk hd
  | dynamic hst hk => exact .dynamic hm hs hst hk

theorem fails_of_invoke (hwf : p.WellFormed) {site : CtxSite} {o : CtxObjId}
    (hd : (Chore.invoke (s.store.context site.context) site.id (s.store.heapObj o)).Due p K)
    (h : s.invoke p π site o = .error e) : Fails p K e := by
  obtain ⟨v, ho, hv⟩ := hd
  have huse : (p.stmt site.id).use? = some (v, .call) := hwf.uses.mp hv
  have hbody := hwf.mem_body_of_use? huse
  obtain ⟨call, hst, hb⟩ := Stmt.exists_call_of_use? huse
  have hk : call.kind ≠ .static := by
    intro hk
    rw [hwf.receiver hst hk] at hb
    cases hb
  have herr : p.calleeAt (some (s.store.heapObj o).obj.cls) site.id = .error e := by
    have hcase := State.invoke_case p π s site o
    rw [h] at hcase
    cases hcase with
    | notCall hn =>
      rw [Program.callAt_eq_ok.mpr hst] at hn
      cases hn
    | noCallee _ hc => exact hc
  by_cases hdyn : call.kind = .dynamic
  · rw [Program.calleeAt_dynamic hst hdyn] at herr
    cases herr
    exact .dynamic ho.2 hbody hst hdyn
  · have hinst := CallKind.isInstance_of_ne hk hdyn
    obtain ⟨hd, rfl⟩ := (Program.calleeAt_instance_eq_error hst hinst _).mp herr
    exact .instanceCall ho.2 hbody hst hinst hb ho.1 hd

/-- The call edges of the least family come from calls. -/
theorem exists_call_of_mem {k : CallKind} {c d : Context} {st : StmtId} {m : MethodId}
    (hcall : .call k c st d m ∈ leastFacts p π) : ∃ call, p.stmt st = .invoke call := by
  cases infers_of_mem_leastFacts hcall with
  | staticCall _ _ h => exact ⟨_, h⟩
  | instanceCall _ _ h => exact ⟨_, h⟩

/-- A task that fails names a call of the least family that fails. -/
theorem fails_of_perform (hp : p.Finished) {t : Task}
    (hd : (s.store.chore t).Due p (leastFacts p π)) (h : s.perform p π t = .error e) :
    Fails p (leastFacts p π) e := by
  cases t with
  | enter m => cases h
  | exec c st => exact fails_of_exec hp hd h
  | bindCall site m =>
    obtain ⟨k, hcall⟩ := hd
    obtain ⟨call, hst⟩ := exists_call_of_mem hcall
    change s.bindCall p site m = .error e at h
    rw [State.bindCall, Program.callAt_eq_ok.mpr hst] at h
    simp only [bind, Except.bind] at h
    split at h <;> cases h
  | receive v o => cases h
  | invoke site o => exact fails_of_invoke hp.wellFormed hd h

end Propagation

end PointsTo
