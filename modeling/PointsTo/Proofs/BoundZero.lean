import PointsTo.Proofs.ContextShapes

namespace PointsTo

namespace Propagation

variable {p : Program} {π : Policy}

namespace State

variable (past : Array Event) (s : State)

/-- The state with more events before its own. -/
def following : State := { s with events := past ++ s.events }

@[simp] theorem store_following : (s.following past).store = s.store := rfl

@[simp] theorem flow_following : (s.following past).flow = s.flow := rfl

@[simp] theorem calls_following : (s.following past).calls = s.calls := rfl

@[simp] theorem queue_following : (s.following past).queue = s.queue := rfl

@[simp] theorem agenda_following : (s.following past).agenda = s.agenda := rfl

theorem report_following (e : Event) :
    (s.following past).report e = (s.report e).following past := by
  simp only [following, report, Array.append_push]

theorem internContext_following (c : Context) : (s.following past).internContext c =
    ((s.internContext c).1, (s.internContext c).2.following past) := rfl

theorem internPointer_following (x : Pointer) : (s.following past).internPointer x =
    ((s.internPointer x).1, (s.internPointer x).2.following past) := rfl

/-- What connecting two pointers does once both are numbered. -/
def link (s : State) (x y : PointerId) : State :=
  match s.flow.insertEdge x y with
  | (false, _) => s
  | (true, flow) =>
    if (s.store.pointees x).isEmpty then { s with flow }
    else { s with flow }.send y (s.store.pointees x)

theorem link_following (x y : PointerId) :
    (s.following past).link x y = (s.link x y).following past := by
  rw [link, link, flow_following]
  cases s.flow.insertEdge x y with
  | mk new flow =>
    cases new with
    | false => rfl
    | true =>
      cases hempty : (s.store.pointees x).isEmpty with
      | false =>
        simp only [store_following, hempty]
        rfl
      | true =>
        simp only [store_following, hempty]
        rfl

theorem connect_eq_link (x y : Pointer) : s.connect x y =
    ((s.internPointer x).2.internPointer y).2.link (s.internPointer x).1
      ((s.internPointer x).2.internPointer y).1 := rfl

theorem connect_following (x y : Pointer) :
    (s.following past).connect x y = (s.connect x y).following past := by
  rw [connect_eq_link, internPointer_following, internPointer_following, link_following,
    connect_eq_link]

theorem addCall_following (k : CallKind) (site : CtxSite) (m : CtxMethod) :
    (s.following past).addCall k site m = (s.addCall k site m).following past := by
  rw [addCall, addCall, calls_following]
  cases s.calls.insertEdge ⟨k, site, m⟩ with
  | mk new calls =>
    cases new with
    | false => rfl
    | true => exact congrArg (plan · _) (report_following past { s with calls } _)

theorem foldl_following {α : Type} (l : List α) (op : State → α → State)
    (h : ∀ s a, op (s.following past) a = (op s a).following past) (s : State) :
    l.foldl op (s.following past) = (l.foldl op s).following past := by
  induction l generalizing s with
  | nil => rfl
  | cons a l ih => rw [List.foldl_cons, h, ih, List.foldl_cons]

theorem enter_following (m : CtxMethod) :
    (s.following past).enter p m = (s.enter p m).following past := by
  simp only [enter, calls_following]
  generalize (p.methodDecl m.id).calls.toList.map
    (fun site => (⟨m.context, site⟩ : CtxSite)) = sites
  cases s.calls.insertMethod m sites with
  | mk new calls =>
    cases new with
    | false => rfl
    | true => exact congrArg (plan · _) (report_following past { s with calls } _)

theorem exec_following (c : ContextId) (st : StmtId) :
    (s.following past).exec p π c st = (s.exec p π c st).map (following past) := by
  rw [exec, exec]
  cases p.stmt st with
  | new x t =>
    cases p.objectAt st with
    | error e => rfl
    | ok obj => rfl
  | copy x y => exact congrArg Except.ok (connect_following past s _ _)
  | load x b f =>
    cases b with
    | none => exact congrArg Except.ok (connect_following past s _ _)
    | some b => rfl
  | store b f y =>
    cases b with
    | none => exact congrArg Except.ok (connect_following past s _ _)
    | some b => rfl
  | arrayLoad | arrayStore | ret => rfl
  | invoke call =>
    dsimp only
    cases call.kind with
    | static =>
      cases p.calleeAt none st with
      | error e => rfl
      | ok callee => exact congrArg Except.ok (addCall_following past
        (s.internContext (π.forStaticCall (s.context c) st)).2 _ _ _)
    | dynamic | special | virtual | interface => rfl

theorem bindCall_following (site : CtxSite) (m : CtxMethod) :
    (s.following past).bindCall p site m = (s.bindCall p site m).map (following past) := by
  rw [bindCall, bindCall]
  cases p.callAt site.id with
  | error e => rfl
  | ok call =>
    simp only [bind, Except.bind]
    rw [foldl_following past _ _ (fun s a => connect_following past s _ _)]
    cases call.result with
    | none => rfl
    | some x =>
      simp only [internPointer_following]
      rw [foldl_following past _ _ (fun s v => connect_following past s _ _)]
      rfl

theorem access_following (c : ContextId) (o : CtxObjId) (st : StmtId) :
    (s.following past).access p c o st = (s.access p c o st).following past := by
  rw [access, access]
  cases p.stmt st with
  | store | load | arrayStore | arrayLoad => exact connect_following past s _ _
  | _ => rfl

theorem receive_following (v : CtxVar) (o : CtxObjId) :
    (s.following past).receive p v o = (s.receive p v o).following past := by
  rw [receive, receive]
  exact congrArg (plan · _)
    (foldl_following past _ _ (fun s st => access_following past s v.context o st) s)

theorem sendReceiver_following (d : ContextId) (o : CtxObjId) (callee : MethodId) :
    (s.following past).sendReceiver p d o callee =
      (s.sendReceiver p d o callee).following past := by
  rw [sendReceiver, sendReceiver]
  cases (p.methodDecl callee).this with
  | none => rfl
  | some this => rfl

theorem invoke_of_call {site : CtxSite} {call : Call} (hst : p.stmt site.id = .invoke call)
    (o : CtxObjId) :
    let r := s.internContext (π.calleeContext (s.store.context site.context) site.id
      (s.store.heapObj o))
    s.invoke p π site o = (p.calleeAt (some (s.store.heapObj o).obj.cls) site.id).map fun callee =>
      (r.2.sendReceiver p r.1 o callee).addCall call.kind site ⟨r.1, callee⟩ := by
  have hobj : (s.store.heapObj o).obj = s.store.objectOf o := rfl
  rw [invoke, Program.callAt_eq_ok.mpr hst, hobj]
  cases hcallee : p.calleeAt (some (s.store.objectOf o).cls) site.id with
  | error e =>
    simp only [bind, Except.bind, hcallee]
    rfl
  | ok callee =>
    simp only [bind, Except.bind, hcallee]
    rfl

theorem invoke_following (site : CtxSite) (o : CtxObjId) :
    (s.following past).invoke p π site o = (s.invoke p π site o).map (following past) := by
  cases hcall : p.callAt site.id with
  | error e =>
    rw [invoke, invoke, hcall]
    rfl
  | ok call =>
    have hst := Program.callAt_eq_ok.mp hcall
    rw [invoke_of_call s hst, invoke_of_call (s.following past) hst, store_following,
      internContext_following]
    cases p.calleeAt (some (s.store.heapObj o).obj.cls) site.id with
    | error e => rfl
    | ok callee =>
      simp only [Except.map]
      rw [sendReceiver_following, addCall_following]

theorem perform_following (t : Task) :
    (s.following past).perform p π t = (s.perform p π t).map (following past) := by
  cases t with
  | enter m => exact congrArg Except.ok (enter_following past s m)
  | exec c st => exact exec_following past s c st
  | bindCall site m => exact bindCall_following past s site m
  | receive v o => exact congrArg Except.ok (receive_following past s v o)
  | invoke site o => exact invoke_following past s site o

/-- Sends new objects of a pointer on, and lets a variable receive them. -/
def spread (s : State) (x : PointerId) (delta : ObjSet) : State :=
  let s := (s.flow.successors x).foldl (fun s y => s.send y delta) s
  match s.store.pointer x with
  | .var v => s.plan (delta.toList.map (.receive v))
  | _ => s

theorem spread_following (x : PointerId) (delta : ObjSet) :
    (s.following past).spread x delta = (s.spread x delta).following past := by
  have hsend : ((s.following past).flow.successors x).foldl (fun s y => s.send y delta)
      (s.following past) =
        ((s.flow.successors x).foldl (fun s y => s.send y delta) s).following past := by
    rw [← Array.foldl_toList, ← Array.foldl_toList]
    exact foldl_following past _ _ (fun _ _ => rfl) s
  simp only [spread, hsend]
  generalize (s.flow.successors x).foldl (fun s y => s.send y delta) s = s₁
  rw [store_following]
  cases s₁.store.pointer x with
  | var v => rfl
  | static | field | array => rfl

theorem arrive_eq_spread (x : PointerId) (set : ObjSet) : s.arrive x set =
    if ((s.store.pointees x).absorb set).1.isEmpty then s
    else
      let store := s.store.setPointees x ((s.store.pointees x).absorb set).2
      ({ s with store }.report (.grown ((s.store.pointees x).absorb set).1.size x)).spread x
        ((s.store.pointees x).absorb set).1 := rfl

theorem arrive_following (x : PointerId) (set : ObjSet) :
    (s.following past).arrive x set = (s.arrive x set).following past := by
  rw [arrive_eq_spread, arrive_eq_spread, store_following]
  split
  · rfl
  · rw [← spread_following, ← report_following]
    rfl

end State

/-- A step does not look at the events before it. -/
theorem step_following (past : Array Event) (s : State) :
    step p π (s.following past) =
      (step p π s).map (State.following past) fun r => (r.1, r.2.following past) := by
  rw [step, step, State.agenda_following]
  cases s.agenda with
  | cons t agenda =>
    have h : State.perform p π { s.following past with agenda } t =
        (State.perform p π { s with agenda } t).map (State.following past) :=
      State.perform_following past { s with agenda } t
    simp only [h]
    cases State.perform p π { s with agenda } t with
    | error e => rfl
    | ok s' => rfl
  | nil =>
    simp only [State.queue_following]
    cases s.queue.pop? with
    | none => rfl
    | some entry =>
      let s₁ : State := { s with queue := entry.2, agenda := [] }
      exact congrArg Step.next (State.arrive_following past s₁ entry.1.1 entry.1.2)

section BoundZero

variable (hπ : π.bound = 0)
include hπ

theorem forObject_of_bound_zero (c : Context) : π.forObject c = .empty := by
  cases π with
  | insensitive => rfl
  | callSite k | object k | type k =>
    have hk : k = 0 := hπ
    rw [Policy.forObject, hk]
    exact Context.recent_zero c

theorem forStaticCall_of_bound_zero (s : StmtId) : π.forStaticCall .empty s = .empty := by
  cases π with
  | insensitive => rfl
  | callSite k =>
    have hk : k = 0 := hπ
    rw [Policy.forStaticCall, hk]
    exact Context.recent_zero _
  | object k | type k => rfl

theorem forInstanceCall_of_bound_zero (c : Context) (s : StmtId) (h : Context) (o : Obj) :
    π.forInstanceCall c s h o = .empty := by
  cases π with
  | insensitive => rfl
  | callSite k | object k | type k =>
    have hk : k = 0 := hπ
    rw [Policy.forInstanceCall, hk]
    exact Context.recent_zero _

theorem perform_of_bound_zero {s : State} (hempty : ∀ c, s.store.context c = .empty) (t : Task) :
    s.perform p π t = s.perform p .insensitive t := by
  cases t with
  | exec c st =>
    have hobject : π.forObject (s.context c) = Policy.insensitive.forObject (s.context c) :=
      forObject_of_bound_zero hπ _
    have hcall : π.forStaticCall (s.context c) st =
        Policy.insensitive.forStaticCall (s.context c) st := by
      rw [State.context, hempty]
      exact forStaticCall_of_bound_zero hπ st
    simp only [State.perform, State.exec, hobject, hcall]
  | invoke site o =>
    have hcallee : π.forInstanceCall (s.context site.context) site.id (s.store.heapContextOf o)
        (s.store.objectOf o) = Policy.insensitive.forInstanceCall (s.context site.context) site.id
          (s.store.heapContextOf o) (s.store.objectOf o) :=
      forInstanceCall_of_bound_zero hπ _ _ _ _
    simp only [State.perform, State.invoke, hcallee]
  | enter | bindCall | receive => rfl

theorem step_of_bound_zero {s : State} (hempty : ∀ c, s.store.context c = .empty) :
    step p π s = step p .insensitive s := by
  rw [step, step]
  cases s.agenda with
  | nil => rfl
  | cons t agenda => simp only [perform_of_bound_zero hπ (s := { s with agenda }) hempty t]

end BoundZero

/-- The start of a run, before anything is reported. -/
def silentStart (entry : MethodId) : State := { start .insensitive entry with events := #[] }

theorem start_eq_following (π : Policy) (entry : MethodId) :
    start π entry = (silentStart entry).following #[.started π] := rfl

section Lockstep

variable {entry : MethodId} (hwf : p.WellFormed) (he : p.entry = some entry)
include hwf he

theorem context_of_silent {s : State}
    (h : Step.Reaches (step p .insensitive) (silentStart entry) s) (c : ContextId) :
    s.store.context c = .empty := by
  let past : Array Event := #[.started .insensitive]
  have hreach :
      Step.Reaches (step p .insensitive) (start .insensitive entry) (s.following past) := by
    rw [start_eq_following]
    apply h.lift (State.following past)
    intro s₁ s₂ hstep
    change step p .insensitive (s₁.following past) = .next (s₂.following past)
    rw [step_following, hstep]
    rfl
  exact (moves_of_reaches hreach).context_eq_empty hwf he rfl c

/-- A run with bound zero does what the run without sensitivity does, step by step. -/
theorem steps_of_bound_zero (hπ : π.bound = 0) (n : Nat) :
    Step.steps (step p π) n (start π entry) =
      (Step.steps (step p .insensitive) n (silentStart entry)).map
        (State.following #[.started π]) fun r => (r.1, r.2.following #[.started π]) := by
  rw [start_eq_following]
  apply Step.steps_map
  intro s hs
  rw [step_following, step_of_bound_zero hπ (context_of_silent hwf he hs)]

theorem run_of_bound_zero :
    ∃ e, ∃ s : State, ∀ π : Policy, π.bound = 0 →
      run p π entry = (e, s.following #[.started π]) := by
  let n := 2 ^ stepExponent p .insensitive - 1
  cases hrun : Step.steps (step p .insensitive) n (silentStart entry) with
  | next s =>
    obtain ⟨outcome, hhalt⟩ := halts_of_entry (π := .insensitive) hwf he
    rw [steps_of_bound_zero hwf he rfl, hrun] at hhalt
    cases hhalt
  | halt outcome =>
    refine ⟨outcome.1, outcome.2, fun π hπ => ?_⟩
    have hexponent : stepExponent p π = stepExponent p .insensitive := by
      rw [stepExponent, stepExponent, hπ]
      rfl
    rw [run, Step.run_eq_steps, hexponent, steps_of_bound_zero hwf he hπ, hrun]
    rfl

end Lockstep

end Propagation

/-- With bound zero all kinds of sensitivity give the same answer as none, down to the identifiers,
and report the same but for the name of the policy. -/
theorem analyze_bound_zero {p : Program} (hp : p.Finished) {π : Policy} (hπ : π.bound = 0) :
    (analyze p π).1 = (analyze p .insensitive).1 ∧
    (analyze p π).2.tail = (analyze p .insensitive).2.tail ∧
    (analyze p π).1 ≠ .error .outOfSteps := by
  have hsteps : (analyze p π).1 ≠ .error .outOfSteps := by
    intro herr
    obtain ⟨-, h⟩ | ⟨entry, s, he, hrun⟩ := Propagation.run_of_analyze herr
    · cases h
    · exact Propagation.run_error hp.wellFormed he hrun rfl
  cases he : p.entry with
  | none =>
    refine ⟨?_, ?_, hsteps⟩
    · simp only [analyze, he]
    · simp only [analyze, he]
      rfl
  | some entry =>
    obtain ⟨e, s, hrun⟩ := Propagation.run_of_bound_zero hp.wellFormed he
    refine ⟨?_, ?_, hsteps⟩
    · simp only [analyze, he, hrun π hπ, hrun .insensitive rfl]
      cases e with
      | none => rfl
      | some e => rfl
    · simp only [analyze, he, hrun π hπ, hrun .insensitive rfl]
      cases e with
      | none => simp [Propagation.State.report, Propagation.State.following]
      | some e => simp [Propagation.State.following]

/-- With no object to a context, the two receivers of one method are not told apart. -/
theorem analyze_bound_zero_chain : ∃ r,
    (analyze Description.chain.program (.object 0)).1 = .ok r ∧
    (analyze Description.chain.program .insensitive).1 = .ok r ∧ r.calls.reachable.size = 2 := by
  obtain ⟨r, hr, hsize⟩ := exists_of_toOption_map (b := 2)
    (x := (analyze Description.chain.program (.object 0)).1)
    (f := fun r => r.calls.reachable.size) (by decide +kernel)
  obtain ⟨hsame, -⟩ := analyze_bound_zero Description.chain_finished (π := .object 0) rfl
  rw [hr] at hsame
  exact ⟨r, hr, hsame.symm, hsize⟩

end PointsTo
