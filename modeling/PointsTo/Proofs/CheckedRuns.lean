import PointsTo.Proofs.CheckedSteps

namespace PointsTo

namespace Checked

open Propagation

section Definitions

variable (p : Program) (π : Policy)

def step (s : State) : Option (Step State Outcome) :=
  match s.agenda with
  | task :: agenda => do
    match ← perform p π { s with agenda } task with
    | .ok s => return .next s
    | .error e => return .halt (some e, s)
  | [] =>
    match s.queue.pop? with
    | some ((x, set), queue) => do
      let s ← arrive { s with queue } x set
      return .next s
    | none => some (.halt (none, s))

def run (entry : MethodId) : Option Outcome :=
  match Step.run (Step.guarded (step p π)) (stepExponent p π) (start π entry) with
  | .halt outcome => outcome
  | .next s => some (some .outOfSteps, s)

def elemLabel : ContextElem → Option String
  | .call site => stmtLabel p site
  | .alloc site => do
    let label ← stmtLabel p site
    return "new@" ++ label
  | .type cls => className p cls

def contextLabel (c : Context) : Option String := do
  let labels ← c.elems.mapM (elemLabel p)
  return "[" ++ ", ".intercalate labels ++ "]"

def line (A : AbstractStore) : Event → Option Line
  | .reached m => do
    let c ← A.contexts.values.get? m.context
    let context ← contextLabel p c
    let label ← methodLabel p m.id
    return ⟨.debug, s!"new reachable method {label} in context {context}"⟩
  | .called kind site callee => do
    let siteLabel ← stmtLabel p site
    let label ← methodLabel p callee
    return ⟨.debug, s!"new {kind.text} call edge {siteLabel} -> {label}"⟩
  | .started policy => some ((Event.started policy).line p A)
  | .grown count x => some ((Event.grown count x).line p A)
  | .finished reachable edges pointers => some ((Event.finished reachable edges pointers).line p A)

def analyze : Option (Except AnalysisError Solution × Journal) :=
  match p.entry with
  | none => do
    let started ← line p {} (.started π)
    return (.error .noEntryMethod, [started])
  | some entry => do
    match ← run p π entry with
    | (some e, s) =>
      let lines ← s.events.toList.mapM (line p s.store)
      return (.error e, lines)
    | (none, s) =>
      let r : Solution := { program := p, store := s.store, flow := s.flow, calls := s.calls }
      let s := s.report
        (.finished r.calls.reachable.size r.calls.edges.size r.store.pointers.size)
      let lines ← s.events.toList.mapM (line p s.store)
      return (.ok r, lines)

end Definitions

end Checked

namespace Propagation

variable {p : Program} {π : Policy} {entry : MethodId} {s s' : State}

/-- What an event reports is in the call graph. -/
def Event.Backed (g : CallGraph CtxSite CtxMethod) : Event → Prop
  | reached m => m ∈ g.reachable
  | called k site callee => ∃ c d, ⟨k, ⟨c, site⟩, ⟨d, callee⟩⟩ ∈ g.edges
  | _ => True

theorem Event.Backed.mono {g g' : CallGraph CtxSite CtxMethod} (hg : g.Consistent)
    (h : CallChange p g g') {e : Event} (he : e.Backed g) : e.Backed g' := by
  cases h with
  | same => exact he
  | method m =>
    cases e with
    | reached n => exact (CallGraph.mem_reachable_insertMethod hg).mpr (.inl he)
    | called k site callee =>
      rw [Event.Backed, CallGraph.edges_insertMethod]
      exact he
    | _ => trivial
  | edge e' =>
    cases e with
    | reached n =>
      rw [Event.Backed, CallGraph.reachable_insertEdge]
      exact he
    | called k site callee =>
      obtain ⟨c, d, hmem⟩ := he
      exact ⟨c, d, CallGraph.mem_edges_insertEdge.mpr (.inl hmem)⟩
    | _ => trivial

namespace State

/-- A call that is reported is in the call graph. -/
theorem backed_addCall {k : CallKind} {site : CtxSite} {m : CtxMethod} {e : Event}
    (he : e ∈ (s.addCall k site m).events) :
    e ∈ s.events ∨ e.Backed (s.addCall k site m).calls := by
  rw [calls_addCall]
  have hedge : ⟨k, site, m⟩ ∈ (s.calls.insertEdge ⟨k, site, m⟩).2.edges :=
    CallGraph.mem_edges_insertEdge.mpr (.inr rfl)
  rw [addCall] at he
  split at he
  · exact .inl he
  · rcases Array.mem_push.mp he with he | rfl
    · exact .inl he
    · exact .inr ⟨site.context, m.context, hedge⟩

theorem backed_enter (hs : s.calls.Consistent) {m : CtxMethod} {e : Event}
    (he : e ∈ (s.enter p m).events) : e ∈ s.events ∨ e.Backed (s.enter p m).calls := by
  rw [calls_enter]
  have hm : m ∈ (s.calls.insertMethod m (p.sitesIn m)).2.reachable :=
    (CallGraph.mem_reachable_insertMethod hs).mpr (.inr rfl)
  simp only [enter] at he
  split at he
  · exact .inl he
  · rcases Array.mem_push.mp he with he | rfl
    · exact .inl he
    · exact .inr hm

theorem events_sendReceiver (d : ContextId) (o : CtxObjId) (callee : MethodId) :
    (s.sendReceiver p d o callee).events = s.events := by
  rw [sendReceiver]
  cases (p.methodDecl callee).this with
  | none => rfl
  | some this => rfl

theorem backed_perform {t : Task} (h : s.perform p π t = .ok s') (hs : s.calls.Consistent)
    {e : Event} (he : e ∈ s'.events) : e ∈ s.events ∨ e.Backed s'.calls := by
  cases t with
  | enter m =>
    cases h
    exact backed_enter hs he
  | exec c st =>
    have hcase := exec_case p π s c st
    rw [show s.exec p π c st = .ok s' from h] at hcase
    cases hcase with
    | new => exact .inl he
    | copy | loadStatic | storeStatic =>
      rw [(flowOnly_connect s _ _).events] at he
      exact .inl he
    | staticCall hst hk hc hd =>
      cases hd
      exact backed_addCall he
    | wait => exact .inl he
  | bindCall site m =>
    rw [(flowOnly_bindCall h).events] at he
    exact .inl he
  | receive v o =>
    cases h
    have hevents : (s.receive p v o).events = s.events :=
      (flowOnly_accesses s p v o).events
    rw [hevents] at he
    exact .inl he
  | invoke site o =>
    have hcase := invoke_case p π s site o
    rw [show s.invoke p π site o = .ok s' from h] at hcase
    cases hcase with
    | call hst hc hd =>
      cases hd
      rcases backed_addCall he with he | he
      · rw [events_sendReceiver] at he
        exact .inl he
      · exact .inr he

theorem backed_arrive {x : PointerId} {set : ObjSet} {e : Event}
    (he : e ∈ (s.arrive x set).events) :
    e ∈ s.events ∨ e.Backed (s.arrive x set).calls := by
  by_cases hd : ((s.store.pointees x).missing set).isEmpty
  · rw [arrive_of_known hd] at he
    exact .inl he
  · simp only [arrive, ObjSet.absorb, hd, Bool.false_eq_true, if_false] at he
    rw [← Array.foldl_toList] at he
    generalize hfold : List.foldl _ _ _ = t at he
    have hevents : t.events = s.events.push (.grown ((s.store.pointees x).missing set).size x) := by
      obtain ⟨queue, hqueue, -⟩ := foldl_send _ _ _
      rw [← hfold, hqueue]
      rfl
    have hmem : e ∈ t.events := by
      revert he
      cases t.store.pointer x with
      | var v => exact id
      | _ => exact id
    rw [hevents] at hmem
    rcases Array.mem_push.mp hmem with hmem | rfl
    · exact .inl hmem
    · exact .inr trivial

end State

/-- Every event of a run reports something that is in the call graph. -/
theorem Moves.backed (h : Moves p π (start π entry) s) :
    ∀ e ∈ s.events, e.Backed s.calls := by
  induction h with
  | refl =>
    intro e he
    have hstarted : e = .started π := by
      have hevents : (start π entry).events = #[.started π] := rfl
      rw [hevents] at he
      exact Array.mem_singleton.mp he
    rw [hstarted]
    trivial
  | tail hmoves hmove ih =>
    have hconsistent := (Moves.valid hmoves).calls
    intro e he
    cases hmove with
    | perform ha h =>
      have hchange := State.callChange_perform h
      rcases State.backed_perform h hconsistent he with he | he
      · exact (ih e he).mono hconsistent hchange
      · exact he
    | deliver ha hq =>
      rcases State.backed_arrive he with he | he
      · rw [State.calls_arrive]
        exact ih e he
      · exact he

end Propagation

namespace Checked

open Propagation

variable {p : Program} {π : Policy} {entry : MethodId} {s s' : State}

theorem elemLabel_eq (hp : p.Linked) {e : ContextElem} (h : e.Fits p) :
    elemLabel p e = some (e.label p) := by
  cases e with
  | call site => exact stmtLabel_eq hp h
  | alloc site => exact congrArg (Option.bind · fun l => some ("new@" ++ l)) (stmtLabel_eq hp h)
  | type cls => exact className_eq h

theorem contextLabel_eq (hp : p.Linked) {c : Context} {k : Nat} (h : c.Fits p k) :
    contextLabel p c = some (c.label p) := by
  have hlabels : c.elems.mapM (elemLabel p) = some (c.elems.map (·.label p)) :=
    mapM_eq_some fun e he => elemLabel_eq hp (h.elem e he)
  rw [contextLabel, hlabels]
  rfl

/-- An event is shown with names that are there. -/
theorem line_eq (hp : p.Linked) (hs : s.Valid p) {k : Nat} (hfits : ∀ f ∈ s.facts, f.Fits p k)
    {e : Event} (he : e.Backed s.calls) : line p s.store e = some (e.line p s.store) := by
  cases e with
  | reached m =>
    have hcontext := hs.reachable he
    obtain ⟨hc, hm⟩ := hfits _ ((State.mem_facts_reach hs hcontext).mpr he)
    have hget : s.store.contexts.values.get? m.context = some (s.store.context m.context) :=
      Table.get?_of_holds hcontext
    simp only [line, hget, contextLabel_eq hp hc, methodLabel_eq hm,
      Option.bind_eq_bind, Option.bind_some]
    rfl
  | called kind site callee =>
    obtain ⟨c, d, hedge⟩ := he
    obtain ⟨hc, hd⟩ := hs.call hedge
    obtain ⟨-, hsite, -, hcallee⟩ := hfits _ ((State.mem_facts_call hs hc hd).mpr hedge)
    simp only [line, stmtLabel_eq hp hsite, methodLabel_eq hcallee,
      Option.bind_eq_bind, Option.bind_some]
    rfl
  | _ => rfl

theorem step_eq (hp : p.Linked) (he : p.entry = some entry) (h : Moves p π (start π entry) s) :
    step p π s = some (Propagation.step p π s) := by
  rw [step, Propagation.step]
  cases ha : s.agenda with
  | cons task agenda =>
    obtain ⟨hs, htask⟩ := h.valid.popTask ha
    have hmem : task ∈ s.agenda := ha ▸ List.mem_cons_self
    have hperform : perform p π { s with agenda } task =
        some (State.perform p π { s with agenda } task) :=
      perform_eq hp hs htask (h.inRange hp.wellFormed he hmem)
    simp only [hperform, Option.bind_eq_bind, Option.bind_some]
    cases State.perform p π { s with agenda } task with
    | ok s' => rfl
    | error e => rfl
  | nil =>
    dsimp only
    cases hq : s.queue.pop? with
    | none => rfl
    | some head =>
      obtain ⟨⟨x, set⟩, queue⟩ := head
      obtain ⟨hs, hx, -⟩ := h.valid.popEntry (.of_eq (Queue.toList_of_pop? hq))
      have harrive : arrive { s with queue } x set = some (State.arrive { s with queue } x set) :=
        arrive_eq hs hx set
      rw [ha] at harrive
      simp only [harrive, Option.bind_eq_bind, Option.bind_some]
      rfl

theorem run_eq (hp : p.Linked) (he : p.entry = some entry) :
    run p π entry = some (Propagation.run p π entry) := by
  have hstep (s : State) (hreach : Step.Reaches (Propagation.step p π) (start π entry) s) :
      step p π s = some (Propagation.step p π s) :=
    step_eq hp he (moves_of_reaches hreach)
  have hguarded := Step.steps_guarded (Propagation.step p π) (step p π)
    (2 ^ stepExponent p π - 1) hstep
  rw [run, Propagation.run, Step.run_eq_steps, Step.run_eq_steps, hguarded]
  cases Step.steps (Propagation.step p π) (2 ^ stepExponent p π - 1) (start π entry) with
  | next s => rfl
  | halt outcome => rfl

/-- The points-to analysis looks up nothing that is not there. -/
theorem analyze_eq (hp : p.Finished) (π : Policy) :
    analyze p π = some (PointsTo.analyze p π) := by
  rw [analyze, PointsTo.analyze]
  cases he : p.entry with
  | none => rfl
  | some entry =>
    obtain ⟨e, s, hrun, hmoves, -⟩ := run_ends (π := π) hp.wellFormed he
    have hlines {events : Array Event} (h : ∀ e ∈ events, e.Backed s.calls) :
        events.toList.mapM (line p s.store) = some (events.toList.map (·.line p s.store)) :=
      mapM_eq_some fun e hmem => line_eq hp.linked hmoves.valid
        (hmoves.fits hp.wellFormed he) (h e (Array.mem_toList_iff.mp hmem))
    have hbacked := hmoves.backed
    simp only [run_eq hp.linked he, hrun, Option.bind_eq_bind, Option.bind_some]
    cases e with
    | some e =>
      simp only [hlines hbacked, Option.bind_some]
      rfl
    | none =>
      have hfinished : ∀ e ∈ (s.report (.finished s.calls.reachable.size s.calls.edges.size
          s.store.pointers.size)).events, e.Backed s.calls := by
        intro e hmem
        rcases Array.mem_push.mp hmem with hmem | rfl
        · exact hbacked e hmem
        · trivial
      have hstore : (s.report (.finished s.calls.reachable.size s.calls.edges.size
          s.store.pointers.size)).store = s.store := rfl
      simp only [hstore, hlines hfinished, Option.bind_some]
      rfl

end Checked

/-- An error that is about the analysis or about the form of the program, not about what the program
calls. -/
def AnalysisError.IsInternal : AnalysisError → Prop
  | notACall _ | notAnAllocation _ | primitiveAllocation _ | unknownClass _ | outOfSteps => True
  | _ => False

variable {p : Program} {π : Policy} {e : AnalysisError}

theorem Fails.not_isInternal {K : Set Fact} (h : Fails p K e) : ¬e.IsInternal := by
  cases h with
  | dynamic => exact id
  | staticCall => exact id
  | instanceCall => exact id

/-- When the targets of a call cannot be found, the error is about the call. -/
theorem Program.not_isInternal_of_chaTargets {site : StmtId} {call : Call}
    (hst : p.stmt site = .invoke call) (h : p.chaTargets site = .error e) : ¬e.IsInternal := by
  have hcall : p.callAt site = .ok call := callAt_eq_ok.mpr hst
  have hcallee (he : p.calleeAt none site = .error e) : ¬e.IsInternal := by
    have hat {c : ClassId} {g : Signature} (h : p.dispatchAt site c g = .error e) :
        ¬e.IsInternal := by
      rw [dispatchAt] at h
      split at h
      · cases h
      · cases h
        exact id
    rw [calleeAt, hcall] at he
    simp only [bind, Except.bind] at he
    cases hk : call.kind with
    | static =>
      simp only [hk] at he
      split at he
      · cases he
      · cases he
        exact id
    | special | virtual | interface =>
      simp only [hk] at he
      exact hat he
    | dynamic =>
      simp only [hk] at he
      cases he
      exact id
  rw [chaTargets, hcall] at h
  simp only [bind, Except.bind] at h
  cases hk : call.kind with
  | virtual | interface =>
    simp only [hk] at h
    cases h
  | static | special | dynamic =>
    simp only [hk] at h
    cases hm : p.calleeAt none site with
    | ok m =>
      rw [hm] at h
      cases h
    | error e' =>
      rw [hm] at h
      cases h
      exact hcallee hm

theorem not_isInternal_of_chaCallGraph (hp : p.Finished) (h : p.chaCallGraph.1 = .error e) :
    ¬e.IsInternal := by
  rcases chaCallGraph_error hp h with ⟨-, rfl⟩ | ⟨entry, site, call, -, hst, -, htargets⟩
  · exact id
  · exact Program.not_isInternal_of_chaTargets hst htargets

theorem not_isInternal_of_analyze (hp : p.Finished) (h : (analyze p π).1 = .error e) :
    ¬e.IsInternal := by
  have hrun := analyzesTo_analyze hp π
  rw [h] at hrun
  rcases hrun.of_error hp with ⟨-, rfl⟩ | ⟨-, hfails⟩
  · exact id
  · exact hfails.not_isInternal

/-- Neither analysis of a finished program looks up anything that is not there: with checked lookups
they do just the same. An error of theirs is about the calls of the program. -/
theorem analyses_in_range {p : Program} (hp : p.Finished) (π : Policy) :
    (Checked.chaCallGraph p = some p.chaCallGraph ∧
      ∀ e, p.chaCallGraph.1 = .error e → ¬e.IsInternal) ∧
    (Checked.analyze p π = some (analyze p π) ∧
      ∀ e, (analyze p π).1 = .error e → ¬e.IsInternal) ∧
    (∀ site x t, p.stmt site = .new x t → ∃ obj, p.objectAt site = .ok obj) ∧
    (∀ m, ∀ site ∈ (p.methodDecl m).calls, ∃ call, p.callAt site = .ok call) ∧
    (∀ v, ∀ site ∈ (p.varDecl v).calls, ∃ call, p.callAt site = .ok call) ∧
    ∀ entry s, p.entry = some entry → Propagation.Moves p π (Propagation.start π entry) s →
      s.Valid p ∧ (∀ t ∈ s.agenda, t.InRange p) ∧ ∀ f ∈ s.facts, f.Fits p π.bound := by
  refine ⟨⟨Checked.chaCallGraph_eq hp, fun e => not_isInternal_of_chaCallGraph hp⟩,
    ⟨Checked.analyze_eq hp π, fun e => not_isInternal_of_analyze hp⟩,
    fun site x t hst => hp.exists_object hst, ?_, ?_, ?_⟩
  · intro m site hsite
    obtain ⟨⟨call, hst⟩, -⟩ := hp.listed.mem_calls_iff.mp hsite
    exact ⟨call, Program.callAt_eq_ok.mpr hst⟩
  · intro v site hsite
    have huse : (p.stmt site).use? = some (v, .call) := hp.wellFormed.uses.mp hsite
    obtain ⟨call, hst, -⟩ := Stmt.exists_call_of_use? huse
    exact ⟨call, Program.callAt_eq_ok.mpr hst⟩
  · intro entry s he h
    exact ⟨h.valid, fun t => h.inRange hp.wellFormed he, h.fits hp.wellFormed he⟩

theorem analyses_in_range_strays :
    let p := (Description.strays true).program
    p.Finished ∧ Checked.chaCallGraph p = some p.chaCallGraph ∧
      Checked.analyze p (.object 1) = some (analyze p (.object 1)) ∧
      ∃ e, (analyze p (.object 1)).1 = .error e ∧ ¬e.IsInternal := by
  intro p
  have hp : p.Finished := Description.program_finished (by decide +kernel)
  have hfail : (analyze p (.object 1)).1.toOption.isSome = false := by decide +kernel
  obtain ⟨⟨hcha, -⟩, ⟨hpta, herror⟩, -⟩ := analyses_in_range hp (.object 1)
  refine ⟨hp, hcha, hpta, ?_⟩
  cases hr : (analyze p (.object 1)).1 with
  | ok r =>
    rw [hr] at hfail
    cases hfail
  | error e => exact ⟨e, rfl, herror e hr⟩

end PointsTo
