import PointsTo.Proofs.Coherence
import PointsTo.Proofs.ContextShapes

namespace PointsTo

namespace Step

variable {σ ρ : Type} {step : σ → Step σ ρ} {s s' : σ} {l : List σ}

/-- A machine goes from `s` to a state by way of others, in each of which it takes one step. -/
inductive Trail (step : σ → Step σ ρ) (s : σ) : List σ → σ → Prop
  | start : Trail step s [] s
  | next {l : List σ} {s₁ s₂ : σ} (h : Trail step s l s₁) (hstep : step s₁ = .next s₂) :
      Trail step s (l ++ [s₁]) s₂

theorem Trail.reaches (h : Trail step s l s') : Reaches step s s' := by
  induction h with
  | start => exact .refl
  | next _ hstep ih => exact .tail ih hstep

theorem Reaches.exists_trail (h : Reaches step s s') : ∃ l, Trail step s l s' := by
  induction h with
  | refl => exact ⟨[], .start⟩
  | tail _ hstep ih =>
    obtain ⟨l, hl⟩ := ih
    exact ⟨_, hl.next hstep⟩

end Step

namespace Propagation

variable {p : Program} {π : Policy} {entry : MethodId} {s s' s'' : State} {l : List State}

theorem valid_of_trail (h : Step.Trail (step p π) (start π entry) l s) : s.Valid p :=
  (moves_of_reaches h.reaches).valid

namespace State

/-- All that is known in `s` is known in `s'`, under the same identifiers. -/
structure Within (s s' : State) : Prop where
  store : s'.store.Extends s.store
  pointees {x o} (h : (s.store.pointees x).contains o) : (s'.store.pointees x).contains o
  flow {x y} (h : (x, y) ∈ s.flow.edges) : (x, y) ∈ s'.flow.edges
  call {e} (h : e ∈ s.calls.edges) : e ∈ s'.calls.edges
  reachable {m} (h : m ∈ s.calls.reachable) : m ∈ s'.calls.reachable

theorem Within.trans (h₁ : s.Within s') (h₂ : s'.Within s'') : s.Within s'' where
  store := h₂.store.trans h₁.store
  pointees h := h₂.pointees (h₁.pointees h)
  flow h := h₂.flow (h₁.flow h)
  call h := h₂.call (h₁.call h)
  reachable h := h₂.reachable (h₁.reachable h)

/-- Facts that are kept are kept under their identifiers, as these keep their meaning. -/
theorem within_of_facts (hs : s.Valid p) (hs' : s'.Valid p) (hE : s'.store.Extends s.store)
    (hF : s.facts ⊆ s'.facts) : s.Within s' where
  store := hE
  pointees {x o} h := by
    have hx := hs.holds_of_pointee h
    have ho := hs.store.member h
    have hfact := hF ((mem_facts_pts hs hx ho).mpr h)
    rw [← hE.place hs.store hx, ← hE.heapObj hs.store ho] at hfact
    exact (mem_facts_pts hs' (hE.pointers.holds hx) (hE.ctxObjects.holds ho)).mp hfact
  flow {x y} h := by
    obtain ⟨hx, hy⟩ := hs.edge h
    have hfact := hF ((mem_facts_flow hs hx hy).mpr h)
    rw [← hE.place hs.store hx, ← hE.place hs.store hy] at hfact
    exact (mem_facts_flow hs' (hE.pointers.holds hx) (hE.pointers.holds hy)).mp hfact
  call {e} h := by
    obtain ⟨hc, hd⟩ := hs.call h
    have hfact := hF ((mem_facts_call hs hc hd).mpr h)
    rw [← hE.context hc, ← hE.context hd] at hfact
    exact (mem_facts_call hs' (hE.contexts.holds hc) (hE.contexts.holds hd)).mp hfact
  reachable {m} h := by
    have hm := hs.reachable h
    have hfact := hF ((mem_facts_reach hs hm).mpr h)
    rw [← hE.context hm] at hfact
    exact (mem_facts_reach hs' (hE.contexts.holds hm)).mp hfact

end State

theorem Move.within (hs : s.Valid p) (h : Move p π s s') : s.Within s' := by
  have hturn := h.turn hs
  refine State.within_of_facts hs hturn.valid (h.extends hs) ?_
  cases hturn with
  | work s₀ ch hf _ _ hE _ => exact hf ▸ hE.facts_subset
  | arrive s₀ C hf _ _ hA => exact hf ▸ fun f h => (hA.facts f).mpr (.inl h)

/-- Along a run nothing is lost, from each state to all later ones. -/
theorem within_of_trail (h : Step.Trail (step p π) (start π entry) l s) :
    (l ++ [s]).Pairwise State.Within := by
  induction h with
  | start => exact List.pairwise_singleton _ _
  | @next l s₁ s₂ hprev hstep ih =>
    have hlast : s₁.Within s₂ := (move_of_step hstep).within (valid_of_trail hprev)
    refine List.pairwise_append.mpr ⟨ih, List.pairwise_singleton _ _, ?_⟩
    intro a ha b hb
    rw [List.mem_singleton.mp hb]
    rcases List.mem_append.mp ha with ha | ha
    · exact ((List.pairwise_append.mp ih).2.2 a ha s₁ (List.mem_singleton_self s₁)).trans hlast
    · rw [List.mem_singleton.mp ha]
      exact hlast

/-- A task that neither looks at a statement nor does what a variable is used for. -/
def Task.Leads : Task → Prop
  | exec .. | receive .. => False
  | _ => True

namespace State

theorem agenda_addCall (s : State) (k : CallKind) (site : CtxSite) (m : CtxMethod) :
    ∃ tasks, (s.addCall k site m).agenda = tasks ++ s.agenda ∧ ∀ t ∈ tasks, t.Leads := by
  rw [addCall]
  split
  · exact ⟨[], rfl, fun t ht => (List.not_mem_nil ht).elim⟩
  · refine ⟨[.enter m, .bindCall site m], rfl, fun t ht => ?_⟩
    simp only [List.mem_cons, List.not_mem_nil, or_false] at ht
    rcases ht with rfl | rfl
    · trivial
    · trivial

theorem same_of_internContext {D : Context} {d : ContextId} (h : s.internContext D = (d, s')) :
    s'.calls = s.calls ∧ s'.agenda = s.agenda := by
  cases h
  exact ⟨rfl, rfl⟩

/-- A variable is used on the objects that are new to it before anything else is done. -/
theorem agenda_arrive (s : State) (x : PointerId) (set : ObjSet) : (s.arrive x set).agenda =
    s.arrivalTasks x ((s.store.pointees x).missing set) ++ s.agenda := by
  by_cases hempty : ((s.store.pointees x).missing set).isEmpty
  · have hnil : ((s.store.pointees x).missing set).toList = [] := by
      rw [List.eq_nil_iff_forall_not_mem]
      intro o ho
      rw [ObjSet.mem_toList, ObjSet.isEmpty_iff.mp hempty o] at ho
      cases ho
    rw [arrive_of_known hempty, arrivalTasks, hnil]
    cases s.store.pointer x <;> rfl
  · obtain ⟨queue, events, he, -⟩ := arrive_of_new hempty
    rw [he]

/-- What a task leaves to be done. The statements of a method are planned when it becomes
reachable. -/
inductive Plans (p : Program) (s s' : State) : Task → Prop
  | body {m} (hm : ¬s.calls.contains m) (hr : s'.calls.reachable = s.calls.reachable.push m)
      (ha : s'.agenda = (p.methodDecl m.id).stmts.toList.map (.exec m.context) ++ s.agenda) :
      Plans p s s' (.enter m)
  | other {t tasks} (ht : ∀ m, t = .enter m → s.calls.contains m)
      (hr : s'.calls.reachable = s.calls.reachable) (ha : s'.agenda = tasks ++ s.agenda)
      (htasks : ∀ t' ∈ tasks, t'.Leads) : Plans p s s' t

theorem Plans.none {t : Task} (ht : ∀ m, t = .enter m → s.calls.contains m)
    (hc : s'.calls = s.calls) (ha : s'.agenda = s.agenda) : Plans p s s' t := by
  have ha' : s'.agenda = [] ++ s.agenda := ha
  exact .other ht (congrArg CallGraph.reachable hc) ha' fun _ h => (List.not_mem_nil h).elim

theorem Plans.flow {t : Task} (ht : ∀ m, t ≠ .enter m) (h : s.FlowOnly s') : Plans p s s' t :=
  .none (fun m hm => (ht m hm).elim) h.calls h.agenda

theorem Plans.addCall {t : Task} (ht : ∀ m, t ≠ .enter m) (hc : s'.calls = s.calls)
    (ha : s'.agenda = s.agenda) (k : CallKind) (site : CtxSite) (m : CtxMethod) :
    Plans p s (s'.addCall k site m) t := by
  obtain ⟨tasks, htasks, hleads⟩ := agenda_addCall s' k site m
  refine .other (fun n hn => (ht n hn).elim) ?_ (ha ▸ htasks) hleads
  rw [calls_addCall, CallGraph.reachable_insertEdge, hc]

theorem plans_enter (m : CtxMethod) : Plans p s (s.enter p m) (.enter m) := by
  by_cases hm : s.calls.contains m
  · have hsame : s.enter p m = s := by
      simp only [enter]
      rw [CallGraph.insertMethod_of_mem hm]
    rw [hsame]
    exact .none (fun n hn => by cases hn; exact hm) rfl rfl
  · refine .body hm ?_ ?_
    · rw [calls_enter, CallGraph.insertMethod_of_not_mem hm]
    · simp only [enter]
      rw [CallGraph.insertMethod_of_not_mem hm]
      rfl

theorem plans_exec {c : ContextId} {st : StmtId} (h : s.exec p π c st = .ok s') :
    Plans p s s' (.exec c st) := by
  have hcase := exec_case p π s c st
  rw [h] at hcase
  cases hcase with
  | new => exact .none (fun m hm => nomatch hm) rfl rfl
  | copy | loadStatic | storeStatic =>
    exact .flow (fun m hm => nomatch hm) (flowOnly_connect s _ _)
  | staticCall hst hk hc hd =>
    obtain ⟨hcalls, hagenda⟩ := same_of_internContext hd
    exact .addCall (t := .exec c st) (fun m hm => nomatch hm) hcalls hagenda _ _ _
  | wait => exact .none (fun m hm => nomatch hm) rfl rfl

theorem plans_receive (v : CtxVar) (o : CtxObjId) : Plans p s (s.receive p v o) (.receive v o) := by
  have haccess := flowOnly_accesses s p v o
  have hcalls : (s.receive p v o).calls = s.calls := haccess.calls
  have hagenda : (s.receive p v o).agenda =
      ((p.varDecl v.id).calls.toList.map fun site => .invoke ⟨v.context, site⟩ o) ++ s.agenda := by
    rw [← haccess.agenda]
    rfl
  refine .other (fun m hm => nomatch hm) (congrArg CallGraph.reachable hcalls) hagenda ?_
  intro t ht
  obtain ⟨site, -, rfl⟩ := List.mem_map.mp ht
  trivial

theorem plans_invoke {site : CtxSite} {o : CtxObjId} (h : s.invoke p π site o = .ok s') :
    Plans p s s' (.invoke site o) := by
  have hcase := invoke_case p π s site o
  rw [h] at hcase
  cases hcase with
  | @call call callee d s₁ hst hc hd =>
    obtain ⟨hcalls, hagenda⟩ := same_of_internContext hd
    have hsend := flowOnly_sendReceiver s₁ p d o callee
    exact .addCall (t := .invoke site o) (fun m hm => nomatch hm) (hsend.calls.trans hcalls)
      (hsend.agenda.trans hagenda) _ _ _

theorem plans_perform {t : Task} (h : s.perform p π t = .ok s') : Plans p s s' t := by
  cases t with
  | enter m =>
    cases h
    exact plans_enter m
  | exec c st => exact plans_exec h
  | bindCall site m => exact .flow (fun m hm => nomatch hm) (flowOnly_bindCall h)
  | receive v o =>
    cases h
    exact plans_receive v o
  | invoke site o => exact plans_invoke h

end State

end Propagation

end PointsTo
