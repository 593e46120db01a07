import PointsTo.Proofs.Housing
import PointsTo.Proofs.Members
import PointsTo.Proofs.Outcomes
import PointsTo.Proofs.Queries

namespace PointsTo

namespace CallGraph

variable {σ μ : Type} [Ord σ] [Ord μ] {g : CallGraph σ μ} {sitesOf : μ → List σ} {m : μ}

/-- No method is listed twice, and each call site leads back to the reachable method that it is in.
-/
structure Tracks (g : CallGraph σ μ) (sitesOf : μ → List σ) : Prop where
  consistent : g.Consistent
  nodup : g.reachable.toList.Nodup
  container {m s} (hm : m ∈ g.reachable) (hs : s ∈ sitesOf m) : g.container? s = some m

theorem tracks_empty (sitesOf : μ → List σ) : ({} : CallGraph σ μ).Tracks sitesOf where
  consistent := consistent_entries #[]
  nodup := List.nodup_nil
  container hm := (Array.not_mem_empty _ hm).elim

theorem Tracks.insertEdge (h : g.Tracks sitesOf) (e : Edge σ μ) :
    (g.insertEdge e).2.Tracks sitesOf := by
  by_cases he : e ∈ g.edges
  · rw [insertEdge_of_mem he]
    exact h
  · rw [insertEdge_of_not_mem he]
    exact ⟨h.consistent, h.nodup, h.container⟩

variable [Std.TransOrd σ] [Std.LawfulEqOrd σ]

/-- A new method takes no call site from another one. -/
theorem Tracks.insertMethod [Std.TransOrd μ] [Std.LawfulEqOrd μ] (h : g.Tracks sitesOf)
    (hdisjoint : ∀ {m n s}, s ∈ sitesOf m → s ∈ sitesOf n → m = n) (m : μ) :
    (g.insertMethod m (sitesOf m)).2.Tracks sitesOf := by
  have hconsistent : (g.insertMethod m (sitesOf m)).2.Consistent := h.consistent.insertMethod
  by_cases hc : g.contains m
  · rw [insertMethod_of_mem hc]
    exact h
  · have hfresh : m ∉ g.reachable := fun hm => hc ((h.consistent m).mpr hm)
    rw [insertMethod_of_not_mem hc] at hconsistent ⊢
    refine ⟨hconsistent, ?_, fun {n s} hn hs => ?_⟩
    · rw [Array.toList_push]
      refine List.nodup_append.mpr ⟨h.nodup, List.nodup_singleton m, fun a ha b hb => ?_⟩
      rw [List.mem_singleton.mp hb]
      exact fun ham => hfresh (ham ▸ Array.mem_toList_iff.mp ha)
    · obtain ⟨hmem, hnot⟩ := getElem?_foldl_insert (sitesOf m) m g.containers s
      rw [container?]
      rcases Array.mem_push.mp hn with hn | rfl
      · have hs' : s ∉ sitesOf m := fun hsm => hfresh (hdisjoint hsm hs ▸ hn)
        rw [hnot hs']
        exact h.container hn hs
      · exact hmem hs

end CallGraph

variable {p : Program} {π : Policy} {r : Solution}

/-- The call sites of a method in a context. -/
def Program.sitesIn (p : Program) (m : CtxMethod) : List CtxSite :=
  (p.methodDecl m.id).calls.toList.map fun site => ⟨m.context, site⟩

theorem Program.Listed.mem_sitesIn (h : p.Listed) {m : CtxMethod} {site : CtxSite} :
    site ∈ p.sitesIn m ↔
      (p.stmt site.id).call?.isSome ∧ m = ⟨site.context, p.container site.id⟩ := by
  rw [sitesIn, List.mem_map]
  constructor
  · intro hsite
    obtain ⟨s, hs, rfl⟩ := hsite
    obtain ⟨hcall, hm⟩ := h.calls.mp (Array.mem_toList_iff.mp hs)
    exact ⟨hcall, Qualified.ext rfl hm.symm⟩
  · intro hsite
    obtain ⟨hcall, rfl⟩ := hsite
    exact ⟨site.id, Array.mem_toList_iff.mpr (h.calls.mpr ⟨hcall, rfl⟩), rfl⟩

theorem Program.Listed.eq_of_mem_sitesIn (h : p.Listed) {m n : CtxMethod} {site : CtxSite}
    (hm : site ∈ p.sitesIn m) (hn : site ∈ p.sitesIn n) : m = n :=
  (h.mem_sitesIn.mp hm).2.trans (h.mem_sitesIn.mp hn).2.symm

namespace Propagation

/-- What a task can do to the call graph. -/
inductive CallChange (p : Program) (g : CallGraph CtxSite CtxMethod) :
    CallGraph CtxSite CtxMethod → Prop
  | same : CallChange p g g
  | method (m : CtxMethod) : CallChange p g (g.insertMethod m (p.sitesIn m)).2
  | edge (e : Edge CtxSite CtxMethod) : CallChange p g (g.insertEdge e).2

theorem CallChange.tracks {g g' : CallGraph CtxSite CtxMethod} (h : CallChange p g g')
    (hp : p.Listed) (hg : g.Tracks p.sitesIn) : g'.Tracks p.sitesIn := by
  cases h with
  | same => exact hg
  | method m => exact hg.insertMethod hp.eq_of_mem_sitesIn m
  | edge e => exact hg.insertEdge e

namespace State

variable {s s' : State}

theorem calls_addCall (k : CallKind) (site : CtxSite) (m : CtxMethod) :
    (s.addCall k site m).calls = (s.calls.insertEdge ⟨k, site, m⟩).2 := by
  rw [addCall]
  by_cases he : ⟨k, site, m⟩ ∈ s.calls.edges
  · rw [CallGraph.insertEdge_of_mem he]
  · rw [CallGraph.insertEdge_of_not_mem he]
    rfl

theorem calls_enter (m : CtxMethod) :
    (s.enter p m).calls = (s.calls.insertMethod m (p.sitesIn m)).2 := by
  simp only [enter, Program.sitesIn]
  by_cases hc : s.calls.contains m
  · rw [CallGraph.insertMethod_of_mem hc]
  · rw [CallGraph.insertMethod_of_not_mem hc]
    rfl

theorem callChange_exec {c : ContextId} {st : StmtId} (h : s.exec p π c st = .ok s') :
    CallChange p s.calls s'.calls := by
  have hcase := exec_case p π s c st
  rw [h] at hcase
  cases hcase with
  | new => exact .same
  | copy | loadStatic | storeStatic =>
    rw [(flowOnly_connect s _ _).calls]
    exact .same
  | staticCall hst hk hc hd =>
    cases hd
    rw [calls_addCall]
    exact .edge _
  | wait => exact .same

theorem callChange_perform {t : Task} (h : s.perform p π t = .ok s') :
    CallChange p s.calls s'.calls := by
  cases t with
  | enter m =>
    cases h
    rw [calls_enter]
    exact .method m
  | exec c st => exact callChange_exec h
  | bindCall site m =>
    rw [(flowOnly_bindCall h).calls]
    exact .same
  | receive v o =>
    cases h
    have hcalls : (s.receive p v o).calls = s.calls := (flowOnly_accesses s p v o).calls
    rw [hcalls]
    exact .same
  | invoke site o =>
    have hcase := invoke_case p π s site o
    rw [show s.invoke p π site o = .ok s' from h] at hcase
    cases hcase with
    | call hst hc hd =>
      cases hd
      rw [calls_addCall, (flowOnly_sendReceiver _ p _ o _).calls]
      exact .edge _

theorem calls_arrive (s : State) (i : PointerId) (set : ObjSet) :
    (s.arrive i set).calls = s.calls := by
  by_cases h : ((s.store.pointees i).missing set).isEmpty
  · rw [arrive_of_known h]
  · obtain ⟨queue, events, he, -⟩ := arrive_of_new h
    rw [he]

end State

variable {entry : MethodId} {s : State}

theorem calls_start (π : Policy) (entry : MethodId) :
    ∃ entries, (start π entry).calls = { entries } := by
  obtain ⟨entries, h⟩ := CallGraph.insertEntry_eq (g := ({} : CallGraph CtxSite CtxMethod))
    (m := ⟨(({} : State).report (.started π)).internContext .empty |>.1, entry⟩)
  exact ⟨entries, h⟩

/-- The call graph of a run keeps track of its methods. -/
theorem Moves.tracks (hp : p.Listed) (h : Moves p π (start π entry) s) :
    s.calls.Tracks p.sitesIn := by
  induction h with
  | refl =>
    obtain ⟨entries, hcalls⟩ := calls_start π entry
    rw [hcalls]
    exact ⟨(CallGraph.tracks_empty p.sitesIn).consistent, (CallGraph.tracks_empty p.sitesIn).nodup,
      (CallGraph.tracks_empty p.sitesIn).container⟩
  | tail _ hmove ih =>
    cases hmove with
    | perform ha h => exact (State.callChange_perform h).tracks hp ih
    | deliver ha hq =>
      rw [State.calls_arrive]
      exact ih

end Propagation

/-- What a call can run has a body, and the signature that is named at the call site. -/
theorem Program.Listed.of_calleeAt (h : p.Listed) {recv : Option ClassId} {site : StmtId}
    {m : MethodId} (hm : p.calleeAt recv site = .ok m) :
    ∃ call, p.stmt site = .invoke call ∧ (p.methodDecl m).signature = call.target.signature ∧
      (p.methodDecl m).isAbstract = false := by
  obtain ⟨call, c, hcall, hdispatch⟩ := dispatch_of_calleeAt hm
  obtain ⟨d, hd⟩ := exists_concreteMethod?_of_dispatch hdispatch
  have hconcrete := (Option.filter_eq_some_iff.mp hd).2
  rw [Bool.not_eq_true'] at hconcrete
  exact ⟨call, callAt_eq_ok.mp hcall, h.signature (mem_declared_of_concreteMethod? hd), hconcrete⟩

namespace Solution

theorem Valid.mem_reachable (hr : r.Valid p) {q : CtxMethod}
    (hq : r.store.contexts.values.Holds q.context) :
    .reach (r.store.context q.context) q.id ∈ r.facts ↔ q ∈ r.calls.reachable := by
  obtain ⟨s, hs, rfl⟩ := hr
  exact Propagation.State.mem_facts_reach hs hq

theorem Valid.holds_contexts (hr : r.Valid p) {e : Edge CtxSite CtxMethod}
    (he : e ∈ r.calls.edges) : r.store.contexts.values.Holds e.site.context ∧
      r.store.contexts.values.Holds e.callee.context := by
  obtain ⟨s, hs, rfl⟩ := hr
  exact hs.call he

/-- The method that a call edge leads from. -/
def caller (p : Program) (e : Edge CtxSite CtxMethod) : CtxMethod :=
  ⟨e.site.context, p.container e.site.id⟩

/-- An edge of the call graph fits the program and the rest of the graph. -/
structure Coherent (p : Program) (r : Solution) (e : Edge CtxSite CtxMethod) : Prop where
  call : ∃ call, p.stmt e.site.id = .invoke call ∧ call.kind = e.kind ∧
    (p.methodDecl e.callee.id).signature = call.target.signature
  concrete : (p.methodDecl e.callee.id).isAbstract = false
  caller : caller p e ∈ r.calls.reachable
  container : r.calls.container? e.site = some (Solution.caller p e)
  callee : e.callee ∈ r.calls.reachable

/-- The call graph has an edge between two methods. -/
def Calls (p : Program) (r : Solution) (q q' : CtxMethod) : Prop :=
  ∃ e ∈ r.calls.edges, caller p e = q ∧ e.callee = q'

end Solution

/-- What the least family says of a call, apart from its contexts. -/
theorem Program.Listed.of_call_mem (h : p.Listed) {k : CallKind} {c d : Context} {site : StmtId}
    {m : MethodId} (hcall : .call k c site d m ∈ leastFacts p π) :
    ∃ call, p.stmt site = .invoke call ∧ call.kind = k ∧
      (p.methodDecl m).signature = call.target.signature ∧
      (p.methodDecl m).isAbstract = false := by
  have hcallee {recv : Option ClassId} {call : Call} (hst : p.stmt site = .invoke call)
      (hc : p.calleeAt recv site = .ok m) :
      (p.methodDecl m).signature = call.target.signature ∧
        (p.methodDecl m).isAbstract = false := by
    obtain ⟨call', hst', hm⟩ := h.of_calleeAt hc
    rw [hst] at hst'
    cases hst'
    exact hm
  cases infers_of_mem_leastFacts hcall with
  | staticCall _ _ hst hk hc => exact ⟨_, hst, hk, hcallee hst hc⟩
  | instanceCall _ _ hst _ _ _ hc => exact ⟨_, hst, rfl, hcallee hst hc⟩

theorem coherent_of_mem (hp : p.Finished) (hr : r.Valid p) (hfacts : r.facts = leastFacts p π)
    (htracks : r.calls.Tracks p.sitesIn) {e : Edge CtxSite CtxMethod} (he : e ∈ r.calls.edges) :
    r.Coherent p e := by
  obtain ⟨hsite, hcallee⟩ := hr.holds_contexts he
  have hmem : .call e.kind (r.store.context e.site.context) e.site.id
      (r.store.context e.callee.context) e.callee.id ∈ leastFacts p π := by
    rw [← hfacts]
    exact ⟨e, he, rfl, rfl, rfl, rfl, rfl⟩
  obtain ⟨call, hst, hk, hsignature, hconcrete⟩ := hp.listed.of_call_mem hmem
  have hcaller : Solution.caller p e ∈ r.calls.reachable := by
    refine (hr.mem_reachable (q := Solution.caller p e) hsite).mp ?_
    rw [hfacts]
    exact Propagation.reach_of_call_mem hp.wellFormed hmem
  refine ⟨⟨call, hst, hk, hsignature⟩, hconcrete, hcaller, ?_, ?_⟩
  · apply htracks.container hcaller
    exact hp.listed.mem_sitesIn.mpr ⟨by rw [hst]; rfl, rfl⟩
  · refine (hr.mem_reachable hcallee).mp ?_
    rw [hfacts]
    exact closed_leastFacts p π _ (.callee hmem)

/-- A method in a context can be reached from `start` along call edges. -/
def Solution.Reached (p : Program) (r : Solution) (start : CtxMethod) (c : Context)
    (m : MethodId) : Prop :=
  ∃ q, r.store.contexts.values.Holds q.context ∧ r.store.context q.context = c ∧ q.id = m ∧
    Relation.ReflTransGen (r.Calls p) start q

theorem reached_of_mem (hp : p.Finished) (hr : r.Valid p) (hfacts : r.facts = leastFacts p π)
    {start : CtxMethod} (hstart : r.store.contexts.values.Holds start.context)
    (hempty : r.store.context start.context = .empty) (hentry : p.entry = some start.id)
    {c : Context} {m : MethodId} (hm : .reach c m ∈ leastFacts p π) :
    r.Reached p start c m := by
  let P : Fact → Prop
    | .reach c m => r.Reached p start c m
    | .call _ c site _ _ => r.Reached p start c (p.container site)
    | _ => True
  have hcall {c : Context} {m : MethodId} {site : StmtId} (hm : r.Reached p start c m)
      (hs : site ∈ (p.methodDecl m).stmts) : r.Reached p start c (p.container site) := by
    rw [(hp.wellFormed.body.mp hs).2]
    exact hm
  refine leastFacts_induction (P := P) (fun f hf => ?_) hm
  cases hf with
  | entry h =>
    cases hentry.symm.trans h
    exact ⟨start, hstart, hempty, rfl, .refl⟩
  | staticCall hm hs => exact hcall hm.2 hs
  | instanceCall hm hs => exact hcall hm.2 hs
  | @callee k c site d m h =>
    obtain ⟨q, hq, hqc, hqm, hpath⟩ := h.2
    have hmem := h.1
    rw [← hfacts] at hmem
    obtain ⟨e, he, -, hec, hes, hed, hem⟩ := hmem
    obtain ⟨hsite, hcallee⟩ := hr.holds_contexts he
    have hcaller : Solution.caller p e = q := by
      apply Qualified.ext
      · exact AbstractStore.Valid.context_injective hsite hq (hec.trans hqc.symm)
      · rw [hqm, ← hes]
        rfl
    exact ⟨e.callee, hcallee, hed, hem, hpath.tail ⟨e, he, hcaller, rfl⟩⟩
  | _ => trivial

/-- The call graph of a result is whole in itself and fits the program, and the variables that have
a pointer are those of reachable methods. -/
theorem analyze_coherent {p : Program} (hp : p.Finished) {π : Policy} {r : Solution}
    (h : (analyze p π).1 = .ok r) :
    r.calls.reachable.toList.Nodup ∧
    (∀ e ∈ r.calls.edges, r.Coherent p e) ∧
    (∃ start ∈ r.calls.reachable, p.entry = some start.id ∧
      r.store.context start.context = .empty ∧
      ∀ q ∈ r.calls.reachable, Relation.ReflTransGen (r.Calls p) start q) ∧
    ∀ i v, r.store.pointers.values.get? i = some (.var v) →
      ⟨v.context, (p.varDecl v.id).method⟩ ∈ r.calls.reachable := by
  have hr := Solution.valid_of_analyze h
  obtain ⟨entry, s, he, hmoves, hidle, -, rfl⟩ := Propagation.idle_of_analyze h
  have hfacts : Solution.facts ⟨p, s.store, s.flow, s.calls⟩ = leastFacts p π :=
    hmoves.facts_eq hp.wellFormed he hidle
  have htracks := hmoves.tracks hp.listed
  refine ⟨htracks.nodup, fun e he => coherent_of_mem hp hr hfacts htracks he, ?_, ?_⟩
  · have hentry := closed_leastFacts p π _ (.entry he)
    rw [← hfacts] at hentry
    obtain ⟨start, hstart, hempty, hid⟩ := hentry
    rw [← hid] at he
    refine ⟨start, hstart, he, hempty, fun q hq => ?_⟩
    have hreach : .reach (s.store.context q.context) q.id ∈ leastFacts p π := by
      rw [← hfacts]
      exact ⟨q, hq, rfl, rfl⟩
    obtain ⟨q', hq', hcontext, hid', hpath⟩ :=
      reached_of_mem hp hr hfacts (hr.holds_context hstart) hempty he hreach
    have heq : q' = q := Qualified.ext
      (AbstractStore.Valid.context_injective hq' (hr.holds_context hq) hcontext) hid'
    exact heq ▸ hpath
  · intro i v hi
    have hplace : s.store.place i = .var (s.store.context v.context) v.id := by
      rw [AbstractStore.place, AbstractStore.pointer, Interner.get, Table.get_of_get? hi]
      rfl
    have hhoused := hmoves.housed hp he (Table.holds_of_get? hi)
    rw [hplace, Location.Housed, ← hfacts] at hhoused
    have hv : s.store.contexts.values.Holds v.context := hmoves.valid.store.pointer hi
    exact (hr.mem_reachable hv).mp hhoused

theorem analyze_coherent_boxes : ∃ r e,
    (analyze Description.boxes.program (.object 1)).1 = .ok r ∧ e ∈ r.calls.edges ∧
    r.calls.reachable.toList.Nodup ∧ r.Coherent Description.boxes.program e ∧
    (∃ start ∈ r.calls.reachable, Description.boxes.program.entry = some start.id ∧
      Relation.ReflTransGen (r.Calls Description.boxes.program) start e.callee) ∧
    ∀ i v, r.store.pointers.values.get? i = some (.var v) →
      ⟨v.context, (Description.boxes.program.varDecl v.id).method⟩ ∈ r.calls.reachable := by
  obtain ⟨r, hr, hedges⟩ := exists_of_toOption_map (b := false)
    (x := (analyze Description.boxes.program (.object 1)).1)
    (f := fun r => r.calls.edgeList.isEmpty) (by decide +kernel)
  obtain ⟨e, he⟩ := List.exists_mem_of_ne_nil _ (List.isEmpty_eq_false_iff.mp hedges)
  have he : e ∈ r.calls.edges := Std.TreeSet.mem_toList.mp he
  obtain ⟨hnodup, hcoherent, ⟨start, hstart, hentry, -, hpath⟩, hpointers⟩ :=
    analyze_coherent Description.boxes_finished hr
  exact ⟨r, e, hr, he, hnodup, hcoherent e he,
    ⟨start, hstart, hentry, hpath _ (hcoherent e he).callee⟩, hpointers⟩

end PointsTo
