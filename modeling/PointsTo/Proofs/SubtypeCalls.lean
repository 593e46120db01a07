import PointsTo.HierarchyAnalysis
import PointsTo.Proofs.Outcomes
import PointsTo.Proofs.Queries
import PointsTo.Proofs.Subtypes

namespace PointsTo

namespace HierarchyAnalysis

variable {p : Program} {entry : MethodId} {s s' : State}

/-- A call site has been resolved: a graph has the edges to all its targets. -/
def Resolved (p : Program) (g : CallGraph StmtId MethodId) (site : StmtId) : Prop :=
  ∃ call targets, p.callAt site = .ok call ∧ p.chaTargets site = .ok targets ∧
    ∀ m ∈ targets, ⟨call.kind, site, m⟩ ∈ g.edges

/-- What a search has found is complete, apart from what is still to be done. -/
structure State.Complete (p : Program) (entry : MethodId) (s : State) : Prop where
  consistent : s.graph.Consistent
  entry : entry ∈ s.graph.reachable ∨ entry ∈ s.pending.toList
  callee {e} (he : e ∈ s.graph.edges) :
    e.callee ∈ s.graph.reachable ∨ e.callee ∈ s.pending.toList
  site {m site} (hm : m ∈ s.graph.reachable) (hs : site ∈ (p.methodDecl m).calls) :
    site ∈ s.sites ∨ Resolved p s.graph site

theorem Resolved.mono {g g' : CallGraph StmtId MethodId} {site : StmtId} (h : Resolved p g site)
    (hedges : ∀ e ∈ g.edges, e ∈ g'.edges) : Resolved p g' site := by
  obtain ⟨call, targets, hcall, htargets, hmem⟩ := h
  exact ⟨call, targets, hcall, htargets, fun m hm => hedges _ (hmem m hm)⟩

/-- A method that is visited is taken from the queue, and its call sites are to be resolved. -/
theorem complete_visit {m : MethodId} {pending : Queue MethodId} (h : s.Complete p entry)
    (hsites : s.sites = []) (hpending : s.pending.toList = m :: pending.toList) :
    (({ s with pending } : State).visit p m).Complete p entry := by
  have hwait {n : MethodId} (hn : n ∈ s.graph.reachable ∨ n ∈ s.pending.toList) :
      (n ∈ s.graph.reachable ∨ n = m) ∨ n ∈ pending.toList := by
    rw [hpending, List.mem_cons] at hn
    tauto
  have hresolved {n : MethodId} {site : StmtId} (hn : n ∈ s.graph.reachable)
      (hs : site ∈ (p.methodDecl n).calls) : Resolved p s.graph site := by
    refine (h.site hn hs).resolve_left ?_
    rw [hsites]
    exact List.not_mem_nil
  rw [State.visit]
  by_cases hc : s.graph.contains m
  · have hm : m ∈ s.graph.reachable := (h.consistent m).mp hc
    have hkept {n : MethodId} (hn : n ∈ s.graph.reachable ∨ n ∈ s.pending.toList) :
        n ∈ s.graph.reachable ∨ n ∈ pending.toList := by
      rcases hwait hn with (hn | hn) | hn
      · exact .inl hn
      · exact .inl (hn ▸ hm)
      · exact .inr hn
    rw [CallGraph.insertMethod_of_mem hc]
    exact ⟨h.consistent, hkept h.entry, fun he => hkept (h.callee he),
      fun hn hs => .inr (hresolved hn hs)⟩
  · have hconsistent : (s.graph.insertMethod m (p.methodDecl m).calls.toList).2.Consistent :=
      h.consistent.insertMethod
    rw [CallGraph.insertMethod_of_not_mem hc] at hconsistent ⊢
    have hkept {n : MethodId} (hn : n ∈ s.graph.reachable ∨ n ∈ s.pending.toList) :
        n ∈ s.graph.reachable.push m ∨ n ∈ pending.toList := by
      rw [Array.mem_push]
      exact hwait hn
    refine ⟨hconsistent, hkept h.entry, fun he => hkept (h.callee he), fun {n site} hn hs => ?_⟩
    rcases Array.mem_push.mp hn with hn | rfl
    · exact .inr (hresolved hn hs)
    · exact .inl (Array.mem_toList_iff.mpr hs)

/-- From `s` to `s'` edges from a call site to some targets are added, and the targets are put into
the queue. -/
structure Adds (kind : CallKind) (site : StmtId) (targets : List MethodId) (s s' : State) :
    Prop where
  reachableSet : s'.graph.reachableSet = s.graph.reachableSet
  reachable : s'.graph.reachable = s.graph.reachable
  sites : s'.sites = s.sites
  pending : s'.pending.toList = s.pending.toList ++ targets
  edges {e} : e ∈ s'.graph.edges ↔ e ∈ s.graph.edges ∨ ∃ m ∈ targets, e = ⟨kind, site, m⟩

theorem adds_addCallee (kind : CallKind) (site : StmtId) (s : State) (m : MethodId) :
    Adds kind site [m] s (s.addCallee kind site m) := by
  have hedges {e : Edge StmtId MethodId} :
      e ∈ (s.graph.insertEdge ⟨kind, site, m⟩).2.edges ↔
        e ∈ s.graph.edges ∨ ∃ n ∈ [m], e = ⟨kind, site, n⟩ := by
    rw [CallGraph.mem_edges_insertEdge]
    simp
  rw [State.addCallee]
  by_cases he : ⟨kind, site, m⟩ ∈ s.graph.edges
  · rw [CallGraph.insertEdge_of_mem he] at hedges ⊢
    exact ⟨rfl, rfl, rfl, Queue.toList_push _ _, hedges⟩
  · rw [CallGraph.insertEdge_of_not_mem he] at hedges ⊢
    exact ⟨rfl, rfl, rfl, Queue.toList_push _ _, hedges⟩

theorem adds_foldl (kind : CallKind) (site : StmtId) (targets : List MethodId) (s : State) :
    Adds kind site targets s (targets.foldl (State.addCallee kind site) s) := by
  induction targets generalizing s with
  | nil => exact ⟨rfl, rfl, rfl, by simp, by simp⟩
  | cons m targets ih =>
    have h₁ := adds_addCallee kind site s m
    have h₂ := ih (s.addCallee kind site m)
    refine ⟨h₂.reachableSet.trans h₁.reachableSet, h₂.reachable.trans h₁.reachable,
      h₂.sites.trans h₁.sites, ?_, ?_⟩
    · rw [List.foldl_cons, h₂.pending, h₁.pending, List.append_assoc]
      rfl
    · intro e
      rw [List.foldl_cons, h₂.edges, h₁.edges]
      simp [or_assoc]

theorem complete_resolveSite {site : StmtId} {sites : List StmtId} (h : s.Complete p entry)
    (hsites : s.sites = site :: sites)
    (hs' : ({ s with sites } : State).resolveSite p site = .ok s') : s'.Complete p entry := by
  rw [State.resolveSite] at hs'
  cases hcall : p.callAt site with
  | error e => rw [hcall] at hs'; cases hs'
  | ok call =>
    cases htargets : p.chaTargets site with
    | error e => rw [hcall, htargets] at hs'; cases hs'
    | ok targets =>
      rw [hcall, htargets] at hs'
      have hadds := adds_foldl call.kind site targets { s with sites }
      have hs' : targets.foldl (State.addCallee call.kind site) { s with sites } = s' :=
        Except.ok.inj hs'
      rw [hs'] at hadds
      have hwait {m : MethodId} (hm : m ∈ s.graph.reachable ∨ m ∈ s.pending.toList) :
          m ∈ s'.graph.reachable ∨ m ∈ s'.pending.toList := by
        rw [hadds.reachable, hadds.pending]
        exact hm.imp id (List.mem_append_left targets)
      refine ⟨fun m => ?_, hwait h.entry, fun {e} he => ?_, fun {m st} hm hst => ?_⟩
      · rw [CallGraph.contains, hadds.reachableSet, hadds.reachable]
        exact h.consistent m
      · rcases hadds.edges.mp he with he | ⟨m, hm, rfl⟩
        · exact hwait (h.callee he)
        · right
          rw [hadds.pending]
          exact List.mem_append_right _ hm
      · rw [hadds.reachable] at hm
        rw [hadds.sites]
        have hedges (e) (he : e ∈ s.graph.edges) : e ∈ s'.graph.edges := hadds.edges.mpr (.inl he)
        rcases h.site hm hst with hmem | hres
        · rw [hsites, List.mem_cons] at hmem
          rcases hmem with rfl | hmem
          · exact .inr ⟨call, targets, hcall, htargets,
              fun m hm => hadds.edges.mpr (.inr ⟨m, hm, rfl⟩)⟩
          · exact .inl hmem
        · exact .inr (hres.mono hedges)

/-- Every step of a search keeps it complete. -/
theorem complete_step (h : s.Complete p entry) (hstep : step p s = .next s') :
    s'.Complete p entry := by
  rw [step] at hstep
  split at hstep
  · next site sites hsites =>
    cases hres : State.resolveSite p { s with sites } site with
    | error e => rw [hres] at hstep; cases hstep
    | ok s₁ =>
      rw [hres] at hstep
      cases hstep
      exact complete_resolveSite h hsites hres
  · next hsites =>
    split at hstep
    · next m pending hpop =>
      cases hstep
      exact complete_visit h hsites (Queue.toList_of_pop? hpop)
    · cases hstep

theorem halted_of_step {e : Option AnalysisError} (h : step p s = .halt (e, s')) :
    s' = s ∧ (e = none → s.sites = [] ∧ s.pending.toList = []) := by
  rw [step] at h
  split at h
  · split at h
    · cases h
    · cases h
      exact ⟨rfl, fun he => nomatch he⟩
  · next hsites =>
    split at h
    · cases h
    · next hpop =>
      cases h
      exact ⟨rfl, fun _ => ⟨hsites, Queue.pop?_eq_none hpop⟩⟩

/-- A graph that has the entry method, the edges of the call sites of its methods, and their
targets. -/
structure Whole (p : Program) (entry : MethodId) (g : CallGraph StmtId MethodId) : Prop where
  entry : entry ∈ g.reachable
  callee {e} (he : e ∈ g.edges) : e.callee ∈ g.reachable
  site {m site} (hm : m ∈ g.reachable) (hs : site ∈ (p.methodDecl m).calls) : Resolved p g site

theorem complete_start (p : Program) (entry : MethodId) : State.Complete p entry
    { graph := ({} : CallGraph StmtId MethodId).insertEntry entry
      pending := ({} : Queue MethodId).push entry } := by
  obtain ⟨entries, he⟩ :=
    CallGraph.insertEntry_eq (g := ({} : CallGraph StmtId MethodId)) (m := entry)
  rw [he]
  refine ⟨CallGraph.consistent_entries _, .inr ?_, fun he => ?_, fun hm => ?_⟩
  · rw [Queue.toList_push]
    exact List.mem_append_right _ List.mem_cons_self
  · exact (Std.TreeSet.not_mem_emptyc he).elim
  · exact (Array.not_mem_empty _ hm).elim

end HierarchyAnalysis

open HierarchyAnalysis

variable {p : Program} {π : Policy} {r : Solution} {g : CallGraph StmtId MethodId}

/-- The search of a class hierarchy analysis ends with a graph that is whole. -/
theorem whole_of_chaCallGraph (h : p.chaCallGraph.1 = .ok g) :
    ∃ entry, p.entry = some entry ∧ Whole p entry g := by
  rw [Program.chaCallGraph] at h
  cases he : p.entry with
  | none =>
    rw [he] at h
    cases h
  | some entry =>
    simp only [he] at h
    refine ⟨entry, rfl, ?_⟩
    cases hsearch : search p entry with
    | mk e s =>
      rw [hsearch] at h
      cases e with
      | some e => cases h
      | none =>
        cases h
        rw [search] at hsearch
        split at hsearch
        · next outcome hrun =>
          obtain ⟨s', hreach, hhalt⟩ := Step.reaches_of_stretches.2 _ hrun
          subst hsearch
          obtain ⟨rfl, hdone⟩ := HierarchyAnalysis.halted_of_step hhalt
          obtain ⟨hsites, hpending⟩ := hdone rfl
          have hcomplete : s.Complete p entry := by
            clear hhalt hsites hpending hdone hrun
            induction hreach with
            | refl => exact complete_start p entry
            | tail _ hstep ih => exact complete_step ih hstep
          refine ⟨?_, fun {e} he => ?_, fun hm hs => ?_⟩
          · exact hcomplete.entry.resolve_right (by rw [hpending]; exact List.not_mem_nil)
          · exact (hcomplete.callee he).resolve_right (by rw [hpending]; exact List.not_mem_nil)
          · exact (hcomplete.site hm hs).resolve_left (by rw [hsites]; exact List.not_mem_nil)
        · cases hsearch

/-- The kinds of calls that are dispatched on the class of the receiver. -/
def CallKind.IsDispatched (k : CallKind) : Prop := k = .virtual ∨ k = .interface

namespace Program

variable {site : StmtId} {call : Call} {recv : Option ClassId} {m : MethodId}

theorem calleeAt_of_not_dispatched (hst : p.stmt site = .invoke call)
    (hk : ¬call.kind.IsDispatched) (recv : Option ClassId) :
    p.calleeAt recv site = p.calleeAt none site := by
  rw [calleeAt, calleeAt, callAt_eq_ok.mpr hst]
  simp only [bind, Except.bind]
  cases hkind : call.kind with
  | static | special | dynamic => rfl
  | virtual => exact (hk (.inl hkind)).elim
  | interface => exact (hk (.inr hkind)).elim

theorem dispatch_of_calleeAt_dispatched {c : ClassId} (hst : p.stmt site = .invoke call)
    (hk : call.kind.IsDispatched) (h : p.calleeAt (some c) site = .ok m) :
    p.dispatch c call.target.signature = some m := by
  rw [calleeAt, callAt_eq_ok.mpr hst] at h
  simp only [bind, Except.bind] at h
  rcases hk with hk | hk
  · rw [hk] at h
    exact dispatch_of_dispatchAt h
  · rw [hk] at h
    exact dispatch_of_dispatchAt h

/-- What a call runs is among the targets of its call site, if the class that it is dispatched on is
possible there. -/
theorem mem_chaTargets {targets : List MethodId} (hst : p.stmt site = .invoke call)
    (htargets : p.chaTargets site = .ok targets) (hm : p.calleeAt recv site = .ok m)
    (hrecv : call.kind.IsDispatched → ∃ c ∈ p.possibleClasses call.target.cls, recv = some c) :
    m ∈ targets := by
  rw [chaTargets, callAt_eq_ok.mpr hst] at htargets
  simp only [bind, Except.bind] at htargets
  by_cases hk : call.kind.IsDispatched
  · obtain ⟨c, hc, rfl⟩ := hrecv hk
    have hmem : m ∈ Id.sort ((p.possibleClasses call.target.cls).filterMap
        (p.dispatch · call.target.signature)).eraseDups := by
      rw [Id.sort, List.mem_mergeSort, List.mem_eraseDups, List.mem_filterMap]
      exact ⟨c, hc, dispatch_of_calleeAt_dispatched hst hk hm⟩
    rcases hk with hk | hk
    · rw [hk] at htargets
      cases htargets
      exact hmem
    · rw [hk] at htargets
      cases htargets
      exact hmem
  · rw [calleeAt_of_not_dispatched hst hk recv] at hm
    rw [hm] at htargets
    cases hkind : call.kind with
    | static | special | dynamic =>
      rw [hkind] at htargets
      cases htargets
      exact List.mem_singleton_self m
    | virtual => exact (hk (.inl hkind)).elim
    | interface => exact (hk (.inr hkind)).elim

end Program

namespace Solution

/-- The objects at the receivers of dispatched calls are of subtypes of the classes named there. -/
def ReceiversTyped (p : Program) (r : Solution) : Prop :=
  ∀ m ∈ r.plainCalls.reachable, ∀ site ∈ (p.methodDecl m).calls, ∀ call b,
    p.stmt site = .invoke call → call.kind.IsDispatched → call.receiver = some b →
    ∀ i ∈ r.varPointees b, p.isSubtype (r.store.object i).cls call.target.cls

end Solution

/-- A graph has the method or the call of a fact. -/
def Fact.InGraph (g : CallGraph StmtId MethodId) : Fact → Prop
  | .reach _ m => m ∈ g.reachable
  | .call k _ site _ m => ⟨k, site, m⟩ ∈ g.edges
  | _ => True

theorem inGraph_of_mem (hp : p.Finished) (hflags : p.InterfacesFlagged) (hr : r.Valid p)
    (hfacts : r.facts = leastFacts p π) {entry : MethodId} (he : p.entry = some entry)
    (hg : Whole p entry g) (htyped : r.ReceiversTyped p) {f : Fact} (hf : f ∈ leastFacts p π) :
    f.InGraph g := by
  refine leastFacts_induction (fun f h => ?_) hf
  have hedge {m site call recv callee} (hmg : m ∈ g.reachable) (hs : site ∈ (p.methodDecl m).stmts)
      (hst : p.stmt site = .invoke call) (hc : p.calleeAt recv site = .ok callee)
      (hrecv : call.kind.IsDispatched → ∃ c ∈ p.possibleClasses call.target.cls, recv = some c) :
      ⟨call.kind, site, callee⟩ ∈ g.edges := by
    have hsite : site ∈ (p.methodDecl m).calls :=
      hp.listed.calls.mpr ⟨by rw [hst]; rfl, (hp.wellFormed.body.mp hs).2⟩
    obtain ⟨call', targets, hcall, htargets, hedges⟩ := hg.site hmg hsite
    rw [Program.callAt_eq_ok, hst] at hcall
    cases hcall
    exact hedges callee (Program.mem_chaTargets hst htargets hc hrecv)
  cases h with
  | entry h =>
    cases he.symm.trans h
    exact hg.entry
  | staticCall hm hs hst hk hc =>
    rw [← hk]
    refine hedge hm.2 hs hst hc fun hd => ?_
    rw [hk] at hd
    simp [CallKind.IsDispatched] at hd
  | instanceCall hm hs hst hk hb ho hc =>
    refine hedge hm.2 hs hst hc fun hd => ⟨_, ?_, rfl⟩
    have hreach := hm.1
    have hpts := ho.1
    rw [← hfacts] at hreach hpts
    obtain ⟨i, hi, hobj⟩ := (Solution.mem_varPointees hr).mpr ⟨_, _, hpts, rfl⟩
    have hsite := hp.listed.calls.mpr ⟨by rw [hst]; rfl, (hp.wellFormed.body.mp hs).2⟩
    have hsub := htyped _ ((r.plainCalls_spec.1 _).mpr ⟨_, hreach⟩) _ hsite _ _ hst hd hb i hi
    rw [hobj] at hsub
    exact hp.listed.mem_possibleClasses hflags hsub
  | callee h => exact hg.callee h.2
  | _ => trivial

/-- Class hierarchy analysis takes in the plain call graph of any points-to analysis, if implemented
interfaces are flagged as such and receivers hold objects of the classes named at their calls. -/
theorem plainCalls_subset_cha {p : Program} (hp : p.Finished) (hflags : p.InterfacesFlagged)
    {π : Policy} {r : Solution} (hr : (analyze p π).1 = .ok r) {g : CallGraph StmtId MethodId}
    (hg : p.chaCallGraph.1 = .ok g) (htyped : r.ReceiversTyped p) :
    (∀ m ∈ r.plainCalls.reachable, m ∈ g.reachable) ∧ ∀ e ∈ r.plainCalls.edges, e ∈ g.edges := by
  obtain ⟨entry, he, hwhole⟩ := whole_of_chaCallGraph hg
  have hrun := analyzesTo_analyze hp π
  rw [hr] at hrun
  have hfacts := (hrun.of_ok hp).2.1
  have hin {f : Fact} (hf : f ∈ r.facts) : f.InGraph g :=
    inGraph_of_mem hp hflags (Solution.valid_of_analyze hr) hfacts he hwhole htyped (hfacts ▸ hf)
  constructor
  · intro m hm
    obtain ⟨c, hreach⟩ := (r.plainCalls_spec.1 m).mp hm
    exact hin hreach
  · intro e hmem
    obtain ⟨c, d, hcall⟩ := (r.plainCalls_spec.2 e.kind e.site e.callee).mp hmem
    exact hin hcall

/-- An interface with one implementation, whose method is called through the interface. -/
def Description.shapes : Description where
  entry := some { cls := "Main", method := "main()V" }
  classes := [
    { name := "Shape"
      isInterface := true
      methods := [{ signature := "copy()LShape;" }] },
    { name := "Square"
      interfaces := ["Shape"]
      methods := [
        { signature := "copy()LShape;"
          locals := [{ name := "s", type := "LShape;" }]
          body := [.new "s" "LSquare;", .ret (some "s")] }] },
    { name := "Main"
      methods := [
        { signature := "main()V"
          isStatic := true
          locals := [{ name := "x", type := "LShape;" }, { name := "y", type := "LShape;" }]
          body := [.new "x" "LSquare;",
            .invoke .interface "Shape.copy()LShape;" (some "x") [] (some "y"),
            .invoke .interface "Shape.copy()LShape;" (some "y") [] none] }] }]

theorem Description.shapes_finished : shapes.program.Finished :=
  program_finished (by decide +kernel)

/-- Receivers are typed if every object may stand at every receiver. -/
theorem Solution.receiversTyped_of_all (hp : p.Finished) (hr : r.Valid p)
    (h : p.stmts.ids.all fun s => p.stmts.ids.all fun site =>
      (p.objectAt s).toOption.all fun o => (p.stmt site).call?.all fun call =>
        call.target.cls ∈ breadthFirst p.hierarchy.parents (p.hierarchy.links.size + 1) o.cls) :
    r.ReceiversTyped p := by
  intro m hm site hsite call b hst hk hb i hi
  obtain ⟨c, o, ho, hobj⟩ := (mem_varPointees hr).mp ⟨i, hi, rfl⟩
  have hobject := hr.objectAt_of_pts ho
  obtain ⟨⟨x, name, hnew, -⟩, -⟩ := Program.of_objectAt hobject
  have hs : p.stmts.Holds o.obj.site := Program.holds_of_stmt_ne (by rw [hnew]; exact nofun)
  have hcall : p.stmts.Holds site := Program.holds_of_stmt_ne (by rw [hst]; exact nofun)
  have hall := List.all_eq_true.mp (List.all_eq_true.mp h _ (Table.mem_ids.mpr hs)) _
    (Table.mem_ids.mpr hcall)
  rw [hobject, hst] at hall
  rw [← hobj, hp.registered.isSubtype_iff, ← Program.mem_walk_iff]
  exact of_decide_eq_true hall

theorem plainCalls_subset_cha_shapes : ∃ r g,
    (analyze Description.shapes.program (.object 1)).1 = .ok r ∧
    Description.shapes.program.chaCallGraph.1 = .ok g ∧
    r.ReceiversTyped Description.shapes.program ∧
    (∀ m ∈ r.plainCalls.reachable, m ∈ g.reachable) ∧
    ∃ e ∈ r.plainCalls.edges, e.kind = .interface ∧ e ∈ g.edges := by
  obtain ⟨r, hr, hany⟩ := exists_of_toOption_map (b := true)
    (x := (analyze Description.shapes.program (.object 1)).1)
    (f := fun r => r.calls.edgeList.any (·.kind = .interface)) (by decide +kernel)
  obtain ⟨g, hg⟩ := exists_of_toOption (x := Description.shapes.program.chaCallGraph.1)
    (by decide +kernel)
  have htyped : r.ReceiversTyped Description.shapes.program :=
    Solution.receiversTyped_of_all Description.shapes_finished (Solution.valid_of_analyze hr)
      (by decide +kernel)
  have hflags : Description.shapes.program.InterfacesFlagged :=
    Program.interfacesFlagged_of_all (by decide +kernel)
  obtain ⟨hreachable, hedges⟩ :=
    plainCalls_subset_cha Description.shapes_finished hflags hr hg htyped
  obtain ⟨e, he, hkind⟩ := List.any_eq_true.mp hany
  have hplain : ⟨e.kind, e.site.id, e.callee.id⟩ ∈ r.plainCalls.edges :=
    (r.plainCalls_spec.2 _ _ _).mpr
      ⟨_, _, e, Std.TreeSet.mem_toList.mp he, rfl, rfl, rfl, rfl, rfl⟩
  exact ⟨r, g, hr, hg, htyped, hreachable, _, hplain, of_decide_eq_true hkind, hedges _ hplain⟩

end PointsTo
