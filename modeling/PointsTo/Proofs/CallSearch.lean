import Mathlib.Order.Bounds.Basic
import PointsTo.Proofs.PossibleClasses
import PointsTo.Proofs.SubtypeCalls

namespace PointsTo

namespace Program

variable {p : Program} {entry m : MethodId} {site : StmtId} {call : Call} {targets : List MethodId}

/-- A set of methods takes in the entry, and the targets of the call sites in its methods. A call
site that has no targets calls for nothing. -/
def CallClosed (p : Program) (entry : MethodId) (K : Set MethodId) : Prop :=
  entry ∈ K ∧ ∀ site call targets, p.stmt site = .invoke call → p.container site ∈ K →
    p.chaTargets site = .ok targets → ∀ m ∈ targets, m ∈ K

/-- The methods that can be called from the entry. -/
def callable (p : Program) (entry : MethodId) : Set MethodId :=
  {m | ∀ K, p.CallClosed entry K → m ∈ K}

/-- An edge from a call site in a method that can be called to one of its targets. -/
def IsCallEdge (p : Program) (entry : MethodId) (e : Edge StmtId MethodId) : Prop :=
  ∃ call targets, p.stmt e.site = .invoke call ∧ p.container e.site ∈ p.callable entry ∧
    e.kind = call.kind ∧ p.chaTargets e.site = .ok targets ∧ e.callee ∈ targets

theorem isLeast_callable (p : Program) (entry : MethodId) :
    IsLeast {K | p.CallClosed entry K} (p.callable entry) := by
  refine ⟨⟨fun K hK => hK.1, ?_⟩, fun K hK m hm => hm K hK⟩
  intro site call targets hst hin htargets m hm K hK
  exact hK.2 site call targets hst (hin K hK) htargets m hm

theorem Listed.mem_calls_iff (hp : p.Listed) :
    site ∈ (p.methodDecl m).calls ↔
      (∃ call, p.stmt site = .invoke call) ∧ p.container site = m := by
  rw [hp.calls]
  cases hst : p.stmt site <;> simp [Stmt.call?]

theorem chaTargets_of_callAt {e : AnalysisError} (h : p.callAt site = .error e) :
    p.chaTargets site = .error e := by
  rw [chaTargets, h]
  rfl

/-- The targets of a call site are methods of the program, each listed once. -/
theorem WellFormed.targets_nodup (h : p.WellFormed) (ht : p.chaTargets site = .ok targets) :
    targets.Nodup ∧ ∀ m ∈ targets, p.methods.Holds m := by
  have hsingle (hc : (p.calleeAt none site).map ([·]) = .ok targets) :
      targets.Nodup ∧ ∀ m ∈ targets, p.methods.Holds m := by
    cases hm : p.calleeAt none site with
    | error e =>
      rw [hm] at hc
      cases hc
    | ok m =>
      rw [hm] at hc
      cases hc
      refine ⟨List.nodup_singleton m, fun n hn => ?_⟩
      rw [List.mem_singleton.mp hn]
      exact h.holds_of_calleeAt hm
  rw [chaTargets] at ht
  cases hcall : p.callAt site with
  | error e =>
    rw [hcall] at ht
    cases ht
  | ok call =>
    have hmany (ht : Id.sort ((p.possibleClasses call.target.cls).filterMap
        (p.dispatch · call.target.signature)).eraseDups = targets) :
        targets.Nodup ∧ ∀ m ∈ targets, p.methods.Holds m := by
      rw [← ht, Id.sort]
      refine ⟨(List.mergeSort_perm _ _).nodup_iff.mpr (nodup_eraseDups _), fun m hm => ?_⟩
      rw [List.mem_mergeSort, List.mem_eraseDups, List.mem_filterMap] at hm
      obtain ⟨c, -, hc⟩ := hm
      exact h.holds_of_dispatch hc
    simp only [hcall, bind, Except.bind] at ht
    cases hk : call.kind with
    | static | special | dynamic =>
      rw [hk] at ht
      exact hsingle ht
    | virtual | interface =>
      rw [hk] at ht
      exact hmany (Except.ok.inj ht)

end Program

namespace HierarchyAnalysis

variable {p : Program} {entry : MethodId} {s s' : State}

/-- Where a search begins. -/
def start (entry : MethodId) : State where
  graph := ({} : CallGraph StmtId MethodId).insertEntry entry
  pending := ({} : Queue MethodId).push entry

/-- What one step of a search does: it resolves a call site, or takes a method from the queue, which
it visits unless it has been there. -/
inductive Advance (p : Program) (s s' : State) : Prop
  | resolve (site : StmtId) (sites : List StmtId) (call : Call) (targets : List MethodId)
    (hsites : s.sites = site :: sites) (hst : p.stmt site = .invoke call)
    (htargets : p.chaTargets site = .ok targets)
    (hadds : Adds call.kind site targets { s with sites } s')
  | skip (m : MethodId) (hsites : s.sites = [])
    (hpending : s.pending.toList = m :: s'.pending.toList) (hm : m ∈ s.graph.reachable)
    (hgraph : s'.graph = s.graph) (hsites' : s'.sites = [])
  | visit (m : MethodId) (hsites : s.sites = [])
    (hpending : s.pending.toList = m :: s'.pending.toList) (hm : m ∉ s.graph.reachable)
    (hreachable : s'.graph.reachable = s.graph.reachable.push m)
    (hedges : s'.graph.edges = s.graph.edges)
    (hsites' : s'.sites = (p.methodDecl m).calls.toList)

theorem advance_visit {m : MethodId} {pending : Queue MethodId} (hs : s.graph.Consistent)
    (hsites : s.sites = []) (hpending : s.pending.toList = m :: pending.toList) :
    Advance p s (({ s with pending } : State).visit p m) := by
  rw [State.visit]
  by_cases hc : s.graph.contains m
  · rw [CallGraph.insertMethod_of_mem hc]
    exact .skip m hsites hpending ((hs m).mp hc) rfl hsites
  · rw [CallGraph.insertMethod_of_not_mem hc]
    exact .visit m hsites hpending (fun hm => hc ((hs m).mpr hm)) rfl rfl rfl

theorem advance_of_step (hs : s.graph.Consistent) (h : step p s = .next s') : Advance p s s' := by
  rw [step] at h
  split at h
  · next site sites hsites =>
    rw [State.resolveSite] at h
    cases hcall : p.callAt site with
    | error e =>
      rw [hcall] at h
      cases h
    | ok call =>
      cases htargets : p.chaTargets site with
      | error e =>
        rw [hcall, htargets] at h
        cases h
      | ok targets =>
        rw [hcall, htargets] at h
        cases h
        have hst := Program.callAt_eq_ok.mp hcall
        exact .resolve site sites call targets hsites hst htargets (adds_foldl ..)
  · next hsites =>
    split at h
    · next m pending hpop =>
      cases h
      exact advance_visit hs hsites (Queue.toList_of_pop? hpop)
    · cases h

/-- A search fails at a call site whose targets cannot be found. -/
theorem error_of_step {e : AnalysisError} (h : step p s = .halt (some e, s')) :
    ∃ site ∈ s.sites, p.chaTargets site = .error e := by
  rw [step] at h
  split at h
  · next site sites hsites =>
    refine ⟨site, hsites ▸ List.mem_cons_self, ?_⟩
    rw [State.resolveSite] at h
    cases hcall : p.callAt site with
    | error e' =>
      rw [hcall] at h
      cases h
      exact Program.chaTargets_of_callAt hcall
    | ok call =>
      cases htargets : p.chaTargets site with
      | error e' =>
        rw [hcall, htargets] at h
        cases h
        rfl
      | ok targets =>
        rw [hcall, htargets] at h
        cases h
  · split at h
    · cases h
    · cases h

/-- A search has found nothing but what can be called, and no method twice. -/
structure State.Sound (p : Program) (entry : MethodId) (s : State) : Prop where
  reachable : ∀ m ∈ s.graph.reachable, m ∈ p.callable entry
  nodup : s.graph.reachable.toList.Nodup
  pending : ∀ m ∈ s.pending.toList, m ∈ p.callable entry
  sites : ∀ site ∈ s.sites,
    (∃ call, p.stmt site = .invoke call) ∧ p.container site ∈ p.callable entry
  edges : ∀ e ∈ s.graph.edges, p.IsCallEdge entry e

theorem start_eq (entry : MethodId) :
    ∃ entries, (start entry).graph = { ({} : CallGraph StmtId MethodId) with entries } :=
  CallGraph.insertEntry_eq

theorem sound_start (p : Program) (entry : MethodId) : (start entry).Sound p entry := by
  obtain ⟨entries, hgraph⟩ := start_eq entry
  have hpending : (start entry).pending.toList = [entry] := Queue.toList_push _ _
  constructor
  · intro m hm
    rw [hgraph] at hm
    exact (Array.not_mem_empty m hm).elim
  · rw [hgraph]
    exact List.nodup_nil
  · intro m hm
    rw [hpending] at hm
    rw [List.mem_singleton.mp hm]
    exact (p.isLeast_callable entry).1.1
  · intro site hsite
    exact (List.not_mem_nil hsite).elim
  · intro e he
    rw [hgraph] at he
    exact (Std.TreeSet.not_mem_emptyc he).elim

/-- Every step keeps to what can be called. -/
theorem Advance.sound (hp : p.Listed) (h : Advance p s s') (hs : s.Sound p entry) :
    s'.Sound p entry := by
  cases h with
  | resolve site sites call targets hsites hst htargets hadds =>
    have hsite : p.container site ∈ p.callable entry := by
      apply (hs.sites site _).2
      rw [hsites]
      exact List.mem_cons_self
    have hmem (m : MethodId) (hm : m ∈ targets) : m ∈ p.callable entry :=
      (p.isLeast_callable entry).1.2 site call targets hst hsite htargets m hm
    refine ⟨?_, ?_, ?_, ?_, ?_⟩
    · rw [hadds.reachable]
      exact hs.reachable
    · rw [hadds.reachable]
      exact hs.nodup
    · intro m hm
      rw [hadds.pending] at hm
      exact (List.mem_append.mp hm).elim (hs.pending m) (hmem m)
    · intro st hst'
      rw [hadds.sites] at hst'
      apply hs.sites
      rw [hsites]
      exact List.mem_cons_of_mem site hst'
    · intro e he
      rcases hadds.edges.mp he with he | ⟨m, hm, rfl⟩
      · exact hs.edges e he
      · exact ⟨call, targets, hst, hsite, rfl, htargets, hm⟩
  | skip m hsites hpending hm hgraph hsites' =>
    refine ⟨?_, ?_, ?_, ?_, ?_⟩
    · rw [hgraph]
      exact hs.reachable
    · rw [hgraph]
      exact hs.nodup
    · intro n hn
      apply hs.pending
      rw [hpending]
      exact List.mem_cons_of_mem m hn
    · rw [hsites', ← hsites]
      exact hs.sites
    · rw [hgraph]
      exact hs.edges
  | visit m hsites hpending hm hreachable hedges hsites' =>
    have hmc : m ∈ p.callable entry := by
      apply hs.pending
      rw [hpending]
      exact List.mem_cons_self
    refine ⟨?_, ?_, ?_, ?_, ?_⟩
    · intro n hn
      rw [hreachable] at hn
      rcases Array.mem_push.mp hn with hn | rfl
      · exact hs.reachable n hn
      · exact hmc
    · rw [hreachable, Array.toList_push]
      apply List.nodup_append.mpr
      refine ⟨hs.nodup, List.nodup_singleton m, ?_⟩
      intro a ha b hb hab
      rw [hab, List.mem_singleton.mp hb] at ha
      exact hm (Array.mem_toList_iff.mp ha)
    · intro n hn
      apply hs.pending
      rw [hpending]
      exact List.mem_cons_of_mem m hn
    · intro site hsite
      rw [hsites'] at hsite
      obtain ⟨hcall, hin⟩ := hp.mem_calls_iff.mp (Array.mem_toList_iff.mp hsite)
      exact ⟨hcall, hin ▸ hmc⟩
    · rw [hedges]
      exact hs.edges

/-- The call sites in methods that a search has not come to. -/
def State.unseen (p : Program) (s : State) : List StmtId :=
  p.stmts.ids.filter fun site =>
    (p.stmt site).call?.isSome ∧ p.container site ∉ s.graph.reachable

/-- A bound on the steps that a search has before it: a method of the queue takes one, and a call
site one and those of its targets. -/
def State.remaining (p : Program) (s : State) : Nat :=
  s.pending.toList.length + (p.methods.size + 1) * (s.sites.length + (s.unseen p).length)

theorem mem_unseen {site : StmtId} : site ∈ s.unseen p ↔
    (p.stmt site).call?.isSome ∧ p.container site ∉ s.graph.reachable := by
  rw [State.unseen, List.mem_filter, Table.mem_ids, decide_eq_true_eq]
  refine ⟨And.right, fun h => ⟨?_, h⟩⟩
  apply Program.holds_of_stmt_ne
  intro hst
  rw [hst] at h
  cases h.1

/-- The call sites of a method that is visited were not seen before. -/
theorem length_unseen_visit (hp : p.Placed) {m : MethodId} (hm : m ∉ s.graph.reachable)
    (hreachable : s'.graph.reachable = s.graph.reachable.push m) :
    (p.methodDecl m).calls.toList.length + (s'.unseen p).length ≤ (s.unseen p).length := by
  rw [← List.length_append]
  apply List.Nodup.length_le_of_subset
  · apply List.nodup_append.mpr
    refine ⟨(hp.calls m).nodup, Table.nodup_ids.filter _, ?_⟩
    intro a ha b hb hab
    obtain ⟨-, hin⟩ := hp.mem_calls.mp (Array.mem_toList_iff.mp ha)
    apply (mem_unseen.mp hb).2
    rw [hreachable, Array.mem_push, ← hab]
    exact .inr hin
  · intro site hsite
    rcases List.mem_append.mp hsite with hsite | hsite
    · obtain ⟨hcall, hin⟩ := hp.mem_calls.mp (Array.mem_toList_iff.mp hsite)
      exact mem_unseen.mpr ⟨hcall, hin ▸ hm⟩
    · obtain ⟨hcall, hnot⟩ := mem_unseen.mp hsite
      refine mem_unseen.mpr ⟨hcall, fun hmem => hnot ?_⟩
      rw [hreachable, Array.mem_push]
      exact .inl hmem

/-- Every step brings a search nearer to its end. -/
theorem Advance.remaining_lt (hp : p.Placed) (hwf : p.WellFormed) (h : Advance p s s') :
    s'.remaining p < s.remaining p := by
  cases h with
  | resolve site sites call targets hsites hst htargets hadds =>
    obtain ⟨hnodup, hholds⟩ := hwf.targets_nodup htargets
    have hlen : targets.length ≤ p.methods.size := Table.length_le_size hnodup hholds
    have hunseen : s'.unseen p = s.unseen p := by rw [State.unseen, hadds.reachable, State.unseen]
    rw [State.remaining, State.remaining, hadds.pending, hadds.sites, hunseen, hsites,
      List.length_append, List.length_cons]
    have hmul : (p.methods.size + 1) * (sites.length + 1 + (s.unseen p).length) =
        (p.methods.size + 1) * (sites.length + (s.unseen p).length) + (p.methods.size + 1) := by
      ring
    rw [hmul]
    change s.pending.toList.length + targets.length +
      (p.methods.size + 1) * (sites.length + (s.unseen p).length) < _
    omega
  | skip m hsites hpending hm hgraph hsites' =>
    rw [State.remaining, State.remaining, hpending, hsites', hsites, State.unseen, hgraph,
      List.length_cons, ← State.unseen]
    omega
  | visit m hsites hpending hm hreachable hedges hsites' =>
    have hle := length_unseen_visit hp hm hreachable
    have hmul := Nat.mul_le_mul_left (p.methods.size + 1) hle
    rw [State.remaining, State.remaining, hpending, hsites', hsites, List.length_cons,
      List.length_nil, Nat.zero_add]
    omega

theorem remaining_start (p : Program) (entry : MethodId) :
    (start entry).remaining p < stepBound p := by
  have hunseen : ((start entry).unseen p).length ≤ p.stmts.size := by
    calc
      ((start entry).unseen p).length ≤ p.stmts.ids.length := List.length_filter_le _ _
      _ = p.stmts.size := by rw [Table.ids, List.length_map, List.length_range]
  have hmul := Nat.mul_le_mul_left (p.methods.size + 1) hunseen
  have hpending : (start entry).pending.toList = [entry] := Queue.toList_push _ _
  have hring : (p.methods.size + 1) * p.stmts.size =
      p.stmts.size * p.methods.size + p.stmts.size := by
    ring
  rw [State.remaining, hpending, stepBound]
  change 1 + (p.methods.size + 1) * (0 + _) < _
  rw [Nat.zero_add]
  omega

/-- A search ends within its bound. -/
theorem search_halts (hp : p.Finished) (entry : MethodId) {n : Nat} (hn : stepBound p ≤ n) :
    ∃ outcome, Step.steps (step p) n (start entry) = .halt outcome := by
  apply Step.steps_halts (I := State.Complete p entry) (μ := State.remaining p) _
    (complete_start p entry) ((remaining_start p entry).trans_le hn)
  intro s s' hs hstep
  have hadvance := advance_of_step hs.consistent hstep
  exact ⟨complete_step hs hstep, hadvance.remaining_lt hp.edits.1.placed hp.wellFormed⟩

theorem search_cases (hp : p.Finished) (entry : MethodId) : ∃ e s,
    search p entry = (e, s) ∧ Step.Reaches (step p) (start entry) s ∧ step p s = .halt (e, s) := by
  have hbound : stepBound p ≤ 2 ^ ((stepBound p).log2 + 1) - 1 := Nat.le_pred_of_lt Nat.lt_log2_self
  obtain ⟨⟨e, s⟩, hhalt⟩ := search_halts hp entry hbound
  rw [← Step.run_eq_steps] at hhalt
  obtain ⟨s', hreach, hs'⟩ := Step.reaches_of_stretches.2 _ hhalt
  obtain ⟨rfl, -⟩ := halted_of_step hs'
  refine ⟨e, s, ?_, hreach, hs'⟩
  rw [search]
  split
  · next outcome hrun => exact Step.halt.inj (hrun.symm.trans hhalt)
  · next hrun => cases hrun.symm.trans hhalt

/-- What holds at the start and after each step holds in every state that a search comes to. -/
theorem sound_of_reaches (hp : p.Listed) (h : Step.Reaches (step p) (start entry) s) :
    s.Complete p entry ∧ s.Sound p entry := by
  induction h with
  | refl => exact ⟨complete_start p entry, sound_start p entry⟩
  | tail _ hstep ih =>
    have hadvance := advance_of_step ih.1.consistent hstep
    exact ⟨complete_step ih.1 hstep, hadvance.sound hp ih.2⟩

end HierarchyAnalysis

open HierarchyAnalysis

variable {p : Program} {entry : MethodId} {g : CallGraph StmtId MethodId} {e : AnalysisError}

/-- The call graph of an analysis is that of the last state of its search. -/
theorem exists_search_of_ok (hp : p.Finished) (h : p.chaCallGraph.1 = .ok g) : ∃ entry s,
    p.entry = some entry ∧ Step.Reaches (step p) (start entry) s ∧ s.graph = g := by
  rw [Program.chaCallGraph] at h
  cases he : p.entry with
  | none =>
    rw [he] at h
    cases h
  | some entry =>
    obtain ⟨e, s, hsearch, hreach, -⟩ := search_cases hp entry
    simp only [he, hsearch] at h
    cases e with
    | some e => cases h
    | none => exact ⟨entry, s, rfl, hreach, Except.ok.inj h⟩

/-- An analysis fails without entry, or at a call site in a method that can be called. -/
theorem chaCallGraph_error (hp : p.Finished) (h : p.chaCallGraph.1 = .error e) :
    (p.entry = none ∧ e = .noEntryMethod) ∨ ∃ entry site call, p.entry = some entry ∧
      p.stmt site = .invoke call ∧ p.container site ∈ p.callable entry ∧
      p.chaTargets site = .error e := by
  rw [Program.chaCallGraph] at h
  cases he : p.entry with
  | none =>
    rw [he] at h
    exact .inl ⟨rfl, (Except.error.inj h).symm⟩
  | some entry =>
    obtain ⟨e', s, hsearch, hreach, hhalt⟩ := search_cases hp entry
    simp only [he, hsearch] at h
    cases e' with
    | none => cases h
    | some e' =>
      cases h
      obtain ⟨site, hsite, htargets⟩ := error_of_step hhalt
      obtain ⟨⟨call, hst⟩, hin⟩ := (sound_of_reaches hp.listed hreach).2.sites site hsite
      exact .inr ⟨entry, site, call, rfl, hst, hin, htargets⟩

namespace HierarchyAnalysis

/-- The methods of a whole graph are closed under calls. -/
theorem Whole.callClosed (hp : p.Listed) (h : Whole p entry g) :
    p.CallClosed entry {m | m ∈ g.reachable} := by
  refine ⟨h.entry, fun site call targets hst hin htargets m hm => ?_⟩
  obtain ⟨call', targets', hcall, htargets', hedges⟩ :=
    h.site hin (hp.mem_calls_iff.mpr ⟨⟨call, hst⟩, rfl⟩)
  cases htargets.symm.trans htargets'
  exact h.callee (hedges m hm)

theorem Whole.mem_edges (hp : p.Listed) (h : Whole p entry g)
    (hreach : ∀ m ∈ p.callable entry, m ∈ g.reachable) {e : Edge StmtId MethodId}
    (he : p.IsCallEdge entry e) : e ∈ g.edges := by
  obtain ⟨call, targets, hst, hin, hk, htargets, hm⟩ := he
  obtain ⟨call', targets', hcall, htargets', hedges⟩ :=
    h.site (hreach _ hin) (hp.mem_calls_iff.mpr ⟨⟨call, hst⟩, rfl⟩)
  cases htargets.symm.trans htargets'
  rw [Program.callAt_eq_ok, hst] at hcall
  cases hcall
  have hmem := hedges e.callee hm
  rw [← hk] at hmem
  exact hmem

end HierarchyAnalysis

/-- The call graph of an analysis has the methods that can be called, each once, and the edges from
their call sites to the targets of these. -/
theorem chaCallGraph_spec (hp : p.Finished) (h : p.chaCallGraph.1 = .ok g) :
    ∃ entry, p.entry = some entry ∧ g.reachable.toList.Nodup ∧
      (∀ m, m ∈ g.reachable ↔ m ∈ p.callable entry) ∧
      (∀ e, e ∈ g.edges ↔ p.IsCallEdge entry e) ∧ Whole p entry g := by
  obtain ⟨entry, s, he, hreach, rfl⟩ := exists_search_of_ok hp h
  obtain ⟨entry', he', hwhole⟩ := whole_of_chaCallGraph h
  cases he.symm.trans he'
  have hsound := (sound_of_reaches hp.listed hreach).2
  have hclosed := hwhole.callClosed hp.listed
  have hmem (m : MethodId) (hm : m ∈ p.callable entry) : m ∈ s.graph.reachable :=
    (p.isLeast_callable entry).2 hclosed hm
  exact ⟨entry, he, hsound.nodup, fun m => ⟨hsound.reachable m, hmem m⟩,
    fun e => ⟨hsound.edges e, hwhole.mem_edges hp.listed hmem⟩, hwhole⟩

/-- The walks down the hierarchy end by themselves and not at their bound. -/
theorem Program.possibleClasses_eq (p : Program) (root : ClassId) {fuel : Nat}
    (hfuel : p.hierarchy.links.size < fuel) :
    breadthFirst p.directSubtypes fuel root = p.possibleClasses root := by
  have hnext (x y : ClassId) (hy : y ∈ p.directSubtypes x) :
      y ∈ p.hierarchy.links.toList.map Link.sub := by
    obtain ⟨l, hl, rfl⟩ := exists_link_of_mem_directSubtypes hy
    exact List.mem_map_of_mem (Array.mem_toList_iff.mpr hl)
  apply breadthFirst_eq hnext root _ hfuel
  rw [List.length_map, Array.length_toList]

/-- Class hierarchy analysis finds the least call graph, and succeeds exactly if there is an entry
and targets can be found for all call sites in the methods that can be called from it. -/
theorem chaCallGraph_least {p : Program} (hp : p.Finished) (hc : p.FiniteChains) :
    (∀ entry, IsLeast {K | p.CallClosed entry K} (p.callable entry)) ∧
    ((∃ g, p.chaCallGraph.1 = .ok g) ↔ ∃ entry, p.entry = some entry ∧
      ∀ site call, p.stmt site = .invoke call → p.container site ∈ p.callable entry →
        ∃ targets, p.chaTargets site = .ok targets) ∧
    (∀ g, p.chaCallGraph.1 = .ok g → ∃ entry, p.entry = some entry ∧ g.reachable.toList.Nodup ∧
      (∀ m, m ∈ g.reachable ↔ m ∈ p.callable entry) ∧ ∀ e, e ∈ g.edges ↔ p.IsCallEdge entry e) ∧
    (∀ e, p.chaCallGraph.1 = .error e → (p.entry = none ∧ e = .noEntryMethod) ∨
      ∃ entry site call, p.entry = some entry ∧ p.stmt site = .invoke call ∧
        p.container site ∈ p.callable entry ∧ p.chaTargets site = .error e) ∧
    (∀ entry, ∃ outcome, Step.steps (step p) (stepBound p) (start entry) = .halt outcome) ∧
    (∀ root fuel, p.hierarchy.links.size < fuel →
      breadthFirst p.directSubtypes fuel root = p.possibleClasses root) ∧
    ∀ c g fuel, p.classes.size ≤ fuel → p.hierarchy.links.size < fuel →
      p.dispatchWithin fuel c g = p.dispatch c g := by
  refine ⟨p.isLeast_callable, ⟨?_, ?_⟩, ?_, fun e => chaCallGraph_error hp,
    fun entry => search_halts hp entry le_rfl, fun root fuel => p.possibleClasses_eq root,
    fun c g fuel => hp.wellFormed.dispatchWithin_eq hc c g⟩
  · intro h
    obtain ⟨g, hg⟩ := h
    obtain ⟨entry, he, -, hreach, -, hwhole⟩ := chaCallGraph_spec hp hg
    refine ⟨entry, he, fun site call hst hin => ?_⟩
    obtain ⟨call', targets, -, htargets, -⟩ :=
      hwhole.site ((hreach _).mpr hin) (hp.listed.mem_calls_iff.mpr ⟨⟨call, hst⟩, rfl⟩)
    exact ⟨targets, htargets⟩
  · intro h
    obtain ⟨entry, he, hall⟩ := h
    cases hg : p.chaCallGraph.1 with
    | ok g => exact ⟨g, rfl⟩
    | error e =>
      rcases chaCallGraph_error hp hg with ⟨hnone, -⟩ | ⟨entry', site, call, he', hst, hin, herror⟩
      · rw [he] at hnone
        cases hnone
      · cases he.symm.trans he'
        obtain ⟨targets, htargets⟩ := hall site call hst hin
        cases herror.symm.trans htargets
  · intro g hg
    obtain ⟨entry, he, hnodup, hreach, hedges, -⟩ := chaCallGraph_spec hp hg
    exact ⟨entry, he, hnodup, hreach, hedges⟩

/-- Two methods that call each other, and one that nothing calls and whose own call leads nowhere.
-/
def Description.rounds : Description where
  entry := some { cls := "Main", method := "main()V" }
  classes := [
    { name := "Main"
      methods := [
        { signature := "main()V"
          isStatic := true
          body := [.invoke .static "Main.tick()V" none [] none] },
        { signature := "tick()V"
          isStatic := true
          body := [.invoke .static "Main.tock()V" none [] none] },
        { signature := "tock()V"
          isStatic := true
          body := [.invoke .static "Main.tick()V" none [] none] },
        { signature := "stray()V"
          isStatic := true
          body := [.invoke .static "Main.missing()V" none [] none] }] }]

theorem Description.rounds_finished : rounds.program.Finished :=
  program_finished (by decide +kernel)

theorem Description.rounds_finiteChains : rounds.program.FiniteChains := by
  apply Program.finiteChains_of_lt fun c => 1 - c.index
  intro c hc
  have hrank : ∀ i < rounds.program.classes.size,
      ∀ sup ∈ (rounds.program.classDecl ⟨i⟩).superclass, 1 - sup.index < 1 - i := by
    decide +kernel
  exact hrank c.index hc

theorem chaCallGraph_least_rounds :
    let p := Description.rounds.program
    p.Finished ∧ p.FiniteChains ∧ ∃ g entry, p.chaCallGraph.1 = .ok g ∧ p.entry = some entry ∧
      (∀ m, m ∈ g.reachable ↔ m ∈ p.callable entry) ∧ ⟨2⟩ ∈ p.callable entry ∧
      ⟨3⟩ ∉ p.callable entry := by
  intro p
  have hp := Description.rounds_finished
  have hc := Description.rounds_finiteChains
  obtain ⟨g, hg, hreached⟩ := exists_of_toOption_map (b := true) (x := p.chaCallGraph.1)
    (f := fun g => decide (⟨2⟩ ∈ g.reachable ∧ ⟨3⟩ ∉ g.reachable)) (by decide +kernel)
  obtain ⟨-, -, hspec, -⟩ := chaCallGraph_least hp hc
  obtain ⟨entry, he, -, hreach, -⟩ := hspec g hg
  obtain ⟨htock, hstray⟩ := of_decide_eq_true hreached
  rw [hreach] at htock hstray
  exact ⟨hp, hc, g, entry, hg, he, hreach, htock, hstray⟩

end PointsTo
