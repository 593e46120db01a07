import PointsTo.Proofs.Coherence
import PointsTo.Proofs.GraphFilter
import PointsTo.Proofs.Precision
import PointsTo.Proofs.Twins

namespace PointsTo

/-- Identifiers in increasing order, none of them twice. -/
def Id.Ordered {κ : Entity} (l : List (Id κ)) : Prop := l.Pairwise fun i j => i.index < j.index

theorem Id.ordered_sort {κ : Entity} (l : List (Id κ)) : Id.Ordered (Id.sort l.eraseDups) := by
  have hnodup : (Id.sort l.eraseDups).Nodup :=
    (List.mergeSort_perm _ _).nodup_iff.mpr (nodup_eraseDups l)
  apply (Id.pairwise_sort l.eraseDups).imp₂ _ hnodup
  intro i j hle hne
  have hindex : i.index ≠ j.index := fun h => hne (Id.ext h)
  omega

theorem CallGraph.reachable_foldl_insertMethod {σ μ : Type} [Ord σ] [Ord μ] [DecidableEq μ]
    [Std.TransOrd μ] [Std.LawfulEqOrd μ] {g : CallGraph σ μ} (hg : g.Consistent)
    (hempty : g.reachable = #[]) (sites : μ → List σ) (l : List μ) :
    (l.foldl (fun g m => (g.insertMethod m (sites m)).2) g).reachable.toList = l.eraseDups := by
  induction l using List.reverseRecOn with
  | nil => rw [List.foldl_nil, hempty, List.eraseDups_nil]
  | append_singleton l m ih =>
    have hconsistent : (l.foldl (fun g m => (g.insertMethod m (sites m)).2) g).Consistent := by
      apply List.foldlRecOn
      · exact hg
      · intro g hg m _
        exact hg.insertMethod
    rw [List.foldl_append, eraseDups_concat]
    generalize l.foldl (fun g m => (g.insertMethod m (sites m)).2) g = g' at ih hconsistent
    have hmem : g'.contains m ↔ m ∈ l := by
      rw [hconsistent, ← Array.mem_toList_iff, ih, List.mem_eraseDups]
    change (g'.insertMethod m (sites m)).2.reachable.toList = _
    by_cases hm : m ∈ l
    · rw [insertMethod_of_mem (hmem.mpr hm), if_pos hm]
      exact ih
    · rw [insertMethod_of_not_mem (mt hmem.mp hm), if_neg hm, Array.toList_push, ih]

namespace Propagation

variable {p : Program} {π : Policy} {entry : MethodId} {s : State}

theorem CallChange.entries {g g' : CallGraph CtxSite CtxMethod} (h : CallChange p g g') :
    g'.entries = g.entries := by
  cases h with
  | same => rfl
  | method m =>
    by_cases hm : g.contains m
    · rw [CallGraph.insertMethod_of_mem hm]
    · rw [CallGraph.insertMethod_of_not_mem hm]
  | edge e =>
    obtain ⟨edges, calleeIndex, callerIndex, he⟩ := CallGraph.insertEdge_eq g e
    rw [he]

/-- The entry of a run is the method that it starts from. -/
theorem Moves.entries (h : Moves p π (start π entry) s) : ∃ c, s.calls.entries = #[⟨c, entry⟩] := by
  induction h with
  | refl =>
    have hnot (m : CtxMethod) : m ∉ ({} : CallGraph CtxSite CtxMethod).entries :=
      Array.not_mem_empty m
    exact ⟨_, congrArg CallGraph.entries (CallGraph.insertEntry_of_not_mem (hnot _))⟩
  | tail _ hmove ih =>
    cases hmove with
    | perform ha h =>
      rw [(State.callChange_perform h).entries]
      exact ih
    | deliver ha hq =>
      rw [State.calls_arrive]
      exact ih

end Propagation

/-- An edge without its contexts. -/
def Edge.plain (e : Edge CtxSite CtxMethod) : Edge StmtId MethodId :=
  ⟨e.kind, e.site.id, e.callee.id⟩

namespace Solution

variable {p : Program} {π : Policy} {r : Solution}

/-- The methods of the plain call graph, before its edges are added. -/
def plainMethods (r : Solution) : CallGraph StmtId MethodId :=
  (r.calls.reachable.toList.map (·.id)).foldl
    (fun g m => (g.insertMethod m (r.program.methodDecl m).calls.toList).2)
    ((r.calls.entries.toList.map (·.id)).foldl CallGraph.insertEntry {})

theorem plainCalls_eq (r : Solution) : r.plainCalls =
    (r.calls.edgeList.map Edge.plain).foldl (fun g e => (g.insertEdge e).2) r.plainMethods := by
  rw [plainCalls, ← Array.foldl_toList, ← Array.foldl_toList, plainMethods, List.foldl_map,
    List.foldl_map, List.foldl_map]
  rfl

/-- The graph that the methods are added to has nothing but entries. -/
theorem exists_plainMethods_eq (r : Solution) : ∃ entries, r.plainMethods =
    (r.calls.reachable.toList.map (·.id)).foldl
      (fun g m => (g.insertMethod m (r.program.methodDecl m).calls.toList).2) { entries } := by
  obtain ⟨entries, he⟩ := CallGraph.foldl_insertEntry (r.calls.entries.toList.map (·.id))
    (fun m => m) ({} : CallGraph StmtId MethodId)
  exact ⟨entries, by rw [plainMethods, he]⟩

theorem tracks_plainCalls (hp : r.program.Listed) :
    r.plainCalls.Tracks fun m => (r.program.methodDecl m).calls.toList := by
  obtain ⟨entries, hmethods⟩ := r.exists_plainMethods_eq
  have hempty := CallGraph.tracks_empty fun m => (r.program.methodDecl m).calls.toList
  rw [plainCalls_eq, hmethods]
  refine List.foldlRecOn (motive := (CallGraph.Tracks · _)) _ _ ?_ fun g hg e _ => hg.insertEdge e
  refine List.foldlRecOn (motive := (CallGraph.Tracks · _)) _ _ ?_
    fun g hg m _ => hg.insertMethod ?_ m
  · exact ⟨hempty.consistent, hempty.nodup, hempty.container⟩
  · intro m n s hm hn
    exact (hp.calls.mp (Array.mem_toList_iff.mp hm)).2.symm.trans
      (hp.calls.mp (Array.mem_toList_iff.mp hn)).2

theorem reachable_plainCalls (r : Solution) :
    r.plainCalls.reachable.toList = (r.calls.reachable.toList.map (·.id)).eraseDups := by
  obtain ⟨entries, hmethods⟩ := r.exists_plainMethods_eq
  obtain ⟨_, _, _, h⟩ :=
    CallGraph.foldl_insertEdge_eq (r.calls.edgeList.map Edge.plain) r.plainMethods
  rw [plainCalls_eq, h, hmethods]
  have hconsistent : ({ entries } : CallGraph StmtId MethodId).Consistent :=
    CallGraph.consistent_entries entries
  exact CallGraph.reachable_foldl_insertMethod hconsistent rfl _ _

theorem mem_edgeList_plainCalls (r : Solution) (e : Edge StmtId MethodId) :
    e ∈ r.plainCalls.edgeList ↔ ∃ e' ∈ r.calls.edgeList, e'.plain = e := by
  obtain ⟨entries, hmethods⟩ := r.exists_plainMethods_eq
  obtain ⟨_, _, _, _, hframe⟩ :=
    CallGraph.foldl_insertMethod_eq (r.calls.reachable.toList.map (·.id))
      (fun m => (r.program.methodDecl m).calls.toList) ({ entries } : CallGraph StmtId MethodId)
  have hnone : e ∉ r.plainMethods.edges := by
    rw [hmethods, hframe]
    exact Std.TreeSet.not_mem_emptyc
  have hmem := (CallGraph.foldl_insertEdge (r.calls.edgeList.map Edge.plain) (fun e => e)
    r.plainMethods).2 e
  rw [CallGraph.edgeList, Std.TreeSet.mem_toList, plainCalls_eq, hmem]
  simp [hnone]

theorem entries_plainCalls {c : ContextId} {m : MethodId} (h : r.calls.entries = #[⟨c, m⟩]) :
    r.plainCalls.entries = #[m] := by
  have hentry : ({} : CallGraph StmtId MethodId).insertEntry m = { entries := #[m] } :=
    CallGraph.insertEntry_of_not_mem (Array.not_mem_empty m)
  obtain ⟨_, _, _, _, hmethods⟩ :=
    CallGraph.foldl_insertMethod_eq (r.calls.reachable.toList.map (·.id))
      (fun m => (r.program.methodDecl m).calls.toList)
      ({ entries := #[m] } : CallGraph StmtId MethodId)
  obtain ⟨_, _, _, hedges⟩ :=
    CallGraph.foldl_insertEdge_eq (r.calls.edgeList.map Edge.plain) r.plainMethods
  rw [plainCalls_eq, hedges, plainMethods, h]
  change ((r.calls.reachable.toList.map (·.id)).foldl _
    (({} : CallGraph StmtId MethodId).insertEntry m)).entries = _
  rw [hentry, hmethods]

/-- A pointer can point to an object in a heap context. -/
def MayHold (r : Solution) (x : Pointer) (o : CtxObj) : Prop :=
  ∃ i u, r.store.findPointer? x = some i ∧ (r.store.pointees i).contains u ∧
    r.store.ctxObjects.values.get? u = some o

theorem Valid.get?_of_pointee (hr : r.Valid p) {i : PointerId} {u : CtxObjId}
    (hu : (r.store.pointees i).contains u) :
    r.store.ctxObjects.values.get? u = some (r.store.ctxObject u) := by
  obtain ⟨s, hs, rfl⟩ := hr
  exact Table.get?_of_holds (hs.store.member hu)

/-- What can be pointed to by the pointers of one kind. -/
theorem Valid.mem_project_iff (hr : r.Valid p) {l : List PointerId} {P : Pointer → Prop}
    (hl : ∀ i, i ∈ l ↔ ∃ x, r.store.pointers.values.get? i = some x ∧ P x) {o : ObjId} :
    o ∈ r.project l ↔ ∃ x h, P x ∧ r.MayHold x ⟨h, o⟩ := by
  rw [mem_project]
  constructor
  · rintro ⟨i, hi, u, hu, rfl⟩
    obtain ⟨x, hget, hx⟩ := (hl i).mp hi
    exact ⟨x, _, hx, i, u, AbstractStore.findPointer?_eq_some.mpr hget, hu, hr.get?_of_pointee hu⟩
  · rintro ⟨x, h, hx, i, u, hfind, hu, ho⟩
    refine ⟨i, (hl i).mpr ⟨x, AbstractStore.findPointer?_eq_some.mp hfind, hx⟩, u, hu, ?_⟩
    rw [hr.get?_of_pointee hu] at ho
    rw [Option.some.inj ho]

theorem pointer_of_get? {i : PointerId} {x : Pointer}
    (h : r.store.pointers.values.get? i = some x) : r.store.pointer i = x :=
  Table.get_of_get? h

theorem Valid.mem_varPointees_iff (hr : r.Valid p) {v : VarId} {o : ObjId} :
    o ∈ r.varPointees v ↔ ∃ c h, r.MayHold (.var ⟨c, v⟩) ⟨h, o⟩ := by
  have hl (i : PointerId) : i ∈ r.pointersOfVar v ↔
      ∃ x, r.store.pointers.values.get? i = some x ∧ ∃ c, x = .var ⟨c, v⟩ := by
    rw [pointersOfVar_eq, List.mem_filter, Solution.mem_pointerIds, Table.holds_iff]
    cases hi : r.store.pointers.values.get? i with
    | none => simp
    | some x =>
      rw [pointer_of_get? hi]
      cases x <;> simp [Pointer.isOf, Qualified.ext_iff]
  rw [varPointees, hr.mem_project_iff hl]
  constructor
  · rintro ⟨x, h, ⟨c, rfl⟩, hold⟩
    exact ⟨c, h, hold⟩
  · rintro ⟨c, h, hold⟩
    exact ⟨_, h, ⟨c, rfl⟩, hold⟩

theorem Valid.mem_staticPointees_iff (hr : r.Valid p) {f : FieldId} {o : ObjId} :
    o ∈ r.staticPointees f ↔ ∃ h, r.MayHold (.static f) ⟨h, o⟩ := by
  have hl (i : PointerId) : i ∈ (r.store.findPointer? (.static f)).toList ↔
      ∃ x, r.store.pointers.values.get? i = some x ∧ x = .static f := by
    rw [Option.mem_toList, AbstractStore.findPointer?_eq_some, exists_eq_right]
  rw [staticPointees, hr.mem_project_iff hl]
  simp only [exists_and_left, exists_eq_left]

theorem Valid.mem_fieldPointees_iff (hr : r.Valid p) {base : ObjId} {f : FieldId} {o : ObjId} :
    o ∈ r.fieldPointees base f ↔ ∃ w d h, r.store.ctxObjects.values.get? w = some ⟨d, base⟩ ∧
      r.MayHold (.field w f) ⟨h, o⟩ := by
  rw [Solution.mem_fieldPointees_iff]
  constructor
  · rintro ⟨i, hi, w, hx, rfl, u, hu, rfl⟩
    have hget := Table.get?_of_holds (Solution.mem_pointerIds.mp hi)
    have hw := Table.get?_of_holds (hr.holds_of_field hu hx)
    refine ⟨w, _, _, hw, i, u, AbstractStore.findPointer?_eq_some.mpr ?_, hu, hr.get?_of_pointee hu⟩
    exact hget.trans (congrArg some hx)
  · rintro ⟨w, d, h, hw, i, u, hfind, hu, ho⟩
    have hget := AbstractStore.findPointer?_eq_some.mp hfind
    rw [hr.get?_of_pointee hu] at ho
    refine ⟨i, hr.mem_pointerIds hu, w, pointer_of_get? hget, ?_, u, hu, ?_⟩
    · rw [AbstractStore.ctxObject, Interner.get, Table.get_of_get? hw]
    · rw [Option.some.inj ho]

theorem mem_varSites_iff {v : VarId} {s : StmtId} :
    s ∈ r.varSites v ↔ ∃ o ∈ r.varPointees v, (r.store.object o).site = s := by
  simp only [varSites, Id.sort, List.mem_mergeSort, List.mem_eraseDups, List.mem_map]

theorem Valid.holds_of_mayHold (hr : r.Valid p) {x : Pointer} {o : CtxObj} (h : r.MayHold x o) :
    r.store.objects.values.Holds o.id := by
  obtain ⟨i, u, -, -, hu⟩ := h
  obtain ⟨s, hs, rfl⟩ := hr
  exact (hs.store.ctxObject hu).2

/-- Objects are told apart by their sites. -/
theorem eq_of_site_eq {o o' : ObjId} (ho : r.store.objects.values.Holds o)
    (ho' : r.store.objects.values.Holds o')
    (h : (r.store.object o).site = (r.store.object o').site) : o = o' := by
  apply Interner.eq_of_key_eq (Table.get?_of_holds ho) (Table.get?_of_holds ho')
  exact congrArg (fun s : StmtId => [s.index]) h

/-- What is said without contexts is the exact image of what is said with them. -/
structure Projects (r : Solution) (p : Program) : Prop where
  reachable : r.plainCalls.reachable.toList = (r.calls.reachable.toList.map (·.id)).eraseDups
  edges {e : Edge StmtId MethodId} :
    e ∈ r.plainCalls.edgeList ↔ ∃ e' ∈ r.calls.edgeList, e'.plain = e
  entries : ∃ entry, p.entry = some entry ∧ r.plainCalls.entries = #[entry]
  containers {m : MethodId} (hm : m ∈ r.plainCalls.reachable) {s : StmtId}
    (hs : s ∈ (p.methodDecl m).stmts) (hcall : (p.stmt s).call?.isSome) :
    r.plainCalls.container? s = some m
  varsOrdered (v : VarId) : Id.Ordered (r.varPointees v)
  vars {v : VarId} {o : ObjId} : o ∈ r.varPointees v ↔ ∃ c h, r.MayHold (.var ⟨c, v⟩) ⟨h, o⟩
  staticsOrdered (f : FieldId) : Id.Ordered (r.staticPointees f)
  statics {f : FieldId} {o : ObjId} :
    o ∈ r.staticPointees f ↔ ∃ h, r.MayHold (.static f) ⟨h, o⟩
  fieldsOrdered (base : ObjId) (f : FieldId) : Id.Ordered (r.fieldPointees base f)
  fields {base : ObjId} {f : FieldId} {o : ObjId} : o ∈ r.fieldPointees base f ↔
    ∃ w d h, r.store.ctxObjects.values.get? w = some ⟨d, base⟩ ∧ r.MayHold (.field w f) ⟨h, o⟩
  sitesOrdered (v : VarId) : Id.Ordered (r.varSites v)
  sites {v : VarId} {s : StmtId} :
    s ∈ r.varSites v ↔ ∃ o ∈ r.varPointees v, (r.store.object o).site = s
  sitesDiffer {v : VarId} {o o' : ObjId} (ho : o ∈ r.varPointees v)
    (ho' : r.store.objects.values.Holds o')
    (h : (r.store.object o).site = (r.store.object o').site) : o = o'

end Solution

/-- The view without contexts is exact when the analysis succeeds. -/
theorem analyze_context_free {p : Program} (hp : p.Finished) {π : Policy} {r : Solution}
    (hr : (analyze p π).1 = .ok r) : r.Projects p := by
  have hvalid := Solution.valid_of_analyze hr
  obtain ⟨entry, s, he, hmoves, -, -, rfl⟩ := Propagation.idle_of_analyze hr
  obtain ⟨c, hentries⟩ := hmoves.entries
  constructor
  case reachable => exact Solution.reachable_plainCalls _
  case edges => exact fun {e} => Solution.mem_edgeList_plainCalls _ e
  case entries => exact ⟨entry, he, Solution.entries_plainCalls hentries⟩
  case containers =>
    intro m hm st hst hcall
    apply (Solution.tracks_plainCalls hp.listed).container hm
    rw [Array.mem_toList_iff]
    exact hp.listed.calls.mpr ⟨hcall, (hp.wellFormed.body.mp hst).2⟩
  case varsOrdered | staticsOrdered | fieldsOrdered | sitesOrdered =>
    intros
    exact Id.ordered_sort _
  case vars => exact hvalid.mem_varPointees_iff
  case statics => exact hvalid.mem_staticPointees_iff
  case fields => exact hvalid.mem_fieldPointees_iff
  case sites => exact Solution.mem_varSites_iff
  case sitesDiffer =>
    intro v o o' ho ho' hsite
    obtain ⟨d, h, hold⟩ := hvalid.mem_varPointees_iff.mp ho
    exact Solution.eq_of_site_eq (hvalid.holds_of_mayHold hold) ho' hsite

/-- A method that is reachable in two contexts, once for each box, is one method of the view, and
its parameter has both boxes. -/
theorem analyze_context_free_pairs : ∃ r,
    (analyze Description.pairs.program (.object 1)).1 = .ok r ∧
    r.calls.reachable.toList.map (·.id) = [⟨1⟩, ⟨0⟩, ⟨0⟩] ∧
    r.plainCalls.reachable.toList = [⟨1⟩, ⟨0⟩] ∧ r.plainCalls.container? ⟨4⟩ = some ⟨1⟩ ∧
    ⟨0⟩ ∈ r.varPointees ⟨1⟩ ∧ ⟨1⟩ ∈ r.varPointees ⟨1⟩ := by
  -- sorting cannot be evaluated here, so it is the sets of the two pointers that are
  have hrun : (analyze Description.pairs.program (.object 1)).1.toOption.map (fun r =>
      decide (r.calls.reachable.toList.map (·.id) = [⟨1⟩, ⟨0⟩, ⟨0⟩] ∧
        (r.store.findPointer? (.var ⟨⟨1⟩, ⟨1⟩⟩) = some ⟨5⟩ ∧ (r.store.pointees ⟨5⟩).contains ⟨0⟩ ∧
          r.store.ctxObjects.values.get? ⟨0⟩ = some ⟨⟨0⟩, ⟨0⟩⟩) ∧
        r.store.findPointer? (.var ⟨⟨2⟩, ⟨1⟩⟩) = some ⟨7⟩ ∧ (r.store.pointees ⟨7⟩).contains ⟨1⟩ ∧
          r.store.ctxObjects.values.get? ⟨1⟩ = some ⟨⟨0⟩, ⟨1⟩⟩)) = some true := by
    decide +kernel
  obtain ⟨r, hr, hfacts⟩ := exists_of_toOption_map hrun
  obtain ⟨hmethods, hfirst, hsecond⟩ := of_decide_eq_true hfacts
  have h := analyze_context_free Description.pairs_finished hr
  have hplain : r.plainCalls.reachable.toList = [⟨1⟩, ⟨0⟩] := by
    rw [h.reachable, hmethods]
    decide
  have hmain : (⟨1⟩ : MethodId) ∈ r.plainCalls.reachable := by
    rw [← Array.mem_toList_iff, hplain]
    decide
  refine ⟨r, hr, hmethods, hplain, ?_, ?_, ?_⟩
  · exact h.containers hmain (by decide +kernel) (by decide +kernel)
  · exact h.vars.mpr ⟨⟨1⟩, ⟨0⟩, ⟨5⟩, ⟨0⟩, hfirst⟩
  · exact h.vars.mpr ⟨⟨2⟩, ⟨0⟩, ⟨7⟩, ⟨1⟩, hsecond⟩

end PointsTo
