import PointsTo.Proofs.Precision

namespace PointsTo

variable {p : Program} {k : Nat} {entry : MethodId} {r : Solution}

/-- The context `c` is made of the `k` last elements of `d`, or of all if there are not as many. -/
structure Context.IsRecent (k : Nat) (c d : Context) : Prop where
  suffix : c.elems <:+ d.elems
  length : c.elems.length = min k d.elems.length

theorem Context.isRecent_recent (k : Nat) (c : Context) : (c.recent k).IsRecent k c where
  suffix := List.drop_suffix ..
  length := by
    rw [recent, List.length_drop]
    omega

/-- The call sites of a path, as a context. -/
def callString (path : List (Edge StmtId MethodId)) : Context :=
  ⟨path.map fun e => .call e.site⟩

theorem recent_callString_append (path : List (Edge StmtId MethodId))
    (e : Edge StmtId MethodId) (k : Nat) :
    (callString (path ++ [e])).recent k = (callString path).extend (.call e.site) k := by
  rw [callString, List.map_append]
  rfl

/-- A path of edges of a call graph from the method `entry`. The call site of each edge is in the
body of the method that the edges before it lead to. -/
inductive CallPath (p : Program) (g : CallGraph StmtId MethodId) (entry : MethodId) :
    List (Edge StmtId MethodId) → MethodId → Prop
  | nil : CallPath p g entry [] entry
  | append {path m e} (h : CallPath p g entry path m) (he : e ∈ g.edges)
      (hs : e.site ∈ (p.methodDecl m).stmts) : CallPath p g entry (path ++ [e]) e.callee

/-- The contexts of a fact are known from paths through a call graph. -/
def Fact.Traced (p : Program) (g : CallGraph StmtId MethodId) (entry : MethodId) (k : Nat) :
    Fact → Prop
  | .reach c m => ∃ path, CallPath p g entry path m ∧ c = (callString path).recent k
  | .call _ _ s d _ => ∃ path m, CallPath p g entry path m ∧ s ∈ (p.methodDecl m).stmts ∧
      d = (callString path).extend (.call s) k
  | .flow _ _ => True
  | .pts _ o => ∃ c m, .reach c m ∈ leastFacts p (.callSite k) ∧
      o.obj.site ∈ (p.methodDecl m).stmts ∧ o.heap = c.recent (k - 1)

theorem traced_of_mem {g : CallGraph StmtId MethodId} (he : p.entry = some entry)
    (hg : ∀ {kind c s d m}, .call kind c s d m ∈ leastFacts p (.callSite k) →
      ⟨kind, s, m⟩ ∈ g.edges)
    {f : Fact} (hf : f ∈ leastFacts p (.callSite k)) : f.Traced p g entry k := by
  have hcall {kind c m s d callee} (hm : Fact.Traced p g entry k (.reach c m))
      (hs : s ∈ (p.methodDecl m).stmts) (hd : d = c.extend (.call s) k) :
      Fact.Traced p g entry k (.call kind c s d callee) := by
    obtain ⟨path, hpath, hc⟩ := hm
    refine ⟨path, m, hpath, hs, ?_⟩
    rw [hd, hc]
    exact Context.extend_recent _ _ (Nat.le_succ k)
  refine leastFacts_induction (fun f h => ?_) hf
  cases h with
  | @entry m h =>
    have hm : entry = m := Option.some.inj (he.symm.trans h)
    rw [← hm]
    exact ⟨[], .nil, (Context.recent_empty k).symm⟩
  | @new c m s x t obj hm hs h ho =>
    refine ⟨c, m, hm.1, ?_, rfl⟩
    rw [Program.site_of_objectAt ho]
    exact hs
  | staticCall hm hs => exact hcall hm.2 hs rfl
  | instanceCall hm hs => exact hcall hm.2 hs rfl
  | receiver _ _ _ _ _ ho => exact ho.2
  | @callee kind c s d m h =>
    obtain ⟨path, m', hpath, hs, hd⟩ := h.2
    refine ⟨_, hpath.append (hg h.1) hs, ?_⟩
    rw [recent_callString_append]
    exact hd
  | along _ ho => exact ho.2
  | copy | loadStatic | storeStatic | load | store | arrayLoad | arrayStore | argument | result =>
    trivial

section Strings

variable (hfacts : r.facts = leastFacts p (.callSite k))
include hfacts

theorem traced_of_mem_facts (he : p.entry = some entry) {f : Fact} (hf : f ∈ r.facts) :
    f.Traced p r.plainCalls entry k := by
  rw [hfacts] at hf
  refine traced_of_mem he (fun {kind c s d m} hcall => ?_) hf
  rw [← hfacts] at hcall
  exact (r.plainCalls_spec.2 kind s m).mpr ⟨c, d, hcall⟩

/-- What a reachable method allocates is found in the variable that it is assigned to. -/
theorem exists_pointee_of_new (hp : p.Finished) (hr : r.Valid p) {q : CtxMethod}
    (hq : q ∈ r.calls.reachable) {s : StmtId} (hs : s ∈ (p.methodDecl q.id).stmts) {x : VarId}
    {t : Ty} (hst : p.stmt s = .new x t) :
    ∃ set o, r.varPointeesIn q.context x = some set ∧ set.contains o ∧
      (r.store.objectOf o).site = s ∧
      (r.store.heapContextOf o).IsRecent (k - 1) (r.store.context q.context) := by
  have hreach : .reach (r.store.context q.context) q.id ∈ r.facts := ⟨q, hq, rfl, rfl⟩
  obtain ⟨obj, ho⟩ := hp.exists_object hst
  have hpts : .pts (.var (r.store.context q.context) x)
      ⟨(r.store.context q.context).recent (k - 1), obj⟩ ∈ r.facts := by
    rw [hfacts] at hreach ⊢
    exact closed_leastFacts p (.callSite k) _ (.new hreach hs hst ho)
  obtain ⟨set, o, hset, hmem, hobj⟩ := hr.varPointeesIn (hr.holds_context hq) hpts
  have hsite : r.store.objectOf o = obj := congrArg HeapObj.obj hobj
  have hheap : r.store.heapContextOf o = (r.store.context q.context).recent (k - 1) :=
    congrArg HeapObj.heap hobj
  refine ⟨set, o, hset, hmem, ?_, ?_⟩
  · rw [hsite, Program.site_of_objectAt ho]
  · rw [hheap]
    exact Context.isRecent_recent _ _

/-- Every object was allocated by a reachable method. -/
theorem exists_allocator (he : p.entry = some entry) {i : PointerId} {o : CtxObjId}
    (hio : (r.store.pointees i).contains o) : ∃ q ∈ r.calls.reachable,
    (r.store.objectOf o).site ∈ (p.methodDecl q.id).stmts ∧
      (r.store.heapContextOf o).IsRecent (k - 1) (r.store.context q.context) := by
  obtain ⟨c, m, hreach, hsite, hheap⟩ :=
    traced_of_mem_facts (f := .pts _ _) hfacts he ⟨i, o, hio, rfl, rfl⟩
  rw [← hfacts] at hreach
  obtain ⟨q, hq, rfl, rfl⟩ := hreach
  have hheap : r.store.heapContextOf o = (r.store.context q.context).recent (k - 1) := hheap
  refine ⟨q, hq, hsite, ?_⟩
  rw [hheap]
  exact Context.isRecent_recent _ _

end Strings

/-- With call-site sensitivity, contexts are the strings of the last call sites on paths of the
plain call graph from the entry method, and heap contexts are the ends of such strings. -/
theorem analyze_callSite_strings {p : Program} (hp : p.Finished) {k : Nat} {r : Solution}
    (h : (analyze p (.callSite k)).1 = .ok r) :
    (∀ q ∈ r.calls.reachable,
      (∃ entry path, p.entry = some entry ∧ CallPath p r.plainCalls entry path q.id ∧
        (r.store.context q.context).IsRecent k (callString path)) ∧
      ∀ s x t, s ∈ (p.methodDecl q.id).stmts → p.stmt s = .new x t →
        ∃ set o, r.varPointeesIn q.context x = some set ∧ set.contains o ∧
          (r.store.objectOf o).site = s ∧
          (r.store.heapContextOf o).IsRecent (k - 1) (r.store.context q.context)) ∧
    ∀ i o, (r.store.pointees i).contains o → ∃ q ∈ r.calls.reachable,
      (r.store.objectOf o).site ∈ (p.methodDecl q.id).stmts ∧
        (r.store.heapContextOf o).IsRecent (k - 1) (r.store.context q.context) := by
  have hr := Solution.valid_of_analyze h
  have hrun := analyzesTo_analyze hp (.callSite k)
  rw [h] at hrun
  obtain ⟨hentry, hfacts, -⟩ := hrun.of_ok hp
  obtain ⟨entry, he⟩ := Option.isSome_iff_exists.mp hentry
  refine ⟨fun q hq => ⟨?_, fun s x t hs hst => ?_⟩, fun i o hio => ?_⟩
  · obtain ⟨path, hpath, hc⟩ :=
      traced_of_mem_facts (f := .reach _ _) hfacts he ⟨q, hq, rfl, rfl⟩
    refine ⟨entry, path, he, hpath, ?_⟩
    rw [hc]
    exact Context.isRecent_recent k _
  · exact exists_pointee_of_new hfacts hp hr hq hs hst
  · exact exists_allocator hfacts he hio

/-- A method that calls itself with a new object each time. -/
def Description.descent : Description where
  entry := some { cls := "Main", method := "main()V" }
  classes := [
    { name := "Main"
      methods := [
        { signature := "main()V"
          isStatic := true
          body := [.invoke .static "Main.down()V" none [] none] },
        { signature := "down()V"
          isStatic := true
          locals := [{ name := "x", type := "LMain;" }]
          body := [.new "x" "LMain;", .invoke .static "Main.down()V" none [] none] }] }]

theorem Description.descent_finished : descent.program.Finished :=
  program_finished (by decide +kernel)

/-- The path to the third call is longer than the two call sites that are kept of it. -/
theorem analyze_callSite_strings_descent : ∃ r q,
    (analyze Description.descent.program (.callSite 2)).1 = .ok r ∧ q ∈ r.calls.reachable ∧
    r.store.context q.context = ⟨[.call ⟨2⟩, .call ⟨2⟩]⟩ ∧
    (∃ entry path, CallPath Description.descent.program r.plainCalls entry path q.id ∧
      Context.IsRecent 2 ⟨[.call ⟨2⟩, .call ⟨2⟩]⟩ (callString path)) ∧
    ∃ set o, r.varPointeesIn q.context ⟨0⟩ = some set ∧ set.contains o ∧
      (r.store.heapContextOf o).IsRecent 1 ⟨[.call ⟨2⟩, .call ⟨2⟩]⟩ := by
  obtain ⟨r, hr, hany⟩ := exists_of_toOption_map (b := true)
    (x := (analyze Description.descent.program (.callSite 2)).1)
    (f := fun r => r.calls.reachable.toList.any fun q => q.id = ⟨1⟩ ∧
      r.store.context q.context = ⟨[.call ⟨2⟩, .call ⟨2⟩]⟩) (by decide +kernel)
  obtain ⟨q, hq, hcontext⟩ := List.any_eq_true.mp hany
  obtain ⟨hid, hcontext⟩ := of_decide_eq_true hcontext
  have hq := Array.mem_toList_iff.mp hq
  obtain ⟨hpath, halloc⟩ :=
    (analyze_callSite_strings Description.descent_finished hr).1 q hq
  obtain ⟨entry, path, -, hpath, hrecent⟩ := hpath
  obtain ⟨set, o, hset, ho, -, hheap⟩ :=
    halloc ⟨1⟩ ⟨0⟩ (.ref "Main") (by rw [hid]; decide +kernel) (by decide +kernel)
  rw [hcontext] at hrecent hheap
  exact ⟨r, q, hr, hq, hcontext, ⟨entry, path, hpath, hrecent⟩, set, o, hset, ho, hheap⟩

end PointsTo
