import PointsTo.Proofs.Outcomes
import PointsTo.Proofs.Queries

/-!
How precise an analysis is, depending on its policy. If the contexts of one policy can be mapped to
those of another so that all choices of contexts agree, then the other is at least as coarse.
-/
namespace PointsTo

variable {p : Program} {π π' : Policy} {r r' : Solution}

namespace Context

variable {j k : Nat}

theorem recent_zero (c : Context) : c.recent 0 = .empty := by
  simp [recent, empty]

theorem recent_empty (k : Nat) : empty.recent k = .empty := by
  simp [recent, empty]

theorem recent_recent (c : Context) (h : j ≤ k) : (c.recent k).recent j = c.recent j := by
  have hdrop : c.elems.length - k + (c.elems.length - (c.elems.length - k) - j) =
      c.elems.length - j := by
    omega
  simp only [recent, List.length_drop, List.drop_drop, hdrop]

theorem recent_extend (c : Context) (e : ContextElem) (h : j ≤ k) :
    (c.extend e k).recent j = c.extend e j :=
  recent_recent _ h

/-- Of `j` elements to keep one is added, so that the others need not be known any further back. -/
theorem extend_recent (c : Context) (e : ContextElem) (h : j ≤ k + 1) :
    (c.recent k).extend e j = c.extend e j := by
  have happend : (c.recent k).elems ++ [e] = (recent ⟨c.elems ++ [e]⟩ (k + 1)).elems := by
    have hlen : (c.elems ++ [e]).length - (k + 1) = c.elems.length - k := by
      simp
    rw [recent, recent, hlen, List.drop_append_of_le_length (Nat.sub_le _ k)]
  rw [extend, happend]
  exact recent_recent _ h

/-- Replaces every element. -/
def map (f : ContextElem → ContextElem) (c : Context) : Context := ⟨c.elems.map f⟩

theorem map_recent (f : ContextElem → ContextElem) (c : Context) (k : Nat) :
    (c.recent k).map f = (c.map f).recent k := by
  simp [map, recent, List.map_drop]

theorem map_extend (f : ContextElem → ContextElem) (c : Context) (e : ContextElem) (k : Nat) :
    (c.extend e k).map f = (c.map f).extend (f e) k := by
  rw [extend, map_recent, extend]
  simp [map]

end Context

/-- Maps from the contexts and heap contexts of the policy `π` to those of `π'`, under which the two
policies choose the same. -/
structure Coarsening (p : Program) (π π' : Policy) where
  context : Context → Context
  heap : Context → Context
  empty : context .empty = .empty
  forObject (c : Context) : heap (π.forObject c) = π'.forObject (context c)
  forStaticCall (c : Context) (s : StmtId) :
    context (π.forStaticCall c s) = π'.forStaticCall (context c) s
  calleeContext (c : Context) (s : StmtId) {o : HeapObj} (ho : p.objectAt o.obj.site = .ok o.obj) :
    context (π.calleeContext c s o) = π'.calleeContext (context c) s ⟨heap o.heap, o.obj⟩

namespace Coarsening

variable (κ : Coarsening p π π')

def heapObj (o : HeapObj) : HeapObj := ⟨κ.heap o.heap, o.obj⟩

def location : Location → Location
  | .var c v => .var (κ.context c) v
  | .static f => .static f
  | .field o f => .field (κ.heapObj o) f
  | .array o => .array (κ.heapObj o)

def fact : Fact → Fact
  | .reach c m => .reach (κ.context c) m
  | .call k c s d m => .call k (κ.context c) s (κ.context d) m
  | .flow x y => .flow (κ.location x) (κ.location y)
  | .pts x o => .pts (κ.location x) (κ.heapObj o)

/-- What follows from facts under the finer policy follows from their images under the coarser
one. -/
theorem infers {L K : Set Fact} (hL : ∀ f ∈ L, κ.fact f ∈ K)
    (hobj : ∀ x o, .pts x o ∈ L → p.objectAt o.obj.site = .ok o.obj) {f : Fact}
    (h : Infers p π L f) : Infers p π' K (κ.fact f) := by
  cases h with
  | entry h =>
    rw [fact, κ.empty]
    exact .entry h
  | @new c m s x t obj hm hs h ho =>
    rw [fact, heapObj, κ.forObject]
    exact .new (hL _ hm) hs h ho
  | copy hm hs h => exact .copy (hL _ hm) hs h
  | loadStatic hm hs h => exact .loadStatic (hL _ hm) hs h
  | storeStatic hm hs h => exact .storeStatic (hL _ hm) hs h
  | load hm hs h ho => exact .load (hL _ hm) hs h (hL _ ho)
  | store hm hs h ho => exact .store (hL _ hm) hs h (hL _ ho)
  | arrayLoad hm hs h ho => exact .arrayLoad (hL _ hm) hs h (hL _ ho)
  | arrayStore hm hs h ho => exact .arrayStore (hL _ hm) hs h (hL _ ho)
  | staticCall hm hs h hk hc =>
    rw [fact, κ.forStaticCall]
    exact .staticCall (hL _ hm) hs h hk hc
  | instanceCall hm hs h hk hb ho hc =>
    rw [fact, κ.calleeContext _ _ (hobj _ _ ho)]
    exact .instanceCall (hL _ hm) hs h hk hb (hL _ ho) hc
  | receiver hm hs h hk hb ho hc ht =>
    rw [fact, location, κ.calleeContext _ _ (hobj _ _ ho)]
    exact .receiver (hL _ hm) hs h hk hb (hL _ ho) hc ht
  | callee h => exact .callee (hL _ h)
  | argument hc h ha => exact .argument (hL _ hc) h ha
  | result hc h hx hv => exact .result (hL _ hc) h hx hv
  | along hf ho => exact .along (hL _ hf) (hL _ ho)

/-- Each fact of the finer analysis has its image among those of the coarser one. -/
theorem fact_mem (hwf : p.WellFormed) {f : Fact} (hf : f ∈ leastFacts p π) :
    κ.fact f ∈ leastFacts p π' := by
  let L : Set Fact := {g | κ.fact g ∈ leastFacts p π' ∧ g.Fits p π.bound}
  have hclosed : Closed p π L := by
    intro g hg
    constructor
    · apply closed_leastFacts p π'
      exact κ.infers (fun _ h => h.1) (fun _ _ h => h.2.2.obj) hg
    · apply closed_fits hwf π
      exact hg.mono fun _ h => h.2
  exact (leastFacts_subset hclosed hf).1

theorem callsResolve (κ : Coarsening p π π') (hwf : p.WellFormed)
    (h : CallsResolve p (leastFacts p π')) : CallsResolve p (leastFacts p π) where
  dynamic hm hs hst := h.dynamic (κ.fact_mem hwf hm) hs hst
  staticCall hm hs hst hk := h.staticCall (κ.fact_mem hwf hm) hs hst hk
  instanceCall {_ _ _ _ _ o} hm hs hst hk hb ho :=
    h.instanceCall (o := κ.heapObj o) (κ.fact_mem hwf hm) hs hst hk hb (κ.fact_mem hwf ho)

end Coarsening

namespace Solution

/-- The allocation sites of the objects that a static field can point to. -/
def staticSites (r : Solution) (f : FieldId) : Set StmtId :=
  {s | ∃ i ∈ r.staticPointees f, (r.store.object i).site = s}

/-- The allocation sites of the objects that a field can point to, in the objects of the site
`base`. -/
def fieldSites (r : Solution) (base : StmtId) (f : FieldId) : Set StmtId :=
  {s | ∃ b, r.store.objects.values.Holds b ∧ (r.store.object b).site = base ∧
    ∃ i ∈ r.fieldPointees b f, (r.store.object i).site = s}

/-- With the contexts left out, a solution says nothing that another one does not say as well. -/
structure Refines (r r' : Solution) : Prop where
  reachable : ∀ m ∈ r.plainCalls.reachable, m ∈ r'.plainCalls.reachable
  edges : ∀ e ∈ r.plainCalls.edges, e ∈ r'.plainCalls.edges
  varSites (v : VarId) : r.varSites v ⊆ r'.varSites v
  staticSites (f : FieldId) : r.staticSites f ⊆ r'.staticSites f
  fieldSites (base : StmtId) (f : FieldId) : r.fieldSites base f ⊆ r'.fieldSites base f

theorem mem_fieldSites (hr : r.Valid p) {base s : StmtId} {f : FieldId} :
    s ∈ r.fieldSites base f ↔
      ∃ b o, .pts (.field b f) o ∈ r.facts ∧ b.obj.site = base ∧ o.obj.site = s := by
  constructor
  · intro hmem
    obtain ⟨b, hb, hbase, hs⟩ := hmem
    obtain ⟨h, o, ho, hsite⟩ := (mem_fieldPointees hr hb).mp hs
    exact ⟨_, o, ho, hbase, hsite⟩
  · intro hmem
    obtain ⟨b, o, ho, hbase, hsite⟩ := hmem
    obtain ⟨i, hi, hobj⟩ := hr.exists_base ho
    refine ⟨i, hi, by rw [hobj, hbase], (mem_fieldPointees hr hi).mpr ⟨b.heap, o, ?_, hsite⟩⟩
    rw [hobj]
    exact ho

theorem refines_of_facts (κ : Coarsening p π π') (hr : r.Valid p) (hr' : r'.Valid p)
    (h : ∀ f ∈ r.facts, κ.fact f ∈ r'.facts) : r.Refines r' where
  reachable m hm := by
    obtain ⟨c, hc⟩ := (r.plainCalls_spec.1 m).mp hm
    exact (r'.plainCalls_spec.1 m).mpr ⟨_, h _ hc⟩
  edges e he := by
    obtain ⟨c, d, hcall⟩ := (r.plainCalls_spec.2 e.kind e.site e.callee).mp he
    exact (r'.plainCalls_spec.2 e.kind e.site e.callee).mpr ⟨_, _, h _ hcall⟩
  varSites v s hs := by
    obtain ⟨c, o, ho, hsite⟩ := (mem_varSites hr).mp hs
    exact (mem_varSites hr').mpr ⟨_, _, h _ ho, hsite⟩
  staticSites f s hs := by
    obtain ⟨o, ho, hsite⟩ := (mem_staticPointees hr).mp hs
    exact (mem_staticPointees hr').mpr ⟨_, h _ ho, hsite⟩
  fieldSites base f s hs := by
    obtain ⟨b, o, ho, hbase, hsite⟩ := (mem_fieldSites hr).mp hs
    exact (mem_fieldSites hr').mpr ⟨_, _, h _ ho, hbase, hsite⟩

end Solution

/-- If the coarser analysis succeeds then so does the finer one, and it is at least as precise. -/
theorem Coarsening.refines (κ : Coarsening p π π') (hp : p.Finished)
    (hr' : (analyze p π').1 = .ok r') : ∃ r, (analyze p π).1 = .ok r ∧ r.Refines r' := by
  have hcoarse := analyzesTo_analyze hp π'
  have hfine := analyzesTo_analyze hp π
  rw [hr'] at hcoarse
  obtain ⟨hentry, hfacts', hres⟩ := hcoarse.of_ok hp
  obtain ⟨r, hr⟩ := (hfine.isOk_iff hp).mpr ⟨hentry, κ.callsResolve hp.wellFormed hres⟩
  rw [hr] at hfine
  have hfacts := (hfine.of_ok hp).2.1
  refine ⟨r, hr, Solution.refines_of_facts κ (Solution.valid_of_analyze hr)
    (Solution.valid_of_analyze hr') fun f hf => ?_⟩
  rw [hfacts] at hf
  rw [hfacts']
  exact κ.fact_mem hp.wellFormed hf

namespace Policy

/-- A policy that keeps no more of the contexts than another of its kind. -/
inductive Coarser : Policy → Policy → Prop
  | insensitive (π : Policy) : Coarser .insensitive π
  | callSite {j k : Nat} (h : j ≤ k) : Coarser (.callSite j) (.callSite k)
  | object {j k : Nat} (h : j ≤ k) : Coarser (.object j) (.object k)
  | type {j k : Nat} (h : j ≤ k) : Coarser (.type j) (.type k)

namespace Coarser

theorem recent_forObject (h : π'.Coarser π) (c : Context) :
    (π.forObject c).recent (π'.bound - 1) = π'.forObject (c.recent π'.bound) := by
  cases h with
  | insensitive => exact Context.recent_zero _
  | @callSite j k h | @object j k h | @type j k h =>
    calc (c.recent (k - 1)).recent (j - 1)
      _ = c.recent (j - 1) := c.recent_recent (Nat.sub_le_sub_right h 1)
      _ = (c.recent j).recent (j - 1) := (c.recent_recent (Nat.sub_le j 1)).symm

theorem recent_forStaticCall (h : π'.Coarser π) (c : Context) (s : StmtId) :
    (π.forStaticCall c s).recent π'.bound = π'.forStaticCall (c.recent π'.bound) s := by
  cases h with
  | insensitive => exact Context.recent_zero _
  | @callSite j k h =>
    calc (c.extend (.call s) k).recent j
      _ = c.extend (.call s) j := c.recent_extend _ h
      _ = (c.recent j).extend (.call s) j := (c.extend_recent _ (Nat.le_succ j)).symm
  | object h | type h => rfl

theorem recent_calleeContext (h : π'.Coarser π) (c : Context) (s : StmtId) (o : HeapObj) :
    (π.calleeContext c s o).recent π'.bound =
      π'.calleeContext (c.recent π'.bound) s ⟨o.heap.recent (π'.bound - 1), o.obj⟩ := by
  cases h with
  | insensitive => exact Context.recent_zero _
  | callSite h => exact recent_forStaticCall (.callSite h) c s
  | @object j k h | @type j k h =>
    have hj : j ≤ j - 1 + 1 := by omega
    exact (o.heap.recent_extend _ h).trans (o.heap.extend_recent _ hj).symm

/-- The most recent elements of a context are enough for a coarser policy. A heap context has one
element less, as the element of the receiver itself is added when it is called. -/
def coarsening (p : Program) (h : π'.Coarser π) : Coarsening p π π' where
  context c := c.recent π'.bound
  heap c := c.recent (π'.bound - 1)
  empty := Context.recent_empty _
  forObject := h.recent_forObject
  forStaticCall := h.recent_forStaticCall
  calleeContext c s o _ := h.recent_calleeContext c s o

end Coarser

end Policy

/-- The more of the contexts a policy keeps, the more precise the analysis is: it succeeds if a
coarser one does, and it finds no more methods, calls and allocation sites. -/
theorem analyze_refines_of_coarser {p : Program} (hp : p.Finished) {π π' : Policy}
    (hπ : π'.Coarser π) {r' : Solution} (h : (analyze p π').1 = .ok r') :
    ∃ r, (analyze p π).1 = .ok r ∧ r.Refines r' :=
  (hπ.coarsening p).refines hp h

/-- Two boxes that are put into themselves by one method, and a variable for the content of the
first. -/
def Description.pairs : Description where
  entry := some { cls := "Box", method := "main()V" }
  classes := [
    { name := "Box"
      fields := [{ name := "content", type := "LBox;" }]
      methods := [
        { signature := "put(LBox;)V"
          params := ["x"]
          body := [.store (some "this") "Box.content" "x"] },
        { signature := "main()V"
          isStatic := true
          locals := [{ name := "a", type := "LBox;" }, { name := "b", type := "LBox;" },
            { name := "c", type := "LBox;" }]
          body := [.new "a" "LBox;", .new "b" "LBox;",
            .invoke .virtual "Box.put(LBox;)V" (some "a") ["a"] none,
            .invoke .virtual "Box.put(LBox;)V" (some "b") ["b"] none,
            .load "c" (some "a") "Box.content"] }] }]

theorem Description.pairs_finished : pairs.program.Finished := program_finished (by decide +kernel)

namespace Solution

/-- Whether a variable can point to an object of a site, asked without sorting the sites. -/
def hasSite (r : Solution) (v : VarId) (s : StmtId) : Bool :=
  (r.pointersOfVar v).any fun x =>
    (r.store.pointees x).toList.any fun u => (r.store.objectOf u).site = s

theorem hasSite_iff {v : VarId} {s : StmtId} : r.hasSite v s ↔ s ∈ r.varSites v := by
  simp only [hasSite, List.any_eq_true, decide_eq_true_eq, ObjSet.mem_toList, varSites, Id.sort,
    List.mem_mergeSort, List.mem_eraseDups, List.mem_map, varPointees, mem_project]
  constructor
  · intro h
    obtain ⟨x, hx, u, hu, hs⟩ := h
    exact ⟨_, ⟨x, hx, u, hu, rfl⟩, hs⟩
  · intro h
    obtain ⟨i, ⟨x, hx, u, hu, rfl⟩, hs⟩ := h
    exact ⟨x, hx, u, hu, hs⟩

theorem exists_of_hasSite {v : VarId} {s : StmtId} {b : Bool}
    (h : (analyze p π).1.toOption.map (·.hasSite v s) = some b) :
    ∃ r, (analyze p π).1 = .ok r ∧ (s ∈ r.varSites v ↔ b) := by
  obtain ⟨r, hr, hb⟩ := exists_of_toOption_map h
  exact ⟨r, hr, by rw [← hasSite_iff, hb]⟩

end Solution

/-- The objects of a call tell the two boxes apart. -/
theorem Description.pairs_apart (hr : (analyze pairs.program (.object 1)).1 = .ok r) :
    ⟨2⟩ ∉ r.varSites ⟨4⟩ := by
  obtain ⟨r₁, hr₁, hsite⟩ := Solution.exists_of_hasSite (p := pairs.program) (π := .object 1)
    (v := ⟨4⟩) (s := ⟨2⟩) (b := false) (by decide +kernel)
  have heq : r = r₁ := Except.ok.inj (hr.symm.trans hr₁)
  rw [heq, hsite]
  exact Bool.false_ne_true

theorem analyze_refines_of_coarser_pairs : ∃ r r',
    (analyze Description.pairs.program (.object 0)).1 = .ok r' ∧
    (analyze Description.pairs.program (.object 1)).1 = .ok r ∧ r.Refines r' ∧
    ⟨2⟩ ∈ r'.varSites ⟨4⟩ ∧ ⟨2⟩ ∉ r.varSites ⟨4⟩ := by
  obtain ⟨r', hr', hsite'⟩ := Solution.exists_of_hasSite (p := Description.pairs.program)
    (π := .object 0) (v := ⟨4⟩) (s := ⟨2⟩) (b := true) (by decide +kernel)
  obtain ⟨r, hr, href⟩ :=
    analyze_refines_of_coarser Description.pairs_finished (.object (Nat.zero_le 1)) hr'
  exact ⟨r, r', hr', hr, href, hsite'.mpr rfl, Description.pairs_apart hr⟩

/-- The class that contains an allocation site, in place of the site. -/
def ContextElem.toType (p : Program) : ContextElem → ContextElem
  | alloc s => type (p.methodDecl (p.container s)).cls
  | e => e

theorem Program.toType_of_objectAt {o : Obj} (h : p.objectAt o.site = .ok o) :
    ContextElem.toType p (.alloc o.site) = .type o.containerClass := by
  rw [(Program.of_objectAt h).2.2]
  rfl

theorem Context.map_calleeContext (k : Nat) (c : Context) (s : StmtId) {o : HeapObj}
    (ho : p.objectAt o.obj.site = .ok o.obj) :
    ((Policy.object k).calleeContext c s o).map (.toType p) =
      (Policy.type k).calleeContext (c.map (.toType p)) s ⟨o.heap.map (.toType p), o.obj⟩ :=
  calc (o.heap.extend (.alloc o.obj.site) k).map (.toType p)
    _ = (o.heap.map (.toType p)).extend (.toType p (.alloc o.obj.site)) k := Context.map_extend ..
    _ = (o.heap.map (.toType p)).extend (.type o.obj.containerClass) k := by
      rw [Program.toType_of_objectAt ho]

/-- The classes that contain the allocation sites of a context are enough for type sensitivity. -/
def Coarsening.objectToType (p : Program) (k : Nat) : Coarsening p (.object k) (.type k) where
  context c := c.map (.toType p)
  heap c := c.map (.toType p)
  empty := rfl
  forObject c := c.map_recent _ (k - 1)
  forStaticCall _ _ := rfl
  calleeContext c s _ ho := Context.map_calleeContext k c s ho

/-- Object sensitivity is at least as precise as type sensitivity with the same bound. -/
theorem analyze_object_refines_type {p : Program} (hp : p.Finished) {k : Nat} {r' : Solution}
    (h : (analyze p (.type k)).1 = .ok r') :
    ∃ r, (analyze p (.object k)).1 = .ok r ∧ r.Refines r' :=
  (Coarsening.objectToType p k).refines hp h

theorem analyze_object_refines_type_pairs : ∃ r r',
    (analyze Description.pairs.program (.type 1)).1 = .ok r' ∧
    (analyze Description.pairs.program (.object 1)).1 = .ok r ∧ r.Refines r' ∧
    ⟨2⟩ ∈ r'.varSites ⟨4⟩ ∧ ⟨2⟩ ∉ r.varSites ⟨4⟩ := by
  obtain ⟨r', hr', hsite'⟩ := Solution.exists_of_hasSite (p := Description.pairs.program)
    (π := .type 1) (v := ⟨4⟩) (s := ⟨2⟩) (b := true) (by decide +kernel)
  obtain ⟨r, hr, href⟩ := analyze_object_refines_type Description.pairs_finished hr'
  exact ⟨r, r', hr', hr, href, hsite'.mpr rfl, Description.pairs_apart hr⟩

end PointsTo
