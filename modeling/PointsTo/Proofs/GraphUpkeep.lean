import PointsTo.Proofs.Graphs

/-!
The collections of a call graph tell one story. The callees of a call site and the callers of a
method are those of the edges, a call site belongs to the last method found that lists it, and
nothing is listed twice. Every insertion keeps this up, whatever was inserted before it.
-/
namespace PointsTo.CallGraph

variable {σ μ : Type} [Ord σ] [Ord μ] {g : CallGraph σ μ} {m n : μ} {s : σ} {sites : List σ}
  {e : Edge σ μ}

/-- The reachable methods that list a call site, in the order in which they were found. -/
def listing (g : CallGraph σ μ) (s : σ) : List μ :=
  g.reachable.toList.filter fun m => (g.sitesOf m).any (compare · s = .eq)

/-- The collections of a call graph agree. -/
structure Sound (g : CallGraph σ μ) : Prop where
  consistent : g.Consistent
  entries : g.entries.toList.Nodup
  reachable : g.reachable.toList.Nodup
  indexed (m : μ) : m ∈ g.siteIndex ↔ m ∈ g.reachable
  callees (s : σ) (m : μ) : m ∈ g.callees s ↔ ∃ k, ⟨k, s, m⟩ ∈ g.edges
  callers (m : μ) (s : σ) : s ∈ g.callers m ↔ ∃ k, ⟨k, s, m⟩ ∈ g.edges
  container (s : σ) : g.container? s = (g.listing s).getLast?

theorem sound_empty [Std.TransOrd σ] [Std.TransOrd μ] [Std.LawfulEqOrd σ] [Std.LawfulEqOrd μ] :
    ({} : CallGraph σ μ).Sound where
  consistent := consistent_entries #[]
  entries := List.nodup_nil
  reachable := List.nodup_nil
  indexed m := by simp
  callees s m := by simp [callees]
  callers m s := by simp [callers]
  container s := by simp [container?, listing]

section Entries

/-- The other collections do not depend on the entries. -/
theorem Sound.withEntries (h : g.Sound) {entries : Array μ} (hn : entries.toList.Nodup) :
    Sound { g with entries } :=
  { h with entries := hn }

variable [Std.LawfulEqOrd μ]

theorem any_entries_iff : g.entries.any (compare · m = .eq) ↔ m ∈ g.entries := by
  simp [Array.any_eq_true, Array.mem_iff_getElem]

theorem insertEntry_of_mem (h : m ∈ g.entries) : g.insertEntry m = g := by
  rw [insertEntry, if_pos (any_entries_iff.mpr h)]

theorem insertEntry_of_not_mem (h : m ∉ g.entries) :
    g.insertEntry m = { g with entries := g.entries.push m } := by
  rw [insertEntry, if_neg (mt any_entries_iff.mp h)]

theorem Sound.insertEntry (h : g.Sound) (m : μ) : (g.insertEntry m).Sound := by
  by_cases hm : m ∈ g.entries
  · rw [insertEntry_of_mem hm]
    exact h
  · rw [insertEntry_of_not_mem hm]
    apply h.withEntries
    rw [Array.toList_push, ← List.concat_eq_append]
    apply h.entries.concat
    simpa using hm

end Entries

section Methods

variable [Std.TransOrd μ]

theorem sitesOf_insertMethod (hm : ¬g.contains m) :
    (g.insertMethod m sites).2.sitesOf n = if compare m n = .eq then sites else g.sitesOf n := by
  rw [insertMethod_of_not_mem hm]
  exact Std.TreeMap.getD_insert

/-- A method that is not reachable has no call sites. -/
theorem Sound.sitesOf_of_not_mem (h : g.Sound) (hm : m ∉ g.reachable) : g.sitesOf m = [] :=
  Std.TreeMap.getD_eq_fallback (mt (h.indexed m).mp hm)

variable [Std.LawfulEqOrd σ]

omit [Std.TransOrd μ] in
theorem mem_listing : m ∈ g.listing s ↔ m ∈ g.reachable ∧ s ∈ g.sitesOf m := by
  simp [listing]

omit [Std.TransOrd μ] in
/-- A call site belongs to some method if a reachable method lists it. -/
theorem Sound.isSome_container?_iff (h : g.Sound) :
    (g.container? s).isSome ↔ ∃ m ∈ g.reachable, s ∈ g.sitesOf m := by
  rw [h.container, List.getLast?_isSome]
  constructor
  · intro hne
    obtain ⟨m, hm⟩ := List.exists_mem_of_ne_nil _ hne
    exact ⟨m, mem_listing.mp hm⟩
  · rintro ⟨m, hm⟩
    exact List.ne_nil_of_mem (mem_listing.mpr hm)

variable [Std.LawfulEqOrd μ]

omit [Std.LawfulEqOrd σ] in
/-- A new method comes last among those that list a call site. -/
theorem listing_insertMethod (h : g.Consistent) (hm : ¬g.contains m) (sites : List σ) (s : σ) :
    (g.insertMethod m sites).2.listing s =
      g.listing s ++ if sites.any (compare · s = .eq) then [m] else [] := by
  have hreach : (g.insertMethod m sites).2.reachable.toList = g.reachable.toList ++ [m] := by
    rw [insertMethod_of_not_mem hm, Array.toList_push]
  rw [listing, hreach, List.filter_append]
  congr 1
  · apply List.filter_congr
    intro n hn
    have hne : m ≠ n := fun hmn => hm ((h m).mpr (hmn ▸ Array.mem_toList_iff.mp hn))
    rw [sitesOf_insertMethod hm, if_neg (mt Std.LawfulEqOrd.eq_of_compare hne)]
  · rw [List.filter_singleton, sitesOf_insertMethod hm, if_pos Std.ReflCmp.compare_self,
      cond_eq_ite]

variable [Std.TransOrd σ]

theorem Sound.insertMethod (h : g.Sound) (m : μ) (sites : List σ) :
    (g.insertMethod m sites).2.Sound := by
  by_cases hm : g.contains m
  · rw [insertMethod_of_mem hm]
    exact h
  have hlisting := listing_insertMethod h.consistent hm sites
  have hconsistent : (g.insertMethod m sites).2.Consistent := h.consistent.insertMethod
  rw [insertMethod_of_not_mem hm] at hlisting hconsistent ⊢
  refine ⟨hconsistent, h.entries, ?_, fun n => ?_, h.callees, h.callers, fun s => ?_⟩
  · rw [Array.toList_push, ← List.concat_eq_append]
    apply h.reachable.concat
    intro hmem
    exact hm ((h.consistent m).mpr (Array.mem_toList_iff.mp hmem))
  · rw [Std.TreeMap.mem_insert, Std.LawfulEqOrd.compare_eq_iff_eq, h.indexed, Array.mem_push,
      or_comm, eq_comm]
  · obtain ⟨hmem, hnot⟩ := getElem?_foldl_insert sites m g.containers s
    rw [hlisting, container?]
    by_cases hs : s ∈ sites
    · rw [hmem hs]
      simp [hs]
    · rw [hnot hs]
      simpa [hs, container?] using h.container s

end Methods

section Edges

/-- An edge leaves the entries, the methods and the call sites alone. -/
theorem insertEdge_eq (g : CallGraph σ μ) (e : Edge σ μ) : ∃ edges calleeIndex callerIndex,
    (g.insertEdge e).2 = { g with edges, calleeIndex, callerIndex } := by
  by_cases he : e ∈ g.edges
  · exact ⟨g.edges, g.calleeIndex, g.callerIndex, by rw [insertEdge_of_mem he]⟩
  · rw [insertEdge_of_not_mem he]
    exact ⟨_, _, _, rfl⟩

variable [Std.TransOrd σ] [Std.TransOrd μ] [Std.LawfulEqOrd σ] [Std.LawfulEqOrd μ]

/-- An index of sets with one more entry. -/
theorem mem_getD_insert {t : Std.TreeMap σ (Std.TreeSet μ)} {s' : σ} :
    m ∈ ((t.insert s ((t.getD s {}).insert n)).getD s' {}).toList ↔
      m ∈ (t.getD s' {}).toList ∨ (s = s' ∧ n = m) := by
  rw [Std.TreeSet.mem_toList, Std.TreeSet.mem_toList, Std.TreeMap.getD_insert]
  split
  · next hs =>
    rw [Std.LawfulEqOrd.compare_eq_iff_eq] at hs
    rw [Std.TreeSet.mem_insert, Std.LawfulEqOrd.compare_eq_iff_eq, hs, or_comm]
    simp
  · next hs =>
    rw [Std.LawfulEqOrd.compare_eq_iff_eq] at hs
    simp [hs]

theorem mem_callees_insertEdge (he : e ∉ g.edges) :
    m ∈ (g.insertEdge e).2.callees s ↔ m ∈ g.callees s ∨ (e.site = s ∧ e.callee = m) := by
  rw [insertEdge_of_not_mem he]
  exact mem_getD_insert

theorem mem_callers_insertEdge (he : e ∉ g.edges) :
    s ∈ (g.insertEdge e).2.callers m ↔ s ∈ g.callers m ∨ (e.callee = m ∧ e.site = s) := by
  rw [insertEdge_of_not_mem he]
  exact mem_getD_insert

theorem Sound.insertEdge (h : g.Sound) (e : Edge σ μ) : (g.insertEdge e).2.Sound := by
  by_cases he : e ∈ g.edges
  · rw [insertEdge_of_mem he]
    exact h
  have hkinds (s : σ) (m : μ) : (∃ k, ⟨k, s, m⟩ ∈ (g.insertEdge e).2.edges) ↔
      (∃ k, ⟨k, s, m⟩ ∈ g.edges) ∨ (e.site = s ∧ e.callee = m) := by
    simp only [mem_edges_insertEdge, exists_or]
    apply or_congr_right
    constructor
    · rintro ⟨k, rfl⟩
      exact ⟨rfl, rfl⟩
    · rintro ⟨rfl, rfl⟩
      exact ⟨e.kind, rfl⟩
  have hcallees (s : σ) (m : μ) : m ∈ (g.insertEdge e).2.callees s ↔
      ∃ k, ⟨k, s, m⟩ ∈ (g.insertEdge e).2.edges := by
    rw [mem_callees_insertEdge he, h.callees, hkinds]
  have hcallers (m : μ) (s : σ) : s ∈ (g.insertEdge e).2.callers m ↔
      ∃ k, ⟨k, s, m⟩ ∈ (g.insertEdge e).2.edges := by
    rw [mem_callers_insertEdge he, h.callers, hkinds, and_comm]
  obtain ⟨edges, calleeIndex, callerIndex, heq⟩ := insertEdge_eq g e
  rw [heq] at hcallees hcallers ⊢
  exact { h with callees := hcallees, callers := hcallers }

end Edges

end PointsTo.CallGraph
