import Mathlib.Data.List.Nodup
import PointsTo.CallGraph.Basic
import PointsTo.FlowGraph

namespace PointsTo

namespace FlowGraph

variable {g : FlowGraph} {x y a b : PointerId}

/-- The targets listed for a pointer are those of its edges, each once. -/
structure Consistent (g : FlowGraph) : Prop where
  mem_successors (x y : PointerId) : y ∈ g.successors x ↔ (x, y) ∈ g.edges
  nodup (x : PointerId) : (g.successors x).toList.Nodup

theorem consistent_empty : Consistent {} where
  mem_successors x y := by simp [successors]
  nodup x := by simp [successors]

theorem Consistent.contains_iff (h : g.Consistent) : g.contains x y ↔ (x, y) ∈ g.edges := by
  rw [contains, Array.contains_iff_mem, h.mem_successors]

theorem insertEdge_of_mem (h : g.contains x y) : g.insertEdge x y = (false, g) := by
  simp [insertEdge, h]

theorem insertEdge_of_not_mem (h : ¬g.contains x y) : g.insertEdge x y =
    (true, { edges := g.edges.push (x, y)
             targets := g.targets.insert x ((g.successors x).push y) }) := by
  simp [insertEdge, h]

theorem Consistent.insertEdge (h : g.Consistent) : (g.insertEdge x y).2.Consistent := by
  by_cases hc : g.contains x y
  · rw [insertEdge_of_mem hc]
    exact h
  rw [insertEdge_of_not_mem hc]
  have hsucc (a : PointerId) : successors ⟨g.edges.push (x, y),
      g.targets.insert x ((g.successors x).push y)⟩ a =
      if x = a then (g.successors x).push y else g.successors a := by
    simp [successors, Std.TreeMap.getD_insert]
  constructor
  · intro a b
    rw [hsucc, Array.mem_push]
    split
    · next ha =>
      subst ha
      rw [Array.mem_push, h.mem_successors]
      simp
    · next ha =>
      rw [h.mem_successors]
      simp [Ne.symm ha]
  · intro a
    rw [hsucc]
    split
    · rw [Array.toList_push, List.nodup_append]
      refine ⟨h.nodup x, List.nodup_singleton y, ?_⟩
      rintro z hz w hw rfl
      rw [List.mem_singleton.mp hw] at hz
      rw [contains, Array.contains_iff_mem] at hc
      exact hc (Array.mem_toList_iff.mp hz)
    · exact h.nodup a

theorem mem_edges_insertEdge (h : g.Consistent) :
    (a, b) ∈ (g.insertEdge x y).2.edges ↔ (a, b) ∈ g.edges ∨ (a = x ∧ b = y) := by
  by_cases hc : g.contains x y
  · rw [insertEdge_of_mem hc]
    refine ⟨Or.inl, ?_⟩
    rintro (hm | ⟨rfl, rfl⟩)
    · exact hm
    · exact h.contains_iff.mp hc
  · rw [insertEdge_of_not_mem hc]
    simp

end FlowGraph

namespace Edge

variable {σ μ : Type} [Ord σ] [Ord μ]

instance [Std.LawfulEqOrd σ] [Std.LawfulEqOrd μ] : Std.LawfulEqOrd (Edge σ μ) where
  compare_self {a} := by
    have h : compareLex (compareOn kind) (compareLex (compareOn site) (compareOn callee)) a a =
        .eq := by
      simp [compareLex, compareOn]
    exact h
  eq_of_compare {a b} h := by
    have h : compareLex (compareOn kind) (compareLex (compareOn site) (compareOn callee)) a b =
        .eq := h
    obtain ⟨hk, h⟩ := Ordering.then_eq_eq.1 h
    obtain ⟨hs, hc⟩ := Ordering.then_eq_eq.1 h
    cases a
    cases b
    cases Std.LawfulEqOrd.eq_of_compare hk
    cases Std.LawfulEqOrd.eq_of_compare hs
    cases Std.LawfulEqOrd.eq_of_compare hc
    rfl

end Edge

namespace CallGraph

variable {σ μ : Type} [Ord σ] [Ord μ] {g : CallGraph σ μ} {m n : μ} {sites : List σ}
  {e e' : Edge σ μ}

/-- The set of reachable methods holds those that are listed. -/
def Consistent (g : CallGraph σ μ) : Prop := ∀ m, g.contains m ↔ m ∈ g.reachable

theorem consistent_entries (entries : Array μ) : Consistent ({ entries } : CallGraph σ μ) := by
  intro m
  simp [contains]

theorem insertMethod_of_mem (h : g.contains m) : g.insertMethod m sites = (false, g) := by
  simp [insertMethod, h]

theorem insertMethod_of_not_mem (h : ¬g.contains m) : g.insertMethod m sites =
    (true, { g with
      reachable := g.reachable.push m
      reachableSet := g.reachableSet.insert m
      siteIndex := g.siteIndex.insert m sites
      containers := sites.foldl (·.insert · m) g.containers }) := by
  simp [insertMethod, h]

theorem Consistent.insertMethod [Std.TransOrd μ] [Std.LawfulEqOrd μ] (h : g.Consistent) :
    (g.insertMethod m sites).2.Consistent := by
  by_cases hc : g.contains m
  · rw [insertMethod_of_mem hc]
    exact h
  · rw [insertMethod_of_not_mem hc]
    intro n
    have hn := h n
    simp only [contains, Std.TreeSet.contains_insert, Array.mem_push, Bool.or_eq_true, beq_iff_eq,
      Std.LawfulEqOrd.compare_eq_iff_eq] at hn ⊢
    rw [hn, or_comm, eq_comm]

theorem mem_reachable_insertMethod (h : g.Consistent) :
    n ∈ (g.insertMethod m sites).2.reachable ↔ n ∈ g.reachable ∨ n = m := by
  by_cases hc : g.contains m
  · rw [insertMethod_of_mem hc]
    exact ⟨Or.inl, fun hn => hn.elim id fun hn => hn ▸ (h m).mp hc⟩
  · rw [insertMethod_of_not_mem hc, Array.mem_push]

theorem edges_insertMethod : (g.insertMethod m sites).2.edges = g.edges := by
  by_cases hc : g.contains m
  · rw [insertMethod_of_mem hc]
  · rw [insertMethod_of_not_mem hc]

omit [Ord μ] in
/-- A method takes the call sites that it lists, and leaves the others where they are. -/
theorem getElem?_foldl_insert [Std.TransOrd σ] [Std.LawfulEqOrd σ] (sites : List σ) (m : μ)
    (t : Std.TreeMap σ μ) (s : σ) :
    (s ∈ sites → (sites.foldl (·.insert · m) t)[s]? = some m) ∧
      (s ∉ sites → (sites.foldl (·.insert · m) t)[s]? = t[s]?) := by
  induction sites generalizing t with
  | nil => exact ⟨fun h => (List.not_mem_nil h).elim, fun _ => rfl⟩
  | cons a sites ih =>
    obtain ⟨hmem, hnot⟩ := ih (t.insert a m)
    rw [List.foldl_cons]
    by_cases hs : s ∈ sites
    · exact ⟨fun _ => hmem hs, fun h => (h (List.mem_cons_of_mem a hs)).elim⟩
    · rw [hnot hs, Std.TreeMap.getElem?_insert]
      constructor
      · intro h
        have ha : s = a := (List.mem_cons.mp h).resolve_right hs
        rw [if_pos (Std.LawfulEqOrd.compare_eq_iff_eq.mpr ha.symm)]
      · intro h
        have ha : a ≠ s := fun ha => h (ha ▸ List.mem_cons_self)
        rw [if_neg (mt Std.LawfulEqOrd.eq_of_compare ha)]

theorem insertEdge_of_mem (h : e ∈ g.edges) : g.insertEdge e = (false, g) := by
  simp [insertEdge, Std.TreeSet.mem_iff_contains.mp h]

theorem insertEdge_of_not_mem (h : e ∉ g.edges) : g.insertEdge e =
    (true, { g with
      edges := g.edges.insert e
      calleeIndex :=
        g.calleeIndex.insert e.site ((g.calleeIndex.getD e.site {}).insert e.callee)
      callerIndex :=
        g.callerIndex.insert e.callee ((g.callerIndex.getD e.callee {}).insert e.site) }) := by
  rw [Std.TreeSet.mem_iff_contains] at h
  simp [insertEdge, h]

theorem mem_edges_insertEdge [Std.TransOrd σ] [Std.TransOrd μ] [Std.LawfulEqOrd σ]
    [Std.LawfulEqOrd μ] : e' ∈ (g.insertEdge e).2.edges ↔ e' ∈ g.edges ∨ e' = e := by
  by_cases hc : e ∈ g.edges
  · rw [insertEdge_of_mem hc]
    exact ⟨Or.inl, fun h => h.elim id fun h => h ▸ hc⟩
  · rw [insertEdge_of_not_mem hc, Std.TreeSet.mem_insert, Std.LawfulEqOrd.compare_eq_iff_eq,
      or_comm, eq_comm]

theorem reachable_insertEdge : (g.insertEdge e).2.reachable = g.reachable := by
  by_cases hc : e ∈ g.edges
  · rw [insertEdge_of_mem hc]
  · rw [insertEdge_of_not_mem hc]

/-- Entries say nothing about what is reachable. -/
theorem insertEntry_eq : ∃ entries, g.insertEntry m = { g with entries } := by
  rw [insertEntry]
  split
  · exact ⟨g.entries, rfl⟩
  · exact ⟨g.entries.push m, rfl⟩

section Folds

variable {α : Type} (l : List α)

theorem foldl_insertEntry (f : α → μ) (g : CallGraph σ μ) :
    ∃ entries, l.foldl (fun g a => g.insertEntry (f a)) g = { g with entries } := by
  induction l generalizing g with
  | nil => exact ⟨g.entries, rfl⟩
  | cons a l ih =>
    obtain ⟨entries, h⟩ := insertEntry_eq (g := g) (m := f a)
    rw [List.foldl_cons, h]
    exact ih { g with entries }

variable [Std.TransOrd σ] [Std.TransOrd μ] [Std.LawfulEqOrd σ] [Std.LawfulEqOrd μ]

omit [Std.TransOrd σ] [Std.LawfulEqOrd σ] in
theorem foldl_insertMethod (f : α → μ) (sites : α → List σ) (hg : g.Consistent) :
    (l.foldl (fun g a => (g.insertMethod (f a) (sites a)).2) g).edges = g.edges ∧
      ∀ n, n ∈ (l.foldl (fun g a => (g.insertMethod (f a) (sites a)).2) g).reachable ↔
        n ∈ g.reachable ∨ ∃ a ∈ l, f a = n := by
  induction l generalizing g with
  | nil => exact ⟨rfl, by simp⟩
  | cons a l ih =>
    have hg' : (g.insertMethod (f a) (sites a)).2.Consistent := hg.insertMethod
    obtain ⟨hedges, hreach⟩ := ih hg'
    refine ⟨hedges.trans edges_insertMethod, fun n => ?_⟩
    rw [List.foldl_cons, hreach, mem_reachable_insertMethod hg]
    simp [or_assoc, eq_comm]

theorem foldl_insertEdge (f : α → Edge σ μ) (g : CallGraph σ μ) :
    (l.foldl (fun g a => (g.insertEdge (f a)).2) g).reachable = g.reachable ∧
      ∀ e, e ∈ (l.foldl (fun g a => (g.insertEdge (f a)).2) g).edges ↔
        e ∈ g.edges ∨ ∃ a ∈ l, f a = e := by
  induction l generalizing g with
  | nil => exact ⟨rfl, by simp⟩
  | cons a l ih =>
    obtain ⟨hreach, hedges⟩ := ih (g.insertEdge (f a)).2
    refine ⟨hreach.trans reachable_insertEdge, fun e => ?_⟩
    rw [List.foldl_cons, hedges, mem_edges_insertEdge]
    simp [or_assoc, eq_comm]

end Folds

end CallGraph

end PointsTo
