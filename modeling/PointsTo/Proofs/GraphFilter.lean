import Mathlib.Data.List.Sort
import PointsTo.Proofs.GraphUpkeep

namespace PointsTo.CallGraph

variable {σ μ : Type} [Ord σ] [Ord μ] {g : CallGraph σ μ} {m : μ} {s : σ} {e : Edge σ μ}
  {keep : μ → Bool}

/-- The kept entries and methods, before any edge is added. -/
def skeleton (g : CallGraph σ μ) (keep : μ → Bool) : CallGraph σ μ :=
  (g.reachable.toList.filter keep).foldl (fun kept m => (kept.insertMethod m (g.sitesOf m)).2)
    ((g.entries.toList.filter keep).foldl insertEntry {})

/-- The callee of an edge is reachable, and its call site is in the body of a reachable method. -/
def admits (g : CallGraph σ μ) (e : Edge σ μ) : Bool :=
  g.contains e.callee && g.containers.contains e.site

section Edges

/-- Edges leave the entries, the methods and the call sites alone. -/
theorem foldl_insertEdge_eq (l : List (Edge σ μ)) (g : CallGraph σ μ) :
    ∃ edges calleeIndex callerIndex, l.foldl (fun g e => (g.insertEdge e).2) g =
      { g with edges, calleeIndex, callerIndex } := by
  induction l generalizing g with
  | nil => exact ⟨g.edges, g.calleeIndex, g.callerIndex, rfl⟩
  | cons e l ih =>
    obtain ⟨edges, calleeIndex, callerIndex, he⟩ := insertEdge_eq g e
    rw [List.foldl_cons, he]
    exact ih _

theorem admits_insertEdge (g : CallGraph σ μ) (e : Edge σ μ) :
    (g.insertEdge e).2.admits = g.admits := by
  obtain ⟨edges, calleeIndex, callerIndex, he⟩ := insertEdge_eq g e
  rw [he]
  rfl

/-- What decides about an edge is not changed by the edges before it. -/
theorem foldl_admitted (l : List (Edge σ μ)) (g : CallGraph σ μ) :
    l.foldl (fun g e => if g.admits e then (g.insertEdge e).2 else g) g =
      (l.filter g.admits).foldl (fun g e => (g.insertEdge e).2) g := by
  induction l generalizing g with
  | nil => rfl
  | cons e l ih =>
    rw [List.foldl_cons, ih]
    by_cases he : g.admits e
    · rw [if_pos he, List.filter_cons_of_pos he, List.foldl_cons, admits_insertEdge]
    · rw [if_neg he, List.filter_cons_of_neg he]

theorem filter_eq_foldl (g : CallGraph σ μ) (keep : μ → Bool) :
    g.filter keep = (g.edgeList.filter (g.skeleton keep).admits).foldl
      (fun g e => (g.insertEdge e).2) (g.skeleton keep) :=
  foldl_admitted g.edgeList (g.skeleton keep)

/-- The entries, the methods and the call sites of a filtered graph are those of its skeleton. -/
theorem filter_eq_skeleton (g : CallGraph σ μ) (keep : μ → Bool) :
    ∃ edges calleeIndex callerIndex,
      g.filter keep = { g.skeleton keep with edges, calleeIndex, callerIndex } := by
  rw [filter_eq_foldl]
  exact foldl_insertEdge_eq _ _

end Edges

section Methods

/-- Methods leave the entries and the edges alone. -/
theorem foldl_insertMethod_eq (l : List μ) (sites : μ → List σ) (g : CallGraph σ μ) :
    ∃ reachable reachableSet siteIndex containers,
      l.foldl (fun g m => (g.insertMethod m (sites m)).2) g =
        { g with reachable, reachableSet, siteIndex, containers } := by
  induction l generalizing g with
  | nil => exact ⟨g.reachable, g.reachableSet, g.siteIndex, g.containers, rfl⟩
  | cons m l ih =>
    rw [List.foldl_cons]
    by_cases hm : g.contains m
    · rw [insertMethod_of_mem hm]
      exact ih g
    · rw [insertMethod_of_not_mem hm]
      exact ih _

variable [Std.LawfulEqOrd μ]

theorem foldl_insertEntry_of_nodup (l : List μ) (h : (g.entries.toList ++ l).Nodup) :
    l.foldl insertEntry g = { g with entries := g.entries ++ l.toArray } := by
  induction l generalizing g with
  | nil => simp
  | cons m l ih =>
    have hm : m ∉ g.entries := by
      intro hm
      exact (List.nodup_append.mp h).2.2 m (Array.mem_toList_iff.mpr hm) m List.mem_cons_self rfl
    rw [List.foldl_cons, insertEntry_of_not_mem hm, ih (by simpa using h)]
    simp

/-- Entries are collected first, and only methods are added to them. -/
theorem Sound.skeleton_eq (h : g.Sound) (keep : μ → Bool) :
    ∃ reachable reachableSet siteIndex containers,
      g.skeleton keep = { entries := (g.entries.toList.filter keep).toArray
                          reachable, reachableSet, siteIndex, containers } := by
  have hentries : (g.entries.toList.filter keep).foldl CallGraph.insertEntry ({} : CallGraph σ μ) =
      { entries := (g.entries.toList.filter keep).toArray } := by
    rw [foldl_insertEntry_of_nodup _ (by simpa using h.entries.filter keep)]
    simp
  rw [skeleton, hentries]
  exact foldl_insertMethod_eq _ _ _

theorem Sound.entries_filter (h : g.Sound) (keep : μ → Bool) :
    (g.filter keep).entries.toList = g.entries.toList.filter keep := by
  obtain ⟨_, _, _, hfilter⟩ := filter_eq_skeleton g keep
  obtain ⟨_, _, _, _, hskeleton⟩ := h.skeleton_eq keep
  rw [hfilter, hskeleton]

variable [Std.TransOrd μ]

/-- Methods that are all new are found in the order of the list. -/
theorem reachable_foldl_of_nodup (l : List μ) (sites : μ → List σ) (hg : g.Consistent)
    (h : (g.reachable.toList ++ l).Nodup) :
    (l.foldl (fun g m => (g.insertMethod m (sites m)).2) g).reachable.toList =
      g.reachable.toList ++ l := by
  induction l generalizing g with
  | nil => simp
  | cons m l ih =>
    have hm : ¬g.contains m := by
      intro hm
      have hmem := Array.mem_toList_iff.mpr ((hg m).mp hm)
      exact (List.nodup_append.mp h).2.2 m hmem m List.mem_cons_self rfl
    have hreach : (g.insertMethod m (sites m)).2.reachable.toList = g.reachable.toList ++ [m] := by
      rw [insertMethod_of_not_mem hm, Array.toList_push]
    rw [List.foldl_cons, ih hg.insertMethod (by simpa [hreach] using h), hreach]
    simp

/-- Methods that are inserted with the call sites that `sites` gives them have these. -/
theorem sitesOf_foldl_insertMethod {α : Type} (l : List α) (f : α → μ) (sites : μ → List σ)
    (hg : g.Consistent) (h : ∀ n ∈ g.reachable, g.sitesOf n = sites n) :
    ∀ n ∈ (l.foldl (fun g a => (g.insertMethod (f a) (sites (f a))).2) g).reachable,
      (l.foldl (fun g a => (g.insertMethod (f a) (sites (f a))).2) g).sitesOf n = sites n := by
  induction l generalizing g with
  | nil => exact h
  | cons a l ih =>
    apply ih hg.insertMethod
    intro n hn
    by_cases ha : g.contains (f a)
    · rw [insertMethod_of_mem ha] at hn ⊢
      exact h n hn
    · rw [sitesOf_insertMethod ha]
      split
      · next heq => rw [Std.LawfulEqOrd.eq_of_compare heq]
      · next hne =>
        apply h
        rcases (mem_reachable_insertMethod hg).mp hn with hn | rfl
        · exact hn
        · exact (hne Std.ReflCmp.compare_self).elim

theorem Sound.reachable_skeleton (h : g.Sound) (keep : μ → Bool) :
    (g.skeleton keep).reachable.toList = g.reachable.toList.filter keep := by
  obtain ⟨entries, hentries⟩ := foldl_insertEntry (g.entries.toList.filter keep)
    (fun m : μ => m) ({} : CallGraph σ μ)
  rw [skeleton, hentries, reachable_foldl_of_nodup]
  · rfl
  · exact consistent_entries entries
  · exact h.reachable.filter keep

theorem Sound.mem_reachable_skeleton (h : g.Sound) :
    m ∈ (g.skeleton keep).reachable ↔ m ∈ g.reachable ∧ keep m := by
  rw [← Array.mem_toList_iff, h.reachable_skeleton, List.mem_filter, Array.mem_toList_iff]

theorem Sound.reachable_filter (h : g.Sound) (keep : μ → Bool) :
    (g.filter keep).reachable.toList = g.reachable.toList.filter keep := by
  obtain ⟨_, _, _, hfilter⟩ := filter_eq_skeleton g keep
  rw [hfilter]
  exact h.reachable_skeleton keep

end Methods

section Skeleton

variable [Std.TransOrd σ] [Std.TransOrd μ] [Std.LawfulEqOrd σ] [Std.LawfulEqOrd μ]

theorem sound_skeleton (g : CallGraph σ μ) (keep : μ → Bool) : (g.skeleton keep).Sound := by
  apply List.foldlRecOn
  · apply List.foldlRecOn
    · exact sound_empty
    · intro kept hkept m _
      exact hkept.insertEntry m
  · intro kept hkept m _
    exact hkept.insertMethod m _

theorem sound_filter (g : CallGraph σ μ) (keep : μ → Bool) : (g.filter keep).Sound := by
  rw [filter_eq_foldl]
  apply List.foldlRecOn
  · exact sound_skeleton g keep
  · intro kept hkept e _
    exact hkept.insertEdge e

theorem Sound.sitesOf_skeleton (h : g.Sound) (keep : μ → Bool) (m : μ) :
    (g.skeleton keep).sitesOf m = if keep m then g.sitesOf m else [] := by
  by_cases hm : m ∈ (g.skeleton keep).reachable
  · rw [if_pos (h.mem_reachable_skeleton.mp hm).2]
    obtain ⟨entries, hentries⟩ := foldl_insertEntry (g.entries.toList.filter keep)
      (fun m : μ => m) ({} : CallGraph σ μ)
    rw [skeleton, hentries] at hm ⊢
    apply sitesOf_foldl_insertMethod _ (fun m : μ => m) g.sitesOf _ _ m hm
    · exact consistent_entries entries
    · exact fun n hn => (Array.not_mem_empty n hn).elim
  · rw [(sound_skeleton g keep).sitesOf_of_not_mem hm]
    split
    · next hk =>
      have hg : m ∉ g.reachable := fun hg => hm (h.mem_reachable_skeleton.mpr ⟨hg, hk⟩)
      rw [h.sitesOf_of_not_mem hg]
    · rfl

omit [Std.TransOrd μ] [Std.LawfulEqOrd μ] in
theorem Sound.admits_iff (h : g.Sound) :
    g.admits e ↔ e.callee ∈ g.reachable ∧ ∃ m ∈ g.reachable, e.site ∈ g.sitesOf m := by
  rw [admits, Bool.and_eq_true, h.consistent, Std.TreeMap.contains_eq_isSome_getElem?]
  exact and_congr_right fun _ => h.isSome_container?_iff

/-- An edge fits the kept methods if its callee is one of them, and one of them has its call site.
-/
theorem Sound.admits_skeleton_iff (h : g.Sound) :
    (g.skeleton keep).admits e ↔ (e.callee ∈ g.reachable ∧ keep e.callee) ∧
      ∃ m ∈ g.reachable, keep m ∧ e.site ∈ g.sitesOf m := by
  rw [(sound_skeleton g keep).admits_iff, h.mem_reachable_skeleton]
  apply and_congr_right
  intro _
  constructor
  · rintro ⟨m, hm, hs⟩
    obtain ⟨hreach, hk⟩ := h.mem_reachable_skeleton.mp hm
    rw [h.sitesOf_skeleton, if_pos hk] at hs
    exact ⟨m, hreach, hk, hs⟩
  · rintro ⟨m, hreach, hk, hs⟩
    refine ⟨m, h.mem_reachable_skeleton.mpr ⟨hreach, hk⟩, ?_⟩
    rw [h.sitesOf_skeleton, if_pos hk]
    exact hs

end Skeleton

section Filter

variable [Std.TransOrd σ] [Std.TransOrd μ] [Std.LawfulEqOrd σ] [Std.LawfulEqOrd μ]

theorem Sound.sitesOf_filter (h : g.Sound) (keep : μ → Bool) (m : μ) :
    (g.filter keep).sitesOf m = if keep m then g.sitesOf m else [] := by
  obtain ⟨_, _, _, hfilter⟩ := filter_eq_skeleton g keep
  rw [hfilter]
  exact h.sitesOf_skeleton keep m

theorem Sound.mem_edges_filter (h : g.Sound) (keep : μ → Bool) (e : Edge σ μ) :
    e ∈ (g.filter keep).edges ↔ e ∈ g.edges ∧ (g.skeleton keep).admits e := by
  obtain ⟨_, _, _, _, hskeleton⟩ := h.skeleton_eq keep
  have hedges := (foldl_insertEdge (g.edgeList.filter (g.skeleton keep).admits) (fun e => e)
    (g.skeleton keep)).2 e
  have hempty : e ∉ (g.skeleton keep).edges := by
    rw [hskeleton]
    exact Std.TreeSet.not_mem_emptyc
  rw [filter_eq_foldl, hedges]
  simp [hempty, edgeList]

/-- Lists in increasing order are equal if they have the same members. -/
theorem eq_of_ordered {α : Type} [Ord α] [Std.TransOrd α] {l l' : List α}
    (hl : l.Pairwise fun a b => compare a b = .lt) (hl' : l'.Pairwise fun a b => compare a b = .lt)
    (h : ∀ a, a ∈ l ↔ a ∈ l') : l = l' := by
  have hirrefl : Std.Irrefl fun a b : α => compare a b = .lt := by
    constructor
    intro a ha
    cases (Std.ReflOrd.compare_self (a := a)).symm.trans ha
  have hantisymm : Std.Antisymm fun a b : α => compare a b = .lt := by
    constructor
    intro a b hab hba
    exact (Std.OrientedCmp.not_lt_of_lt hab hba).elim
  exact hl.eq_of_mem_iff hl' h

theorem Sound.edgeList_filter (h : g.Sound) (keep : μ → Bool) :
    (g.filter keep).edgeList = g.edgeList.filter (g.skeleton keep).admits := by
  apply eq_of_ordered
  · exact Std.TreeSet.ordered_toList
  · exact Std.TreeSet.ordered_toList.filter _
  · intro e
    rw [edgeList, Std.TreeSet.mem_toList, h.mem_edges_filter, List.mem_filter, edgeList,
      Std.TreeSet.mem_toList]

theorem Sound.skeleton_filter (h : g.Sound) (p q : μ → Bool) :
    (g.filter p).skeleton q = g.skeleton fun m => p m && q m := by
  have hand : (fun m => q m && p m) = fun m => p m && q m := by
    funext m
    exact Bool.and_comm _ _
  rw [skeleton, h.entries_filter, h.reachable_filter, List.filter_filter, List.filter_filter, hand,
    skeleton]
  apply List.foldl_ext
  intro kept m hm
  have hp : p m := (Bool.and_eq_true_iff.mp (List.mem_filter.mp hm).2).1
  rw [h.sitesOf_filter, if_pos hp]

/-- Filtering twice is filtering once, for both. -/
theorem Sound.filter_filter (h : g.Sound) (p q : μ → Bool) :
    (g.filter p).filter q = g.filter fun m => p m && q m := by
  have hedges : (g.filter p).edgeList.filter (g.skeleton fun m => p m && q m).admits =
      g.edgeList.filter (g.skeleton fun m => p m && q m).admits := by
    rw [h.edgeList_filter, List.filter_filter]
    apply List.filter_congr
    intro e _
    have himp : (g.skeleton fun m => p m && q m).admits e → (g.skeleton p).admits e := by
      simp only [h.admits_skeleton_iff, Bool.and_eq_true]
      rintro ⟨⟨hcallee, hp, -⟩, m, hm, ⟨hpm, -⟩, hs⟩
      exact ⟨⟨hcallee, hp⟩, m, hm, hpm, hs⟩
    rw [Bool.and_eq_left_iff_imp]
    exact himp
  rw [filter_eq_foldl, h.skeleton_filter, hedges, ← filter_eq_foldl]

end Filter

end PointsTo.CallGraph
