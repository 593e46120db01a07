import Mathlib.Data.List.DropRight
import PointsTo.Proofs.GraphFilter

namespace PointsTo.CallGraph

variable {σ μ : Type}

/-- What can be done to a call graph. -/
inductive Action (σ μ : Type) where
  | entry (m : μ)
  | method (m : μ) (sites : List σ)
  | edge (e : Edge σ μ)
  | filter (keep : μ → Bool)

namespace Action

/-- The call sites that an action offers for a method. -/
def given? [Ord μ] (m : μ) : Action σ μ → Option (List σ)
  | method n sites => if compare n m = .eq then some sites else none
  | _ => none

/-- A filter that leaves a method out. -/
def drops (m : μ) : Action σ μ → Bool
  | filter keep => !keep m
  | _ => false

end Action

variable [Ord σ] [Ord μ]

def act (g : CallGraph σ μ) : Action σ μ → CallGraph σ μ
  | .entry m => g.insertEntry m
  | .method m sites => (g.insertMethod m sites).2
  | .edge e => (g.insertEdge e).2
  | .filter keep => g.filter keep

/-- The graph that actions make of the empty one. -/
def run (actions : List (Action σ μ)) : CallGraph σ μ := actions.foldl act {}

omit [Ord σ] in
/-- The call sites that a method is inserted with for the first time. A filter makes a new graph, to
which a method that it leaves out is unknown: only what is done to this graph counts. -/
def firstSites? (actions : List (Action σ μ)) (m : μ) : Option (List σ) :=
  (actions.rtakeWhile fun a => !a.drops m).findSome? (·.given? m)

section History

variable {actions : List (Action σ μ)} {a : Action σ μ} {m : μ}

theorem run_concat : run (actions ++ [a]) = (run actions).act a := by
  rw [run, List.foldl_append]
  rfl

omit [Ord σ] in
theorem firstSites?_concat : firstSites? (actions ++ [a]) m =
    if a.drops m then none else (firstSites? actions m).or (a.given? m) := by
  rw [firstSites?, List.rtakeWhile_concat]
  by_cases ha : a.drops m
  · simp [ha]
  · simp [ha, List.findSome?_append, firstSites?]

variable [Std.TransOrd σ] [Std.TransOrd μ] [Std.LawfulEqOrd σ] [Std.LawfulEqOrd μ]

theorem Sound.act {g : CallGraph σ μ} (h : g.Sound) (a : Action σ μ) : (g.act a).Sound := by
  cases a with
  | entry m => exact h.insertEntry m
  | method m sites => exact h.insertMethod m sites
  | edge e => exact h.insertEdge e
  | filter keep => exact sound_filter g keep

theorem sound_run (actions : List (Action σ μ)) : (run actions).Sound := by
  apply List.foldlRecOn
  · exact sound_empty
  · intro g hg a _
    exact hg.act a

omit [Std.TransOrd σ] [Std.LawfulEqOrd σ] [Std.LawfulEqOrd μ] in
theorem Sound.getElem?_siteIndex {g : CallGraph σ μ} (h : g.Sound) (m : μ) :
    g.siteIndex[m]? = if g.contains m then some (g.sitesOf m) else none := by
  have hindexed : g.contains m ↔ g.siteIndex[m]?.isSome := by
    rw [h.consistent, ← h.indexed, Std.TreeMap.mem_iff_isSome_getElem?]
  simp only [hindexed, sitesOf, Std.TreeMap.getD_eq_getD_getElem?]
  cases g.siteIndex[m]? with
  | none => rfl
  | some sites => rfl

/-- What an action does to the call sites of a method: it drops them, or it sets them if there are
none. -/
theorem getElem?_siteIndex_act {g : CallGraph σ μ} (h : g.Sound) (a : Action σ μ) (m : μ) :
    (g.act a).siteIndex[m]? = if a.drops m then none else g.siteIndex[m]?.or (a.given? m) := by
  cases a with
  | entry n =>
    obtain ⟨entries, hentries⟩ := insertEntry_eq (g := g) (m := n)
    rw [CallGraph.act, hentries]
    exact (Option.or_none ..).symm
  | method n sites =>
    have hnot : (Action.method n sites).drops m = false := rfl
    rw [CallGraph.act, hnot, Action.given?]
    by_cases hn : g.contains n
    · rw [insertMethod_of_mem hn]
      by_cases hnm : compare n m = .eq
      · rw [← Std.LawfulEqOrd.eq_of_compare hnm, h.getElem?_siteIndex, if_pos hn]
        rfl
      · simp [hnm]
    · rw [insertMethod_of_not_mem hn, Std.TreeMap.getElem?_insert]
      by_cases hnm : compare n m = .eq
      · rw [← Std.LawfulEqOrd.eq_of_compare hnm, h.getElem?_siteIndex, if_neg hn]
        simp
      · simp [hnm]
  | edge e =>
    obtain ⟨edges, calleeIndex, callerIndex, he⟩ := insertEdge_eq g e
    rw [CallGraph.act, he]
    exact (Option.or_none ..).symm
  | filter keep =>
    have hcontains : (g.filter keep).contains m ↔ keep m ∧ g.contains m := by
      rw [(sound_filter g keep).consistent, h.consistent, ← Array.mem_toList_iff,
        h.reachable_filter, List.mem_filter, Array.mem_toList_iff, and_comm]
    rw [CallGraph.act, (sound_filter g keep).getElem?_siteIndex, h.sitesOf_filter,
      h.getElem?_siteIndex]
    simp only [hcontains, Action.drops, Action.given?]
    by_cases hk : keep m
    · simp [hk]
    · simp [hk]

theorem getElem?_siteIndex_run (actions : List (Action σ μ)) (m : μ) :
    (run actions).siteIndex[m]? = firstSites? actions m := by
  induction actions using List.reverseRecOn with
  | nil => simp [run, firstSites?]
  | append_singleton actions a ih =>
    rw [run_concat, getElem?_siteIndex_act (sound_run actions), firstSites?_concat, ih]

theorem mem_reachable_run_iff (actions : List (Action σ μ)) (m : μ) :
    m ∈ (run actions).reachable ↔ (firstSites? actions m).isSome := by
  rw [← (sound_run actions).indexed, Std.TreeMap.mem_iff_isSome_getElem?, getElem?_siteIndex_run]

theorem sitesOf_run (actions : List (Action σ μ)) (m : μ) :
    (run actions).sitesOf m = (firstSites? actions m).getD [] := by
  rw [sitesOf, Std.TreeMap.getD_eq_getD_getElem?, getElem?_siteIndex_run]

omit [Ord σ] [Std.TransOrd σ] [Std.TransOrd μ] [Std.LawfulEqOrd σ] [Std.LawfulEqOrd μ] in
/-- As long as no filter leaves a method out, its first insertion is the first one of all. -/
theorem firstSites?_of_not_dropped (h : ∀ a ∈ actions, a.drops m = false) :
    firstSites? actions m = actions.findSome? (·.given? m) := by
  have hall : (actions.rtakeWhile fun a => !a.drops m) = actions := by
    rw [List.rtakeWhile_eq_self_iff]
    intro a ha
    rw [h a ha]
    rfl
  rw [firstSites?, hall]

end History

section Results

variable [Std.TransOrd σ] [Std.TransOrd μ] [Std.LawfulEqOrd σ] [Std.LawfulEqOrd μ]

/-- The collections of a graph agree with each other and with the actions that have made it. -/
structure Reflects (g : CallGraph σ μ) (actions : List (Action σ μ)) : Prop where
  entries_nodup : g.entries.toList.Nodup
  reachable_nodup : g.reachable.toList.Nodup
  contains_iff (m : μ) : g.contains m ↔ m ∈ g.reachable
  callees_ordered (s : σ) : (g.callees s).Pairwise fun m n => compare m n = .lt
  mem_callees (s : σ) (m : μ) : m ∈ g.callees s ↔ ∃ k, ⟨k, s, m⟩ ∈ g.edgeList
  callers_ordered (m : μ) : (g.callers m).Pairwise fun s t => compare s t = .lt
  mem_callers (m : μ) (s : σ) : s ∈ g.callers m ↔ ∃ k, ⟨k, s, m⟩ ∈ g.edgeList
  mem_reachable (m : μ) : m ∈ g.reachable ↔ (firstSites? actions m).isSome
  sites (m : μ) : g.sitesOf m = (firstSites? actions m).getD []
  sites_of_not_dropped (m : μ) : (∀ a ∈ actions, a.drops m = false) →
    firstSites? actions m = actions.findSome? (·.given? m)
  mem_listing (s : σ) (m : μ) : m ∈ g.listing s ↔ m ∈ g.reachable ∧ s ∈ g.sitesOf m
  container (s : σ) : g.container? s = (g.listing s).getLast?
  container_none (s : σ) : g.container? s = none ↔ ∀ m ∈ g.reachable, s ∉ g.sitesOf m
  insertMethod_known (m : μ) (sites : List σ) :
    m ∈ g.reachable → g.insertMethod m sites = (false, g)
  insertMethod_new (m : μ) (sites : List σ) : m ∉ g.reachable →
    (g.insertMethod m sites).1 = true ∧
      (g.insertMethod m sites).2.reachable = g.reachable.push m
  insertEdge_known (e : Edge σ μ) : e ∈ g.edgeList → g.insertEdge e = (false, g)
  insertEdge_new (e : Edge σ μ) : e ∉ g.edgeList → (g.insertEdge e).1 = true ∧
    ∀ e', e' ∈ (g.insertEdge e).2.edgeList ↔ e' ∈ g.edgeList ∨ e' = e

/-- The collections of a call graph agree after any actions. -/
theorem collections_agree (actions : List (Action σ μ)) : (run actions).Reflects actions := by
  have h : (run actions).Sound := sound_run actions
  have hmem (e : Edge σ μ) : e ∈ (run actions).edgeList ↔ e ∈ (run actions).edges :=
    Std.TreeSet.mem_toList
  constructor
  case entries_nodup => exact h.entries
  case reachable_nodup => exact h.reachable
  case contains_iff => exact h.consistent
  case callees_ordered => exact fun s => Std.TreeSet.ordered_toList
  case mem_callees => simp only [hmem, h.callees, implies_true]
  case callers_ordered => exact fun m => Std.TreeSet.ordered_toList
  case mem_callers => simp only [hmem, h.callers, implies_true]
  case mem_reachable => exact mem_reachable_run_iff actions
  case sites => exact sitesOf_run actions
  case sites_of_not_dropped => exact fun m => firstSites?_of_not_dropped
  case mem_listing => exact fun s m => CallGraph.mem_listing
  case container => exact h.container
  case container_none =>
    intro s
    rw [← Option.not_isSome_iff_eq_none, h.isSome_container?_iff]
    simp only [not_exists, not_and]
  case insertMethod_known =>
    intro m sites hm
    exact insertMethod_of_mem ((h.consistent m).mpr hm)
  case insertMethod_new =>
    intro m sites hm
    rw [insertMethod_of_not_mem (mt (h.consistent m).mp hm)]
    exact ⟨rfl, rfl⟩
  case insertEdge_known =>
    intro e he
    exact insertEdge_of_mem ((hmem e).mp he)
  case insertEdge_new =>
    intro e he
    refine ⟨by rw [insertEdge_of_not_mem (mt (hmem e).mpr he)], fun e' => ?_⟩
    rw [hmem, edgeList, Std.TreeSet.mem_toList, mem_edges_insertEdge]

/-- An edge that comes before its callee and twice under different kinds, call sites that several
methods list, and a method that is dropped and inserted again. -/
def refilled : List (Action Nat Nat) :=
  [.entry 0, .entry 7, .edge ⟨.virtual, 1, 5⟩, .method 0 [1, 2], .method 5 [2, 3],
    .edge ⟨.static, 1, 5⟩, .method 7 [1], .filter (· ≠ 0), .method 0 [3, 4], .method 5 [6]]

theorem collections_agree_refilled :
    let g := run refilled
    (g.entries.toList = [7] ∧ g.entries.toList.Nodup) ∧ g.contains 0 ∧ ¬g.contains 8 ∧
      g.sitesOf 0 = [3, 4] ∧ g.sitesOf 5 = [2, 3] ∧ g.container? 3 = some 0 ∧
      g.container? 6 = none ∧ 5 ∈ g.callees 1 ∧ 1 ∈ g.callers 5 ∧
      g.insertMethod 0 [8] = (false, g) ∧ g.insertEdge ⟨.static, 1, 5⟩ = (false, g) := by
  intro g
  have h := collections_agree refilled
  have heval : g.entries.toList = [7] ∧ g.listing 3 = [5, 0] ∧ g.listing 6 = [] ∧
      ⟨.static, 1, 5⟩ ∈ g.edgeList ∧ 0 ∈ g.reachable ∧ 8 ∉ g.reachable := by
    decide +kernel
  obtain ⟨hentries, hlisting, hnone, he, hm, hn⟩ := heval
  refine ⟨⟨hentries, h.entries_nodup⟩, (h.contains_iff 0).mpr hm, mt (h.contains_iff 8).mp hn,
    ?_, ?_, ?_, ?_, (h.mem_callees 1 5).mpr ⟨.static, he⟩, (h.mem_callers 5 1).mpr ⟨.static, he⟩,
    h.insertMethod_known 0 [8] hm, h.insertEdge_known _ he⟩
  · rw [h.sites]
    decide
  · rw [h.sites, h.sites_of_not_dropped 5 (by decide)]
    decide
  · rw [h.container, hlisting]
    rfl
  · rw [h.container, hnone]
    rfl

/-- A method that is left out and found again does not have the call sites of its first insertion,
but those of the second. -/
theorem sitesOf_found_again :
    let actions : List (Action Nat Nat) :=
      [.method 0 [1, 2], .filter (· ≠ 0), .method 0 [3, 4]]
    actions.findSome? (·.given? 0) = some [1, 2] ∧ 0 ∈ (run actions).reachable ∧
      (run actions).sitesOf 0 = [3, 4] := by
  decide +kernel

/-- A filter keeps exactly the entries and methods that satisfy it, in order and with their call
sites, and the edges between them. Two filters are one for both conditions. -/
theorem filter_exact (actions : List (Action σ μ)) (p q : μ → Bool) :
    let g := run actions
    (g.filter p).entries.toList = g.entries.toList.filter p ∧
    (g.filter p).reachable.toList = g.reachable.toList.filter p ∧
    (∀ m, (g.filter p).sitesOf m = if p m then g.sitesOf m else []) ∧
    (∀ e, e ∈ (g.filter p).edgeList ↔ e ∈ g.edgeList ∧ (e.callee ∈ g.reachable ∧ p e.callee) ∧
      ∃ m ∈ g.reachable, p m ∧ e.site ∈ g.sitesOf m) ∧
    (g.filter p).filter q = g.filter (fun m => p m && q m) ∧
    (g.filter p).filter p = g.filter p ∧
    (g.filter p).filter q = (g.filter q).filter p := by
  intro g
  have h : g.Sound := sound_run actions
  refine ⟨h.entries_filter p, h.reachable_filter p, h.sitesOf_filter p, fun e => ?_,
    h.filter_filter p q, ?_, ?_⟩
  · rw [h.edgeList_filter, List.mem_filter, h.admits_skeleton_iff]
  · rw [h.filter_filter]
    simp only [Bool.and_self]
  · rw [h.filter_filter, h.filter_filter]
    simp only [Bool.and_comm]

theorem filter_exact_refilled :
    let g := run refilled
    (g.filter (· ≠ 5)).entries.toList = [7] ∧ (g.filter (· ≠ 7)).entries.toList = [] ∧
      (g.filter (· ≠ 5)).reachable.toList = [7, 0] ∧
      (g.filter (· ≠ 5)).sitesOf 0 = g.sitesOf 0 ∧
      ⟨.virtual, 1, 5⟩ ∈ (g.filter (· ≠ 0)).edgeList ∧
      (g.filter (· ≠ 5)).filter (· ≠ 7) = (g.filter (· ≠ 7)).filter (· ≠ 5) := by
  intro g
  obtain ⟨hentries, hreach, hsites, -, -, -, hcomm⟩ := filter_exact refilled (· ≠ 5) (· ≠ 7)
  have hdropped := (filter_exact refilled (· ≠ 7) (· ≠ 5)).1
  obtain ⟨-, -, -, hedges, -⟩ := filter_exact refilled (· ≠ 0) (· ≠ 0)
  have heval : g.entries.toList = [7] ∧ g.reachable.toList.filter (· ≠ 5) = [7, 0] ∧
      ⟨.virtual, 1, 5⟩ ∈ g.edgeList ∧ 5 ∈ g.reachable ∧ 7 ∈ g.reachable ∧ 1 ∈ g.sitesOf 7 := by
    decide +kernel
  obtain ⟨hleft, hkept, he, hcallee, hcaller, hs⟩ := heval
  refine ⟨?_, ?_, hreach.trans hkept, hsites 0,
    (hedges _).mpr ⟨he, ⟨hcallee, rfl⟩, 7, hcaller, rfl, hs⟩, hcomm⟩
  · rw [hentries, hleft]
    rfl
  · rw [hdropped, hleft]
    rfl

end Results

end PointsTo.CallGraph
