import Mathlib.Data.List.Perm.Subperm
import Mathlib.Order.WellFounded
import PointsTo.Dispatch
import PointsTo.Proofs.WellFormed

namespace PointsTo

theorem Table.length_le_size {κ : Entity} {α : Type} {t : Table κ α} {l : List (Id κ)}
    (hl : l.Nodup) (h : ∀ i ∈ l, t.Holds i) : l.length ≤ t.size := by
  have hinj : Function.Injective (Id.index (κ := κ)) := fun _ _ => Id.ext
  have hsub : l.map Id.index ⊆ List.range t.size := by
    intro n hn
    obtain ⟨i, hi, rfl⟩ := List.mem_map.mp hn
    exact List.mem_range.mpr (h i hi)
  simpa using (hl.map hinj).length_le_of_subset hsub

section Search

variable {α : Type} {next : α → List α} {nodes queue seen : List α}

theorem nodup_eraseDups [DecidableEq α] (l : List α) : l.eraseDups.Nodup := by
  induction hn : l.length using Nat.strong_induction_on generalizing l with
  | _ n ih =>
    cases l with
    | nil => simp
    | cons a l =>
      rw [List.eraseDups_cons, List.nodup_cons, List.mem_eraseDups]
      refine ⟨by simp, ih _ ?_ _ rfl⟩
      have hle := List.length_filter_le (fun b => !b == a) l
      rw [List.length_cons] at hn
      omega

/-- A search that knows all its nodes has fuel enough if it can expand what is in the queue and all
nodes that it has not seen. -/
structure Provided (nodes queue seen : List α) (fuel : Nat) : Prop where
  nodup : seen.Nodup
  subset : seen ⊆ nodes
  fuel : queue.length + nodes.length ≤ fuel + seen.length

namespace Provided

theorem root (nodes : List α) (root : α) {fuel : Nat} (hfuel : nodes.length + 1 ≤ fuel) :
    Provided (root :: nodes) [root] [root] fuel where
  nodup := List.nodup_singleton root
  subset := by simp
  fuel := by
    simp only [List.length_cons, List.length_nil]
    omega

/-- Without fuel all nodes are seen, so that nothing is left in the queue. -/
theorem queue_eq_nil (h : Provided nodes queue seen 0) : queue = [] := by
  have hlen := h.nodup.length_le_of_subset h.subset
  have hfuel := h.fuel
  exact List.eq_nil_of_length_eq_zero (by omega)

theorem expand [DecidableEq α] {x : α} {fuel : Nat} (hnext : ∀ x y, y ∈ next x → y ∈ nodes)
    (h : Provided nodes (x :: queue) seen (fuel + 1)) :
    Provided nodes (queue ++ (next x).eraseDups.filter (· ∉ seen))
      (seen ++ (next x).eraseDups.filter (· ∉ seen)) fuel := by
  refine ⟨?_, ?_, ?_⟩
  · refine List.nodup_append.mpr ⟨h.nodup, (nodup_eraseDups _).filter _, fun a ha b hb hab => ?_⟩
    subst hab
    simp [ha] at hb
  · refine List.append_subset.mpr ⟨h.subset, fun y hy => ?_⟩
    exact hnext x y (List.mem_eraseDups.mp (List.mem_of_mem_filter hy))
  · have hfuel := h.fuel
    simp only [List.length_append, List.length_cons] at hfuel ⊢
    omega

end Provided

variable [DecidableEq α]

theorem searchFrom_add (hnext : ∀ x y, y ∈ next x → y ∈ nodes) {fuel : Nat}
    (h : Provided nodes queue seen fuel) (extra : Nat) :
    searchFrom next (fuel + extra) queue seen = searchFrom next fuel queue seen := by
  induction fuel generalizing queue seen with
  | zero =>
    rw [h.queue_eq_nil]
    cases extra <;> simp [searchFrom]
  | succ fuel ih =>
    cases queue with
    | nil => simp [searchFrom]
    | cons x queue =>
      rw [Nat.succ_add, searchFrom, searchFrom]
      exact ih (h.expand hnext)

theorem breadthFirst_eq (hnext : ∀ x y, y ∈ next x → y ∈ nodes) (root : α) {fuel fuel' : Nat}
    (hfuel : nodes.length + 1 ≤ fuel) (hle : fuel ≤ fuel') :
    breadthFirst next fuel' root = breadthFirst next fuel root := by
  obtain ⟨extra, rfl⟩ := Nat.exists_eq_add_of_le hle
  have hnext' (x y : α) (hy : y ∈ next x) : y ∈ root :: nodes := .tail _ (hnext x y hy)
  exact searchFrom_add hnext' (.root nodes root hfuel) extra

end Search

namespace Program

variable {p : Program} {c d : ClassId}

/-- Every superclass chain ends. -/
def FiniteChains (p : Program) : Prop :=
  WellFounded fun sup sub => (p.classDecl sub).superclass = some sup

/-- Chains end if some number gets smaller from each class to its superclass. -/
theorem finiteChains_of_lt (rank : ClassId → Nat)
    (h : ∀ c, p.classes.Holds c → ∀ sup ∈ (p.classDecl c).superclass, rank sup < rank c) :
    p.FiniteChains := by
  refine Subrelation.wf (fun {sup c} hs => ?_) (measure rank).wf
  by_cases hc : p.classes.Holds c
  · exact h c hc sup hs
  · rw [classDecl, Table.get_of_not_holds hc] at hs
    cases hs

theorem finiteChains_of_ranks (ranks : List Nat)
    (h : ∀ i < p.classes.size, ∀ sup ∈ (p.classDecl ⟨i⟩).superclass,
      ranks.getD sup.index 0 < ranks.getD i 0) : p.FiniteChains :=
  finiteChains_of_lt (fun c => ranks.getD c.index 0) fun c hc => h c.index hc

theorem superclassesWithin_none (fuel : Nat) : p.superclassesWithin fuel none = [] := by
  cases fuel <;> rfl

/-- A bounded walk is the beginning of a longer one. -/
theorem superclassesWithin_eq_take (fuel extra : Nat) (c? : Option ClassId) :
    p.superclassesWithin fuel c? = (p.superclassesWithin (fuel + extra) c?).take fuel := by
  induction fuel generalizing c? with
  | zero => simp [superclassesWithin]
  | succ fuel ih =>
    cases c? with
    | none => simp [superclassesWithin_none]
    | some c => simp only [Nat.succ_add, superclassesWithin, List.take_succ_cons, ih _]

/-- A walk goes from superclass to superclass. -/
theorem above_of_mem_superclassesWithin {fuel : Nat} (h : d ∈ p.superclassesWithin fuel (some c)) :
    Relation.ReflTransGen (fun sup sub => (p.classDecl sub).superclass = some sup) d c := by
  induction fuel generalizing c with
  | zero => cases h
  | succ fuel ih =>
    rw [superclassesWithin, List.mem_cons] at h
    rcases h with rfl | h
    · exact .refl
    · cases hs : (p.classDecl c).superclass with
      | none => simp [hs, superclassesWithin_none] at h
      | some sup => exact (ih (hs ▸ h)).tail hs

/-- No class is met twice on a chain that ends. -/
theorem nodup_superclassesWithin (hp : p.FiniteChains) (fuel : Nat) (c? : Option ClassId) :
    (p.superclassesWithin fuel c?).Nodup := by
  induction fuel generalizing c? with
  | zero => simp [superclassesWithin]
  | succ fuel ih =>
    cases c? with
    | none => simp [superclassesWithin_none]
    | some c =>
      rw [superclassesWithin, List.nodup_cons]
      refine ⟨fun hc => ?_, ih _⟩
      cases hs : (p.classDecl c).superclass with
      | none => simp [hs, superclassesWithin_none] at hc
      | some sup =>
        have habove := above_of_mem_superclassesWithin (hs ▸ hc)
        exact hp.transGen.irrefl.irrefl c (.tail' habove hs)

theorem WellFormed.holds_of_mem_superclassesWithin (h : p.WellFormed) (hc : p.classes.Holds c)
    {fuel : Nat} (hd : d ∈ p.superclassesWithin fuel (some c)) : p.classes.Holds d := by
  have habove := above_of_mem_superclassesWithin hd
  induction habove using Relation.ReflTransGen.head_induction_on with
  | refl => exact hc
  | head hs _ _ => exact h.superclass hs

/-- A walk can be cut where it comes to a class for the first time. -/
theorem exists_split_superclassesWithin {fuel : Nat} {c? : Option ClassId}
    (h : d ∈ p.superclassesWithin fuel c?) :
    ∃ i j, p.superclassesWithin fuel c? =
      p.superclassesWithin i c? ++ p.superclassesWithin j (some d) ∧
        d ∉ p.superclassesWithin i c? := by
  induction fuel generalizing c? with
  | zero => cases h
  | succ fuel ih =>
    cases c? with
    | none => cases h
    | some c =>
      by_cases hd : d = c
      · subst hd
        exact ⟨0, fuel + 1, rfl, nofun⟩
      · rw [superclassesWithin, List.mem_cons] at h
        obtain ⟨i, j, heq, hnot⟩ := ih (h.resolve_left hd)
        refine ⟨i + 1, j, ?_, ?_⟩
        · rw [superclassesWithin, superclassesWithin, heq, List.cons_append]
        · rw [superclassesWithin, List.mem_cons]
          exact not_or.mpr ⟨hd, hnot⟩

/-- A class that a walk comes to is one that a walk without repetitions comes to. -/
theorem exists_nodup_superclassesWithin {fuel : Nat} (h : d ∈ p.superclassesWithin fuel (some c)) :
    ∃ n, (p.superclassesWithin n (some c)).Nodup ∧ d ∈ p.superclassesWithin n (some c) := by
  induction fuel generalizing c with
  | zero => cases h
  | succ fuel ih =>
    rw [superclassesWithin, List.mem_cons] at h
    by_cases hd : d = c
    · subst hd
      exact ⟨1, by simp [superclassesWithin], List.mem_cons_self⟩
    cases hs : (p.classDecl c).superclass with
    | none => simp [hd, hs, superclassesWithin_none] at h
    | some sup =>
      obtain ⟨n, hnodup, hmem⟩ := ih (hs ▸ h.resolve_left hd)
      have hcons (i : Nat) : p.superclassesWithin (i + 1) (some c) =
          c :: p.superclassesWithin i (some sup) := by
        rw [superclassesWithin, hs]
      by_cases hc : c ∈ p.superclassesWithin n (some sup)
      · -- the walk comes back to its beginning: before that or after it comes to `d`
        obtain ⟨i, j, heq, hnot⟩ := exists_split_superclassesWithin hc
        rw [heq, List.nodup_append] at hnodup
        rw [heq, List.mem_append] at hmem
        rcases hmem with hmem | hmem
        · refine ⟨i + 1, ?_, ?_⟩ <;> rw [hcons]
          · exact List.nodup_cons.mpr ⟨hnot, hnodup.1⟩
          · exact List.mem_cons_of_mem c hmem
        · exact ⟨j, hnodup.2.1, hmem⟩
      · refine ⟨n + 1, ?_, ?_⟩ <;> rw [hcons]
        · exact List.nodup_cons.mpr ⟨hc, hnodup⟩
        · exact List.mem_cons_of_mem c hmem

/-- Also where it runs in a circle, a walk of the length of the chain comes to every class. -/
theorem WellFormed.mem_superclassChain (h : p.WellFormed) (hc : p.classes.Holds c) {fuel : Nat}
    (hd : d ∈ p.superclassesWithin fuel (some c)) : d ∈ p.superclassChain c := by
  obtain ⟨n, hnodup, hmem⟩ := exists_nodup_superclassesWithin hd
  have hlen : (p.superclassesWithin n (some c)).length ≤ p.classes.size :=
    Table.length_le_size hnodup fun _ he => h.holds_of_mem_superclassesWithin hc he
  have hshort : p.superclassesWithin n (some c) =
      (p.superclassesWithin (n + p.classes.size) (some c)).take n :=
    superclassesWithin_eq_take n p.classes.size _
  have hchain : p.superclassChain c =
      (p.superclassesWithin (p.classes.size + n) (some c)).take p.classes.size :=
    superclassesWithin_eq_take p.classes.size n _
  rw [hshort] at hmem hlen
  rw [hchain, Nat.add_comm]
  rw [List.length_take] at hlen
  by_cases hn : n ≤ p.classes.size
  · exact (List.take_sublist_take_left hn).subset hmem
  · have hall : (p.superclassesWithin (n + p.classes.size) (some c)).length ≤ p.classes.size := by
      omega
    rw [List.take_of_length_le hall]
    exact List.mem_of_mem_take hmem

/-- What is looked for on the way up is found on the chain or not at all. -/
theorem WellFormed.findSome?_superclassesWithin (h : p.WellFormed) (hc : p.classes.Holds c)
    {fuel : Nat} (hfuel : p.classes.size ≤ fuel) {α : Type} (f : ClassId → Option α) :
    (p.superclassesWithin fuel (some c)).findSome? f = (p.superclassChain c).findSome? f := by
  obtain ⟨extra, rfl⟩ := Nat.exists_eq_add_of_le hfuel
  have hchain := superclassesWithin_eq_take (p := p) p.classes.size extra (some c)
  rw [← List.take_append_drop p.classes.size (p.superclassesWithin _ (some c)), ← hchain,
    List.findSome?_append]
  change ((p.superclassChain c).findSome? f).or _ = _
  cases hf : (p.superclassChain c).findSome? f with
  | some a => rfl
  | none =>
    rw [Option.none_or, List.findSome?_eq_none_iff]
    intro d hd
    exact List.findSome?_eq_none_iff.mp hf d (h.mem_superclassChain hc (List.mem_of_mem_drop hd))

/-- A walk up the superclasses ends within the bound that it is given. -/
theorem WellFormed.superclassChain_eq (h : p.WellFormed) (hp : p.FiniteChains)
    (hc : p.classes.Holds c) {fuel : Nat} (hfuel : p.classes.size ≤ fuel) :
    p.superclassesWithin fuel (some c) = p.superclassChain c := by
  obtain ⟨extra, rfl⟩ := Nat.exists_eq_add_of_le hfuel
  have hlen : (p.superclassesWithin (p.classes.size + extra) (some c)).length ≤ p.classes.size :=
    Table.length_le_size (nodup_superclassesWithin hp _ _) fun _ hd =>
      h.holds_of_mem_superclassesWithin hc hd
  rw [superclassChain, superclassesWithin_eq_take p.classes.size extra,
    List.take_of_length_le hlen]

/-- The supertypes that a walk of any length meets. -/
def supertypesWithin (p : Program) (fuel : Nat) (c : ClassId) : List ClassId :=
  if p.hierarchy.nodes.contains c then Id.sort (breadthFirst p.hierarchy.parents fuel c) else []

/-- Dispatch with walks of any length. -/
def dispatchWithin (p : Program) (fuel : Nat) (c : ClassId) (g : Signature) : Option MethodId :=
  ((p.superclassesWithin fuel (some c)).findSome? (p.concreteMethod? g)).or
    ((p.supertypesWithin fuel c).findSome? (p.defaultMethod? g))

/-- Dispatch has seen all that there is to see: it would not find more on longer walks. -/
theorem WellFormed.dispatchWithin_eq (h : p.WellFormed) (hp : p.FiniteChains) (c : ClassId)
    (g : Signature) {fuel : Nat} (hclasses : p.classes.size ≤ fuel)
    (hlinks : p.hierarchy.links.size < fuel) : p.dispatchWithin fuel c g = p.dispatch c g := by
  have hsuper : breadthFirst p.hierarchy.parents fuel c =
      breadthFirst p.hierarchy.parents (p.hierarchy.links.size + 1) c := by
    have hnext (x y : ClassId) (hy : y ∈ p.hierarchy.parents x) :
        y ∈ p.hierarchy.links.toList.map Link.sup := by
      obtain ⟨l, hl, rfl⟩ := List.mem_map.mp hy
      exact List.mem_map_of_mem (List.mem_of_mem_filter hl)
    exact breadthFirst_eq hnext c (by simp) hlinks
  have hchain : (p.superclassesWithin fuel (some c)).findSome? (p.concreteMethod? g) =
      (p.superclassChain c).findSome? (p.concreteMethod? g) := by
    by_cases hc : p.classes.Holds c
    · rw [h.superclassChain_eq hp hc hclasses]
    · have hd : p.classDecl c = default := Table.get_of_not_holds hc
      have hnone (n : Nat) :
          (p.superclassesWithin n (some c)).findSome? (p.concreteMethod? g) = none := by
        cases n with
        | zero => rfl
        | succ n =>
          rw [superclassesWithin, hd]
          change List.findSome? _ (c :: p.superclassesWithin n none) = none
          rw [superclassesWithin_none, List.findSome?_singleton, concreteMethod?, hd]
          rfl
      rw [superclassChain, hnone, hnone]
  rw [dispatchWithin, dispatch, hchain, supertypesWithin, hsuper, Hierarchy.supertypes]

section Callees

variable {g : Signature} {m : MethodId}

theorem mem_declared_of_concreteMethod? (hm : p.concreteMethod? g c = some m) :
    (g, m) ∈ (p.classDecl c).declared := by
  obtain ⟨l, l', hl, -⟩ := List.lookup_eq_some_iff.mp (Option.filter_eq_some_iff.mp hm).1
  simp [hl]

/-- What dispatch finds is declared somewhere with a body. -/
theorem exists_concreteMethod?_of_dispatch (hm : p.dispatch c g = some m) :
    ∃ d, p.concreteMethod? g d = some m := by
  rcases Option.or_eq_some_iff.mp hm with hm | ⟨-, hm⟩
  · obtain ⟨d, -, hd⟩ := List.exists_of_findSome?_eq_some hm
    exact ⟨d, hd⟩
  · obtain ⟨d, -, hd⟩ := List.exists_of_findSome?_eq_some hm
    rw [defaultMethod?] at hd
    split at hd
    · exact ⟨d, (Option.filter_eq_some_iff.mp hd).1⟩
    · cases hd

theorem WellFormed.holds_of_dispatch (h : p.WellFormed) (hm : p.dispatch c g = some m) :
    p.methods.Holds m := by
  obtain ⟨d, hd⟩ := exists_concreteMethod?_of_dispatch hm
  exact h.declared (mem_declared_of_concreteMethod? hd)

theorem dispatch_of_dispatchAt {site : StmtId} (h : p.dispatchAt site c g = .ok m) :
    p.dispatch c g = some m := by
  rw [dispatchAt] at h
  split at h
  · next hm =>
    cases h
    exact hm
  · cases h

/-- A callee is found by dispatch. -/
theorem dispatch_of_calleeAt {recv : Option ClassId} {site : StmtId}
    (h : p.calleeAt recv site = .ok m) :
    ∃ call c, p.callAt site = .ok call ∧ p.dispatch c call.target.signature = some m := by
  rw [calleeAt] at h
  cases hcall : p.callAt site with
  | error e => rw [hcall] at h; cases h
  | ok call =>
    simp only [hcall, bind, Except.bind] at h
    split at h
    · split at h
      · next hm =>
        cases h
        exact ⟨call, _, rfl, hm⟩
      · cases h
    · exact ⟨call, _, rfl, dispatch_of_dispatchAt h⟩
    · exact ⟨call, _, rfl, dispatch_of_dispatchAt h⟩
    · exact ⟨call, _, rfl, dispatch_of_dispatchAt h⟩
    · cases h

theorem WellFormed.holds_of_calleeAt (h : p.WellFormed) {recv : Option ClassId} {site : StmtId}
    (hm : p.calleeAt recv site = .ok m) : p.methods.Holds m := by
  obtain ⟨call, c, -, hm⟩ := dispatch_of_calleeAt hm
  exact h.holds_of_dispatch hm

end Callees

end Program

end PointsTo
