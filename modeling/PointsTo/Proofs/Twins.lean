import PointsTo.Proofs.Completion
import PointsTo.Proofs.Growth

namespace PointsTo

section Sorted

variable {κ : Entity} {α : Type} {l l' : List (Id κ)} {f : Id κ → Option α}

theorem Id.pairwise_sort (l : List (Id κ)) : (Id.sort l).Pairwise fun i j => i.index ≤ j.index := by
  have htrans (i j k : Id κ) (hij : decide (i.index ≤ j.index)) (hjk : decide (j.index ≤ k.index)) :
      decide (i.index ≤ k.index) := by
    rw [decide_eq_true_eq] at *
    omega
  have htotal (i j : Id κ) : decide (i.index ≤ j.index) || decide (j.index ≤ i.index) := by
    rw [Bool.or_eq_true, decide_eq_true_eq, decide_eq_true_eq]
    omega
  have hsorted := List.pairwise_mergeSort htrans htotal l
  simpa only [Id.sort, decide_eq_true_eq] using hsorted

/-- The first hit in an ordered list is the least one. -/
theorem Id.index_le_of_findSome? {x y : Id κ} {l₁ l₂ : List (Id κ)}
    (hl : (l₁ ++ x :: l₂).Pairwise fun i j => i.index ≤ j.index) (hnone : ∀ a ∈ l₁, f a = none)
    (hy : y ∈ l₁ ++ x :: l₂) (hf : f y ≠ none) : x.index ≤ y.index := by
  rcases List.mem_append.mp hy with hy | hy
  · exact (hf (hnone y hy)).elim
  · rcases List.mem_cons.mp hy with rfl | hy
    · exact Nat.le_refl _
    · have htail := (List.pairwise_append.mp hl).2.1
      exact (List.pairwise_cons.mp htail).1 y hy

/-- What is found first in increasing order depends only on where there is something to find. -/
theorem Id.findSome?_sort_congr (h : ∀ x, f x ≠ none → (x ∈ l ↔ x ∈ l')) :
    (Id.sort l).findSome? f = (Id.sort l').findSome? f := by
  have hmem (k : List (Id κ)) (x : Id κ) : x ∈ Id.sort k ↔ x ∈ k := List.mem_mergeSort
  cases hf : (Id.sort l).findSome? f with
  | none =>
    symm
    rw [List.findSome?_eq_none_iff] at hf ⊢
    intro x hx
    by_contra hne
    exact hne (hf x ((hmem l x).mpr ((h x hne).mpr ((hmem l' x).mp hx))))
  | some a =>
    obtain ⟨l₁, x, l₂, hsplit, hx, hnone⟩ := List.findSome?_eq_some_iff.mp hf
    have hxne : f x ≠ none := by simp [hx]
    have hxl : x ∈ Id.sort l := by simp [hsplit]
    have hxl' : x ∈ Id.sort l' := (hmem l' x).mpr ((h x hxne).mp ((hmem l x).mp hxl))
    cases hf' : (Id.sort l').findSome? f with
    | none => exact (hxne (List.findSome?_eq_none_iff.mp hf' x hxl')).elim
    | some a' =>
      obtain ⟨k₁, y, k₂, hsplit', hy, hnone'⟩ := List.findSome?_eq_some_iff.mp hf'
      have hyne : f y ≠ none := by simp [hy]
      have hyl' : y ∈ Id.sort l' := by simp [hsplit']
      have hyl : y ∈ Id.sort l := (hmem l y).mpr ((h y hyne).mpr ((hmem l' y).mp hyl'))
      have hle : x.index ≤ y.index :=
        Id.index_le_of_findSome? (hsplit ▸ Id.pairwise_sort l) hnone (hsplit ▸ hyl) hyne
      have hge : y.index ≤ x.index :=
        Id.index_le_of_findSome? (hsplit' ▸ Id.pairwise_sort l') hnone' (hsplit' ▸ hxl') hxne
      have hxy : x = y := Id.ext (Nat.le_antisymm hle hge)
      rw [← hx, ← hy, hxy]

end Sorted

namespace Program

variable {b p q : Program} {c root root' : ClassId} {g : Signature}

namespace Grown

variable (h : Grown b p)
include h

/-- Only declared classes have methods, and completing the hierarchy does not add any. -/
theorem concreteMethod?_rooted (root : ClassId) :
    (p.rooted root).concreteMethod? = b.concreteMethod? := by
  funext g c
  have hadopted := adopted_rooted h.registered root
  have hmethods : (p.rooted root).methods = p.methods := by rw [hadopted.rest]
  have hdeclared : ((p.rooted root).classDecl c).declared = (b.classDecl c).declared := by
    have hp : ((p.rooted root).classDecl c).declared = (p.classDecl c).declared := by
      rw [hadopted.classDecl]
      split <;> rfl
    rw [hp]
    by_cases hc : b.classes.Holds c
    · rw [h.classDecl_eq hc]
    · rw [(h.blank hc).declared, (blank_of_not_holds hc).declared]
  have habstract (m : MethodId) :
      ((p.rooted root).methodDecl m).isAbstract = (b.methodDecl m).isAbstract := by
    have hm := congrArg MethodDecl.isAbstract (h.method m)
    rw [methodDecl, hmethods]
    exact hm
  simp only [concreteMethod?, ClassDecl.declaredMethod?, hdeclared, habstract]

theorem defaultMethod?_rooted (root : ClassId) :
    (p.rooted root).defaultMethod? = b.defaultMethod? := by
  funext g c
  have hadopted := adopted_rooted h.registered root
  have hmethods : (p.rooted root).methods = p.methods := by rw [hadopted.rest]
  have hinterface : ((p.rooted root).classDecl c).isInterface = (b.classDecl c).isInterface := by
    have hp : ((p.rooted root).classDecl c).isInterface = (p.classDecl c).isInterface := by
      rw [hadopted.classDecl]
      split <;> rfl
    rw [hp]
    by_cases hc : b.classes.Holds c
    · rw [h.classDecl_eq hc]
    · rw [(h.blank hc).interface, (blank_of_not_holds hc).interface]
  have hstatic (m : MethodId) :
      ((p.rooted root).methodDecl m).isStatic = (b.methodDecl m).isStatic := by
    have hm := congrArg MethodDecl.isStatic (h.method m)
    rw [methodDecl, hmethods]
    exact hm
  simp only [defaultMethod?, hinterface, h.concreteMethod?_rooted, hstatic]

end Grown

theorem holds_of_concreteMethod? (h : b.concreteMethod? g c ≠ none) : b.classes.Holds c := by
  by_contra hc
  apply h
  rw [concreteMethod?, ClassDecl.declaredMethod?, (blank_of_not_holds hc).declared]
  rfl

theorem holds_of_defaultMethod? (h : b.defaultMethod? g c ≠ none) : b.classes.Holds c := by
  by_contra hc
  apply h
  rw [defaultMethod?, (blank_of_not_holds hc).interface]
  rfl

/-- Two programs that have grown from `b` and know the same names. -/
structure Twins (b p q : Program) : Prop where
  wellFormed : b.WellFormed
  registered : b.Registered
  left : b.Grown p
  right : b.Grown q
  known (name : String) : (p.findClass? name).isSome ↔ (q.findClass? name).isSome

/-- The class of `q` that has the name of a class of `p`. -/
def counterpart (p q : Program) (c : ClassId) : ClassId :=
  (q.findClass? (p.classDecl c).name).getD c

namespace Twins

theorem symm (h : Twins b p q) : Twins b q p where
  wellFormed := h.wellFormed
  registered := h.registered
  left := h.right
  right := h.left
  known name := (h.known name).symm

variable (h : Twins b p q)
include h

theorem findClass?_name (hc : p.classes.Holds c) :
    q.findClass? (p.classDecl c).name = some (p.counterpart q c) := by
  have hp : p.findClass? (p.classDecl c).name = some c := h.left.registered.name.mpr ⟨hc, rfl⟩
  have hq : (q.findClass? (p.classDecl c).name).isSome := by
    rw [← h.known, hp]
    rfl
  obtain ⟨d, hd⟩ := Option.isSome_iff_exists.mp hq
  rw [counterpart, hd, Option.getD_some]

theorem findClass? {name : String} (hc : p.findClass? name = some c) :
    q.findClass? name = some (p.counterpart q c) := by
  obtain ⟨hholds, hname⟩ := h.left.registered.name.mp hc
  rw [← hname]
  exact h.findClass?_name hholds

theorem holds_counterpart (hc : p.classes.Holds c) : q.classes.Holds (p.counterpart q c) :=
  (h.right.registered.name.mp (h.findClass?_name hc)).1

theorem counterpart_counterpart (hc : p.classes.Holds c) :
    q.counterpart p (p.counterpart q c) = c := by
  have hq := h.findClass?_name hc
  have hp := h.symm.findClass? hq
  rw [h.left.registered.name.mpr ⟨hc, rfl⟩] at hp
  exact (Option.some.inj hp).symm

/-- Declared classes keep their numbers. -/
theorem counterpart_eq (hc : b.classes.Holds c) : p.counterpart q c = c := by
  have hq : q.findClass? (p.classDecl c).name = some c := by
    apply h.right.registered.name.mpr
    rw [h.left.classDecl_eq hc, h.right.classDecl_eq hc]
    exact ⟨h.right.classes.holds hc, rfl⟩
  rw [counterpart, hq, Option.getD_some]

theorem holds_of_counterpart (hc : p.classes.Holds c) (hb : b.classes.Holds (p.counterpart q c)) :
    b.classes.Holds c := by
  have hback := h.counterpart_counterpart hc
  rw [h.symm.counterpart_eq hb] at hback
  rwa [hback] at hb

/-- A class and its counterpart are the same declared class, or both are blank. -/
theorem classDecl_cases (hc : p.classes.Holds c) :
    b.classes.Holds c ∧ p.counterpart q c = c ∧ q.classDecl c = p.classDecl c ∨
      (p.classDecl c).Blank ∧ (q.classDecl (p.counterpart q c)).Blank := by
  by_cases hb : b.classes.Holds c
  · left
    rw [h.left.classDecl_eq hb, h.right.classDecl_eq hb]
    exact ⟨hb, h.counterpart_eq hb, rfl⟩
  · right
    exact ⟨h.left.blank hb, h.right.blank fun hq => hb (h.holds_of_counterpart hc hq)⟩

/-- There are as many classes in one program as in the other. -/
theorem size_eq : q.classes.size = p.classes.size := by
  have hle {p q : Program} (h : Twins b p q) : p.classes.size ≤ q.classes.size := by
    have hinj : (p.classes.ids.map (p.counterpart q)).Nodup := by
      apply List.Nodup.map_on
      · intro c hc d hd heq
        rw [← h.counterpart_counterpart (Table.mem_ids.mp hc), heq,
          h.counterpart_counterpart (Table.mem_ids.mp hd)]
      · exact List.nodup_range.map fun _ _ heq => congrArg Id.index heq
    have hlen := Table.length_le_size (t := q.classes) hinj fun d hd => by
      obtain ⟨c, hc, rfl⟩ := List.mem_map.mp hd
      exact h.holds_counterpart (Table.mem_ids.mp hc)
    simpa [Table.ids] using hlen
  exact Nat.le_antisymm (hle h.symm) (hle h)

section Rooted

variable (hroot : p.findClass? rootClassName = some root)
  (hroot' : q.findClass? rootClassName = some root')
include hroot hroot'

theorem counterpart_root : p.counterpart q root = root' := by
  have hq := h.findClass? hroot
  rw [hroot'] at hq
  exact (Option.some.inj hq).symm

theorem counterpart_mem_orphans (hc : c ∈ p.orphans root) :
    p.counterpart q c ∈ q.orphans root' := by
  obtain ⟨hholds, hne, hsup, hinterface⟩ := (mem_orphans h.left.registered).mp hc
  apply (mem_orphans h.right.registered).mpr
  refine ⟨h.holds_counterpart hholds, ?_, ?_⟩
  · intro heq
    apply hne
    have hr := (h.left.registered.name.mp hroot).1
    rw [← h.counterpart_counterpart hholds, heq, ← h.counterpart_root hroot hroot',
      h.counterpart_counterpart hr]
  · rcases h.classDecl_cases hholds with ⟨-, hsame, hdecl⟩ | ⟨-, hblank⟩
    · rw [hsame, hdecl]
      exact ⟨hsup, hinterface⟩
    · exact ⟨hblank.superclass, hblank.interface⟩

theorem counterpart_mem_orphans_iff (hc : p.classes.Holds c) :
    p.counterpart q c ∈ q.orphans root' ↔ c ∈ p.orphans root := by
  constructor
  · intro hmem
    have hback := h.symm.counterpart_mem_orphans hroot' hroot hmem
    rwa [h.counterpart_counterpart hc] at hback
  · exact h.counterpart_mem_orphans hroot hroot'

theorem superclass_rooted (hc : p.classes.Holds c) :
    ((q.rooted root').classDecl (p.counterpart q c)).superclass =
      ((p.rooted root).classDecl c).superclass.map (p.counterpart q) := by
  rw [(adopted_rooted h.left.registered root).classDecl,
    (adopted_rooted h.right.registered root').classDecl]
  simp only [h.counterpart_mem_orphans_iff hroot hroot' hc]
  split
  · exact congrArg some (h.counterpart_root hroot hroot').symm
  · rcases h.classDecl_cases hc with ⟨hb, hsame, hdecl⟩ | ⟨hblank, hblank'⟩
    · rw [hsame, hdecl, h.left.classDecl_eq hb]
      cases hs : (b.classDecl c).superclass with
      | none => rfl
      | some sup => exact congrArg some (h.counterpart_eq (h.wellFormed.superclass hs)).symm
    · rw [hblank.superclass, hblank'.superclass]
      rfl

/-- A step up from a class is a step up from its counterpart. -/
theorem parents_rooted (hc : p.classes.Holds c) {sup : ClassId}
    (hsup : sup ∈ (p.rooted root).hierarchy.parents c) : p.classes.Holds sup ∧
      p.counterpart q sup ∈ (q.rooted root').hierarchy.parents (p.counterpart q c) := by
  rw [(adopted_rooted h.left.registered root).parents] at hsup
  rw [(adopted_rooted h.right.registered root').parents]
  rcases hsup with hsup | ⟨horphan, rfl⟩
  · obtain ⟨l, hl, rfl, rfl⟩ := mem_parents.mp hsup
    rw [h.left.links] at hl
    obtain ⟨hsub, hlsup⟩ := h.registered.link hl
    refine ⟨h.left.classes.holds hlsup, .inl ?_⟩
    rw [h.counterpart_eq hsub, h.counterpart_eq hlsup, mem_parents, h.right.links]
    exact ⟨l, hl, rfl, rfl⟩
  · exact ⟨(h.left.registered.name.mp hroot).1,
      .inr ⟨h.counterpart_mem_orphans hroot hroot' horphan, h.counterpart_root hroot hroot'⟩⟩

omit hroot' in
theorem holds_superclass_rooted (hc : p.classes.Holds c) {sup : ClassId}
    (hsup : ((p.rooted root).classDecl c).superclass = some sup) : p.classes.Holds sup := by
  rw [(adopted_rooted h.left.registered root).classDecl] at hsup
  split at hsup
  · rw [← Option.some.inj hsup]
    exact (h.left.registered.name.mp hroot).1
  · rcases h.classDecl_cases hc with ⟨hb, -⟩ | ⟨hblank, -⟩
    · rw [h.left.classDecl_eq hb] at hsup
      exact h.left.classes.holds (h.wellFormed.superclass hsup)
    · rw [hblank.superclass] at hsup
      cases hsup

/-- What only declared classes have is found on both superclass chains or on none. -/
theorem findSome?_chain_rooted {α : Type} {f : ClassId → Option α}
    (hf : ∀ c, f c ≠ none → b.classes.Holds c) (hc : p.classes.Holds c) (fuel : Nat) :
    ((q.rooted root').superclassesWithin fuel (some (p.counterpart q c))).findSome? f =
      ((p.rooted root).superclassesWithin fuel (some c)).findSome? f := by
  have hsame {c : ClassId} (hc : p.classes.Holds c) : f (p.counterpart q c) = f c := by
    by_cases hb : b.classes.Holds c
    · rw [h.counterpart_eq hb]
    · have hp : f c = none := by
        by_contra hne
        exact hb (hf c hne)
      have hq : f (p.counterpart q c) = none := by
        by_contra hne
        exact hb (h.holds_of_counterpart hc (hf _ hne))
      rw [hp, hq]
  induction fuel generalizing c with
  | zero => rfl
  | succ fuel ih =>
    rw [superclassesWithin, superclassesWithin, List.findSome?_cons, List.findSome?_cons, hsame hc,
      h.superclass_rooted hroot hroot' hc]
    cases hs : ((p.rooted root).classDecl c).superclass with
    | none => rw [Option.map_none, superclassesWithin_none, superclassesWithin_none]
    | some sup => rw [Option.map_some, ih (h.holds_superclass_rooted hroot hc hs)]

/-- A walk up from a class is a walk up from its counterpart. -/
theorem walk_rooted (hc : p.classes.Holds c) {sup : ClassId}
    (hwalk : Relation.ReflTransGen (Follows (p.rooted root).hierarchy.parents) c sup) :
    p.classes.Holds sup ∧ Relation.ReflTransGen (Follows (q.rooted root').hierarchy.parents)
      (p.counterpart q c) (p.counterpart q sup) := by
  induction hwalk with
  | refl => exact ⟨hc, .refl⟩
  | tail _ hstep ih =>
    obtain ⟨hholds, hup⟩ := h.parents_rooted hroot hroot' ih.1 hstep
    exact ⟨hholds, ih.2.tail hup⟩

theorem walk_rooted_iff (hc : p.classes.Holds c) {sup : ClassId} (hsup : b.classes.Holds sup) :
    Relation.ReflTransGen (Follows (q.rooted root').hierarchy.parents) (p.counterpart q c) sup ↔
      Relation.ReflTransGen (Follows (p.rooted root).hierarchy.parents) c sup := by
  constructor
  · intro hwalk
    have hback := (h.symm.walk_rooted hroot' hroot (h.holds_counterpart hc) hwalk).2
    rwa [h.counterpart_counterpart hc, h.symm.counterpart_eq hsup] at hback
  · intro hwalk
    have hforth := (h.walk_rooted hroot hroot' hc hwalk).2
    rwa [h.counterpart_eq hsup] at hforth

/-- A call on a class runs the method that a call on its counterpart runs. -/
theorem dispatch_rooted (hc : p.classes.Holds c) (g : Signature) :
    (q.rooted root').dispatch (p.counterpart q c) g = (p.rooted root).dispatch c g := by
  have hsize : (q.rooted root').classes.size = (p.rooted root).classes.size := by
    rw [(adopted_rooted h.left.registered root).size,
      (adopted_rooted h.right.registered root').size, h.size_eq]
  have hchain : ((q.rooted root').superclassChain (p.counterpart q c)).findSome?
      (b.concreteMethod? g) = ((p.rooted root).superclassChain c).findSome?
        (b.concreteMethod? g) := by
    rw [superclassChain, superclassChain, hsize]
    exact h.findSome?_chain_rooted hroot hroot' (fun _ => holds_of_concreteMethod?) hc _
  have hsuper : ((q.rooted root').hierarchy.supertypes (p.counterpart q c)).findSome?
      (b.defaultMethod? g) = ((p.rooted root).hierarchy.supertypes c).findSome?
        (b.defaultMethod? g) := by
    have hp : (p.rooted root).hierarchy.nodes.contains c := by
      rw [nodes_rooted, Array.contains_iff_mem, h.left.registered.nodes.mem_nodes]
      exact hc
    have hq : (q.rooted root').hierarchy.nodes.contains (p.counterpart q c) := by
      rw [nodes_rooted, Array.contains_iff_mem, h.right.registered.nodes.mem_nodes]
      exact h.holds_counterpart hc
    rw [Hierarchy.supertypes, Hierarchy.supertypes, if_pos hp, if_pos hq]
    apply Id.findSome?_sort_congr
    intro x hx
    rw [mem_walk_iff, mem_walk_iff]
    exact h.walk_rooted_iff hroot hroot' hc (holds_of_defaultMethod? hx)
  rw [dispatch, dispatch, h.left.concreteMethod?_rooted, h.right.concreteMethod?_rooted,
    h.left.defaultMethod?_rooted, h.right.defaultMethod?_rooted, hchain, hsuper]

end Rooted

end Twins

end Program

end PointsTo
