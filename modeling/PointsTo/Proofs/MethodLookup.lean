import PointsTo.Proofs.Inheritance
import PointsTo.Proofs.Loading
import PointsTo.Proofs.Representation
import PointsTo.Proofs.Twins

namespace PointsTo.Program

variable {p : Program} {g : Signature} {c d e x : ClassId} {m : MethodId}

/-- Going from superclass to superclass leads from a class to another one. -/
def OnChain (p : Program) : ClassId → ClassId → Prop :=
  Relation.ReflTransGen fun c sup => (p.classDecl c).superclass = some sup

/-- The links of the hierarchy lead up from a class to another one. -/
def Below (p : Program) : ClassId → ClassId → Prop :=
  Relation.ReflTransGen (Follows p.hierarchy.parents)

theorem below_of_mem_parents (h : d ∈ p.hierarchy.parents c) : p.Below c d := .single h

/-- A class declares a method that has a body. -/
structure Provides (p : Program) (g : Signature) (c : ClassId) (m : MethodId) : Prop where
  holds : p.methods.Holds m
  cls : (p.methodDecl m).cls = c
  signature : (p.methodDecl m).signature = g
  concrete : (p.methodDecl m).isAbstract = false

/-- An interface declares a default method. -/
structure Offers (p : Program) (g : Signature) (c : ClassId) (m : MethodId) : Prop
    extends Provides p g c m where
  interface : (p.classDecl c).isInterface = true
  instanceMethod : (p.methodDecl m).isStatic = false

/-- The first class on the superclass chain of `c` that declares such a method with a body. -/
structure FirstOnChain (p : Program) (g : Signature) (c d : ClassId) (m : MethodId) : Prop where
  onChain : p.OnChain c d
  provides : p.Provides g d m
  first {e : ClassId} (he : p.OnChain c e) (hed : p.OnChain e d) (hne : e ≠ d) (m' : MethodId) :
    ¬p.Provides g e m'

/-- The interface above `c` with the least number that declares such a default method. -/
structure FirstOffered (p : Program) (g : Signature) (c x : ClassId) (m : MethodId) : Prop where
  below : p.Below c x
  offers : p.Offers g x m
  first {y : ClassId} {m' : MethodId} (hy : p.Below c y) (hm' : p.Offers g y m') :
    x.index ≤ y.index

section Declared

variable (hp : p.Represented)
include hp

theorem Represented.concreteMethod?_eq_some :
    p.concreteMethod? g c = some m ↔ p.Provides g c m := by
  rw [concreteMethod?, Option.filter_eq_some_iff, hp.declared, Bool.not_eq_true']
  constructor
  · rintro ⟨⟨hm, hcls, hsig⟩, hconcrete⟩
    exact ⟨hm, hcls, hsig, hconcrete⟩
  · intro h
    exact ⟨⟨h.holds, h.cls, h.signature⟩, h.concrete⟩

theorem Represented.defaultMethod?_eq_some : p.defaultMethod? g c = some m ↔ p.Offers g c m := by
  rw [defaultMethod?]
  constructor
  · intro h
    split at h
    · next hinterface =>
      rw [Option.filter_eq_some_iff, hp.concreteMethod?_eq_some, Bool.not_eq_true'] at h
      exact ⟨h.1, hinterface, h.2⟩
    · cases h
  · intro h
    rw [if_pos h.interface, Option.filter_eq_some_iff, hp.concreteMethod?_eq_some,
      Bool.not_eq_true']
    exact ⟨h.toProvides, h.instanceMethod⟩

theorem Represented.concreteMethod?_eq_none :
    p.concreteMethod? g c = none ↔ ∀ m, ¬p.Provides g c m := by
  rw [Option.eq_none_iff_forall_ne_some]
  exact forall_congr' fun m => not_congr hp.concreteMethod?_eq_some

theorem Represented.defaultMethod?_eq_none :
    p.defaultMethod? g c = none ↔ ∀ m, ¬p.Offers g c m := by
  rw [Option.eq_none_iff_forall_ne_some]
  exact forall_congr' fun m => not_congr hp.defaultMethod?_eq_some

end Declared

section Chain

/-- The chain of a class is all that its superclasses lead to. -/
theorem WellFormed.mem_superclassChain_iff (h : p.WellFormed) (hc : p.classes.Holds c) :
    d ∈ p.superclassChain c ↔ p.OnChain c d := by
  constructor
  · intro hd
    exact Relation.reflTransGen_swap.mp (above_of_mem_superclassesWithin hd)
  · intro hd
    have hwalk : ∃ fuel, d ∈ p.superclassesWithin fuel (some c) := by
      clear hc
      induction hd using Relation.ReflTransGen.head_induction_on with
      | refl => exact ⟨1, List.mem_cons_self⟩
      | head hsup _ ih =>
        obtain ⟨fuel, hfuel⟩ := ih
        refine ⟨fuel + 1, ?_⟩
        rw [superclassesWithin, hsup]
        exact List.mem_cons_of_mem _ hfuel
    obtain ⟨fuel, hfuel⟩ := hwalk
    exact h.mem_superclassChain hc hfuel

/-- From any of its classes on, a walk up is the walk from that class. -/
theorem onChain_of_superclassesWithin {fuel : Nat} {c? : Option ClassId} {l₁ l₂ : List ClassId}
    (h : p.superclassesWithin fuel c? = l₁ ++ x :: l₂) (he : e ∈ x :: l₂) : p.OnChain x e := by
  have hrest : ∃ n, p.superclassesWithin n (some x) = x :: l₂ := by
    induction l₁ generalizing fuel c? with
    | nil =>
      cases fuel with
      | zero => cases h
      | succ fuel =>
        cases c? with
        | none => cases h
        | some c =>
          have hx : c = x := (List.cons.inj h).1
          exact ⟨fuel + 1, hx ▸ h⟩
    | cons y l₁ ih =>
      cases fuel with
      | zero => cases h
      | succ fuel =>
        cases c? with
        | none => cases h
        | some c => exact ih (List.cons.inj h).2
  obtain ⟨n, hn⟩ := hrest
  rw [← hn] at he
  exact Relation.reflTransGen_swap.mp (above_of_mem_superclassesWithin he)

/-- On a chain that ends, two classes that lead to each other are the same. -/
theorem FiniteChains.antisymm (hchains : p.FiniteChains) (hde : p.OnChain d e)
    (hed : p.OnChain e d) : d = e := by
  by_contra hne
  have hup : Relation.TransGen (fun c sup => (p.classDecl c).superclass = some sup) d e :=
    (Relation.reflTransGen_iff_eq_or_transGen.mp hde).resolve_left (Ne.symm hne)
  have hloop := Relation.transGen_swap.mpr (hup.trans_left hed)
  exact hchains.transGen.irrefl.irrefl d hloop

variable (hp : p.Represented) (hwf : p.WellFormed) (hc : p.classes.Holds c)
include hp hwf hc

theorem findSome?_chain_eq_none : (p.superclassChain c).findSome? (p.concreteMethod? g) = none ↔
    ∀ d m, p.OnChain c d → ¬p.Provides g d m := by
  rw [List.findSome?_eq_none_iff]
  constructor
  · intro h d m hd
    exact hp.concreteMethod?_eq_none.mp (h d ((hwf.mem_superclassChain_iff hc).mpr hd)) m
  · intro h d hd
    exact hp.concreteMethod?_eq_none.mpr fun m => h d m ((hwf.mem_superclassChain_iff hc).mp hd)

/-- The walk up finds the method of the first class that has one. -/
theorem findSome?_chain_eq_some (hchains : p.FiniteChains) :
    (p.superclassChain c).findSome? (p.concreteMethod? g) = some m ↔
      ∃ d, p.FirstOnChain g c d m := by
  constructor
  · intro h
    obtain ⟨l₁, d, l₂, hsplit, hd, hnone⟩ := List.findSome?_eq_some_iff.mp h
    have hmem : d ∈ p.superclassChain c := by simp [hsplit]
    refine ⟨d, (hwf.mem_superclassChain_iff hc).mp hmem, hp.concreteMethod?_eq_some.mp hd, ?_⟩
    intro e he hed hne m' hm'
    have hemem := (hwf.mem_superclassChain_iff hc).mpr he
    rw [hsplit, List.mem_append] at hemem
    rcases hemem with hbefore | hafter
    · exact hp.concreteMethod?_eq_none.mp (hnone e hbefore) m' hm'
    · -- a class that stands after `d` leads back to `d` only if it is the same
      exact hne (hchains.antisymm hed (onChain_of_superclassesWithin hsplit hafter))
  · rintro ⟨d, hd⟩
    cases hfind : (p.superclassChain c).findSome? (p.concreteMethod? g) with
    | none => exact ((findSome?_chain_eq_none hp hwf hc).mp hfind d m hd.onChain hd.provides).elim
    | some m' =>
      obtain ⟨l₁, x, l₂, hsplit, hx, hnone⟩ := List.findSome?_eq_some_iff.mp hfind
      have hxmem : x ∈ p.superclassChain c := by simp [hsplit]
      have hdmem := (hwf.mem_superclassChain_iff hc).mpr hd.onChain
      rw [hsplit, List.mem_append] at hdmem
      have hxd : x = d := by
        rcases hdmem with hbefore | hafter
        · exact (hp.concreteMethod?_eq_none.mp (hnone d hbefore) m hd.provides).elim
        · by_contra hne
          exact hd.first ((hwf.mem_superclassChain_iff hc).mp hxmem)
            (onChain_of_superclassesWithin hsplit hafter) hne m' (hp.concreteMethod?_eq_some.mp hx)
      rw [← hx, hxd]
      exact hp.concreteMethod?_eq_some.mpr hd.provides

end Chain

section Supertypes

theorem pairwise_supertypes :
    (p.hierarchy.supertypes c).Pairwise fun i j => i.index ≤ j.index := by
  rw [Hierarchy.supertypes]
  split
  · exact Id.pairwise_sort _
  · exact List.Pairwise.nil

variable (hp : p.Represented) (hc : p.classes.Holds c)
include hp hc

theorem mem_supertypes_iff_below : d ∈ p.hierarchy.supertypes c ↔ p.Below c d := by
  rw [mem_supertypes_iff, NodesMatch.mem_nodes hp.nodes]
  exact and_iff_right hc

theorem findSome?_supertypes_eq_none :
    (p.hierarchy.supertypes c).findSome? (p.defaultMethod? g) = none ↔
      ∀ x m, p.Below c x → ¬p.Offers g x m := by
  rw [List.findSome?_eq_none_iff]
  constructor
  · intro h x m hx
    exact hp.defaultMethod?_eq_none.mp (h x ((mem_supertypes_iff_below hp hc).mpr hx)) m
  · intro h x hx
    exact hp.defaultMethod?_eq_none.mpr fun m =>
      h x m ((mem_supertypes_iff_below hp hc).mp hx)

/-- The supertypes are gone through in the order of their numbers. -/
theorem findSome?_supertypes_eq_some :
    (p.hierarchy.supertypes c).findSome? (p.defaultMethod? g) = some m ↔
      ∃ x, p.FirstOffered g c x m := by
  have hfound {m : MethodId}
      (h : (p.hierarchy.supertypes c).findSome? (p.defaultMethod? g) = some m) :
      ∃ x, p.FirstOffered g c x m := by
    obtain ⟨l₁, x, l₂, hsplit, hx, hnone⟩ := List.findSome?_eq_some_iff.mp h
    have hmem : x ∈ p.hierarchy.supertypes c := by simp [hsplit]
    have hsorted : (l₁ ++ x :: l₂).Pairwise fun i j => i.index ≤ j.index :=
      hsplit ▸ pairwise_supertypes
    refine ⟨x, (mem_supertypes_iff_below hp hc).mp hmem, hp.defaultMethod?_eq_some.mp hx, ?_⟩
    intro y m' hy hm'
    have hymem : y ∈ l₁ ++ x :: l₂ := hsplit ▸ (mem_supertypes_iff_below hp hc).mpr hy
    have hyne : p.defaultMethod? g y ≠ none := by
      rw [hp.defaultMethod?_eq_some.mpr hm']
      exact Option.some_ne_none m'
    exact Id.index_le_of_findSome? hsorted hnone hymem hyne
  constructor
  · exact hfound
  · rintro ⟨x, hx⟩
    cases hfind : (p.hierarchy.supertypes c).findSome? (p.defaultMethod? g) with
    | none => exact ((findSome?_supertypes_eq_none hp hc).mp hfind x m hx.below hx.offers).elim
    | some m' =>
      obtain ⟨y, hy⟩ := hfound hfind
      have hxy : x = y := Id.ext (Nat.le_antisymm (hx.first hy.below hy.offers)
        (hy.first hx.below hx.offers))
      have hm := hp.defaultMethod?_eq_some.mpr hx.offers
      rw [hxy, hp.defaultMethod?_eq_some.mpr hy.offers] at hm
      exact hm

end Supertypes

/-- The superclasses of a class are among its supertypes. -/
theorem SupertypesLinked.below_of_onChain (h : p.SupertypesLinked) (hd : p.OnChain c d) :
    p.Below c d :=
  Relation.ReflTransGen.mono (fun c sup hsup => h c sup (.inl hsup)) c d hd

section Dispatch

variable (h : p.Finished) (hc : p.classes.Holds c)
include h hc

theorem Finished.not_provides
    (hnone : (p.superclassChain c).findSome? (p.concreteMethod? g) = none) (d : ClassId)
    (m : MethodId) (hd : p.OnChain c d) : ¬p.Provides g d m :=
  (findSome?_chain_eq_none h.edits.1.represented h.wellFormed hc).mp hnone d m hd

/-- Where the superclasses have nothing to run, the least interface gives its default method. -/
theorem Finished.dispatch_eq_some_of_none (hnone : ∀ d m, p.OnChain c d → ¬p.Provides g d m) :
    p.dispatch c g = some m ↔ ∃ x, p.FirstOffered g c x m := by
  have hp : p.Represented := h.edits.1.represented
  rw [dispatch, (findSome?_chain_eq_none hp h.wellFormed hc).mpr hnone, Option.none_or]
  exact findSome?_supertypes_eq_some hp hc

theorem Finished.dispatch_eq_none_of_none (hnone : ∀ d m, p.OnChain c d → ¬p.Provides g d m) :
    p.dispatch c g = none ↔ ∀ x m, p.Below c x → ¬p.Offers g x m := by
  have hp : p.Represented := h.edits.1.represented
  rw [dispatch, (findSome?_chain_eq_none hp h.wellFormed hc).mpr hnone, Option.none_or]
  exact findSome?_supertypes_eq_none hp hc

/-- A method on the superclass chain goes before all default methods. -/
theorem Finished.exists_firstOnChain (hchains : p.FiniteChains)
    (hsome : ∃ d m, p.OnChain c d ∧ p.Provides g d m) :
    ∃ d m, p.FirstOnChain g c d m ∧ p.dispatch c g = some m := by
  have hp : p.Represented := h.edits.1.represented
  cases hchain : (p.superclassChain c).findSome? (p.concreteMethod? g) with
  | none =>
    obtain ⟨d, m, hd, hm⟩ := hsome
    exact (h.not_provides hc hchain d m hd hm).elim
  | some m =>
    obtain ⟨d, hd⟩ := (findSome?_chain_eq_some hp h.wellFormed hc hchains).mp hchain
    refine ⟨d, m, hd, ?_⟩
    rw [dispatch, hchain, Option.some_or]

/-- Dispatch finds the first method with a body on the superclass chain, or else a default method of
an interface above the class, and nothing only where there is neither. -/
theorem Finished.dispatch_finds (hchains : p.FiniteChains) (g : Signature) :
    ((∃ d m, p.OnChain c d ∧ p.Provides g d m) →
      ∃ d m, p.FirstOnChain g c d m ∧ p.dispatch c g = some m) ∧
    ((∀ d m, p.OnChain c d → ¬p.Provides g d m) →
      (∀ m, p.dispatch c g = some m → ∃ x, p.Below c x ∧ p.Offers g x m) ∧
      (p.dispatch c g = none ↔ ∀ x m, p.Below c x → ¬p.Offers g x m)) ∧
    ∀ m, p.dispatch c g = some m → ∃ d, p.Below c d ∧ p.Provides g d m := by
  have hdefault (hnone : ∀ d m, p.OnChain c d → ¬p.Provides g d m) (m : MethodId)
      (hm : p.dispatch c g = some m) : ∃ x, p.Below c x ∧ p.Offers g x m := by
    obtain ⟨x, hx⟩ := (h.dispatch_eq_some_of_none hc hnone).mp hm
    exact ⟨x, hx.below, hx.offers⟩
  refine ⟨h.exists_firstOnChain hc hchains, fun hnone => ⟨hdefault hnone, ?_⟩, fun m hm => ?_⟩
  · exact h.dispatch_eq_none_of_none hc hnone
  · by_cases hsome : ∃ d m, p.OnChain c d ∧ p.Provides g d m
    · obtain ⟨d, m', hd, hm'⟩ := h.exists_firstOnChain hc hchains hsome
      have heq : m' = m := Option.some.inj (hm'.symm.trans hm)
      exact ⟨d, h.supertypesLinked.below_of_onChain hd.onChain, heq ▸ hd.provides⟩
    · have hnone (d : ClassId) (m : MethodId) (hd : p.OnChain c d) : ¬p.Provides g d m :=
        fun hm => hsome ⟨d, m, hd, hm⟩
      obtain ⟨x, hx, hoffers⟩ := hdefault hnone m hm
      exact ⟨x, hx, hoffers.toProvides⟩

end Dispatch

end PointsTo.Program

namespace PointsTo

/-- A disk declares its area anew without a body, and its name is that of all named things. -/
def Description.figures : Description where
  classes := [
    { name := "Named"
      isInterface := true
      methods := [{ signature := "name()V", body := [.ret none] }] },
    { name := "Shape"
      isAbstract := true
      interfaces := ["Named"]
      methods := [{ signature := "area()V", body := [.ret none] }] },
    { name := "Disk"
      superclass := some "Shape"
      methods := [{ signature := "area()V", isAbstract := true }] }]

theorem Description.figures_finished : figures.program.Finished :=
  program_finished (by decide +kernel)

theorem Description.figures_finiteChains : figures.program.FiniteChains :=
  Program.finiteChains_of_ranks [0, 1, 2] (by decide +kernel)

/-- The area of a disk is found on the chain although it is declared anew, its name is a default
method, and there is nothing else to find. -/
theorem Program.dispatch_finds_figures :
    let p := Description.figures.program
    let sig (name : String) : Signature := ⟨name, [], .void⟩
    p.Finished ∧ p.FiniteChains ∧ p.classes.Holds ⟨2⟩ ∧
      (∃ d m, p.FirstOnChain (sig "area") ⟨2⟩ d m ∧ p.dispatch ⟨2⟩ (sig "area") = some m) ∧
      (∃ x m, p.dispatch ⟨2⟩ (sig "name") = some m ∧ p.Below ⟨2⟩ x ∧ p.Offers (sig "name") x m) ∧
      p.dispatch ⟨2⟩ (sig "size") = none := by
  intro p sig
  have hp : p.Finished := Description.figures_finished
  have hrep : p.Represented := hp.edits.1.represented
  have hchains : p.FiniteChains := Description.figures_finiteChains
  obtain ⟨hholds, hsup, hparent, hconcrete, hdefault, hnone, hmissing⟩ :
      p.classes.Holds ⟨2⟩ ∧ (p.classDecl ⟨2⟩).superclass = some ⟨1⟩ ∧
      (⟨1⟩ ∈ p.hierarchy.parents ⟨2⟩ ∧ ⟨0⟩ ∈ p.hierarchy.parents ⟨1⟩) ∧
      p.concreteMethod? (sig "area") ⟨1⟩ = some ⟨1⟩ ∧
      p.defaultMethod? (sig "name") ⟨0⟩ = some ⟨0⟩ ∧
      (∀ name ∈ ["name", "size"],
        (p.superclassChain ⟨2⟩).findSome? (p.concreteMethod? (sig name)) = none) ∧
      ∀ i < p.methods.size, (p.methodDecl ⟨i⟩).signature ≠ sig "size" := by
    decide +kernel
  have hfinds (g : Signature) := hp.dispatch_finds hholds hchains g
  refine ⟨hp, hchains, hholds, (hfinds (sig "area")).1 ?_, ?_, ?_⟩
  · exact ⟨⟨1⟩, ⟨1⟩, .single hsup, hrep.concreteMethod?_eq_some.mp hconcrete⟩
  · obtain ⟨-, hfalls, -⟩ := hfinds (sig "name")
    obtain ⟨hoffers, hiff⟩ := hfalls (hp.not_provides hholds (hnone "name" (by decide)))
    have hshape : p.Below ⟨2⟩ ⟨1⟩ := Program.below_of_mem_parents hparent.1
    have hup : p.Below ⟨2⟩ ⟨0⟩ := hshape.trans (Program.below_of_mem_parents hparent.2)
    have hname := hrep.defaultMethod?_eq_some.mp hdefault
    cases hm : p.dispatch ⟨2⟩ (sig "name") with
    | none => exact (hiff.mp hm ⟨0⟩ ⟨0⟩ hup hname).elim
    | some m =>
      obtain ⟨x, hx, hoffer⟩ := hoffers m hm
      exact ⟨x, m, rfl, hx, hoffer⟩
  · obtain ⟨-, hfalls, -⟩ := hfinds (sig "size")
    apply (hfalls (hp.not_provides hholds (hnone "size" (by decide)))).2.mpr
    intro x m _ hoffer
    exact hmissing m.index hoffer.holds hoffer.signature

end PointsTo
