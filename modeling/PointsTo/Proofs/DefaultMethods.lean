import Mathlib.Order.WellFoundedSet
import PointsTo.Proofs.Ancestry
import PointsTo.Proofs.Checked
import PointsTo.Proofs.Failures
import PointsTo.Proofs.MethodLookup
import PointsTo.Proofs.Renaming

namespace PointsTo

namespace Program

variable {p : Program} {g : Signature} {c d x : ClassId} {m : MethodId}

/-- No class inherits from itself. -/
def Acyclic (p : Program) : Prop :=
  ∀ c, ¬Relation.TransGen (Follows p.hierarchy.parents) c c

theorem lt_of_transGen (rank : ClassId → Nat)
    (hrank : ∀ l ∈ p.hierarchy.links, rank l.sup < rank l.sub)
    (h : Relation.TransGen (Follows p.hierarchy.parents) c d) : rank d < rank c := by
  have hstep {c d : ClassId} (hcd : Follows p.hierarchy.parents c d) : rank d < rank c := by
    obtain ⟨l, hl, rfl, rfl⟩ := mem_parents.mp hcd
    exact hrank l hl
  induction h with
  | single hcd => exact hstep hcd
  | tail _ hde ih => exact Nat.lt_trans (hstep hde) ih

/-- Inheritance has no circles if some number gets smaller along each link. -/
theorem acyclic_of_lt (rank : ClassId → Nat)
    (hrank : ∀ l ∈ p.hierarchy.links, rank l.sup < rank l.sub) : p.Acyclic := by
  intro c hc
  exact Nat.lt_irrefl _ (lt_of_transGen rank hrank hc)

theorem Below.transGen (h : p.Below c d) (hne : c ≠ d) :
    Relation.TransGen (Follows p.hierarchy.parents) c d :=
  (Relation.reflTransGen_iff_eq_or_transGen.mp h).resolve_left (Ne.symm hne)

/-- An interface between `c` and `x` offers a default method in place of that of `x`. -/
def Overridden (p : Program) (g : Signature) (c x : ClassId) : Prop :=
  ∃ y m, y ≠ x ∧ p.Below c y ∧ p.Below y x ∧ p.Offers g y m

/-- Of the interfaces that offer a default method, one at least is not overridden. -/
theorem Acyclic.exists_not_overridden (hacyclic : p.Acyclic) (hwf : p.WellFormed)
    (hsome : ∃ x m, p.Below c x ∧ p.Offers g x m) :
    ∃ x m, p.Below c x ∧ p.Offers g x m ∧ ¬p.Overridden g c x := by
  let s : Set ClassId := {x | p.Below c x ∧ ∃ m, p.Offers g x m}
  have hfinite : s.Finite := by
    refine (List.finite_toSet p.classes.ids).subset ?_
    rintro x ⟨-, m, hm⟩
    have hx := hwf.owner hm.holds
    rw [hm.cls] at hx
    exact Table.mem_ids.mpr hx
  have htrans : IsTrans ClassId (Relation.TransGen (Follows p.hierarchy.parents)) :=
    ⟨fun _ _ _ => Relation.TransGen.trans⟩
  have hirrefl : Std.Irrefl (Relation.TransGen (Follows p.hierarchy.parents)) := ⟨hacyclic⟩
  have hstrict : IsStrictOrder ClassId (Relation.TransGen (Follows p.hierarchy.parents)) := {}
  have hsteps : s.WellFoundedOn (Relation.TransGen (Follows p.hierarchy.parents)) :=
    hfinite.wellFoundedOn
  obtain ⟨x, m, hx, hm⟩ := hsome
  obtain ⟨⟨x, hbelow, m, hm⟩, -, hleast⟩ :=
    WellFounded.has_min hsteps Set.univ ⟨⟨x, hx, m, hm⟩, Set.mem_univ _⟩
  refine ⟨x, m, hbelow, hm, ?_⟩
  rintro ⟨y, m', hne, hcy, hyx, hm'⟩
  exact hleast ⟨y, hcy, m', hm'⟩ (Set.mem_univ _) (hyx.transGen hne)

/-- What is found is the method of the interface with the least number. -/
theorem Finished.firstOffered_iff (h : p.Finished) (hc : p.classes.Holds c)
    (hnone : ∀ d m, p.OnChain c d → ¬p.Provides g d m) :
    p.dispatch c g = some m ∧ p.Offers g x m ↔ p.FirstOffered g c x m := by
  rw [h.dispatch_eq_some_of_none hc hnone]
  constructor
  · rintro ⟨⟨y, hy⟩, hx⟩
    have hxy : x = y := hx.cls.symm.trans hy.offers.cls
    rw [hxy]
    exact hy
  · intro hx
    exact ⟨⟨x, hx⟩, hx.offers⟩

end Program

namespace Description

open Draft

variable {desc : Description} {d : Draft} {p : Program} {g : Signature} {c x : ClassId}
  {m : MethodId}

/-- A class that declares a method stands in the description, at the position of its number. -/
theorem exists_described_of_provides (h : exec desc.build {} = (.ok p, d))
    (hm : p.Provides g x m) : ∃ cl, desc.classes[x.index]? = some cl ∧ p.Names cl.name x := by
  obtain ⟨d₁, start, hd, -, hcompleted⟩ := completed_of_build h
  obtain ⟨a, ha, -, hdecl⟩ := exists_member_of_holds (hcompleted.methods hd) hm.holds
  have hx : x = ⟨a.number⟩ := hm.cls.symm.trans hdecl.cls
  have hp : p.Represented := (finished_of_build h).edits.1.represented
  rw [hx]
  exact ⟨a.cls, ha, hcompleted.names_described hd hp ha⟩

/-- Where the superclasses of a class have nothing to run, dispatch takes the default method of the
first interface in the order of the description, which another interface may override. -/
theorem default_methods_in_order (h : exec desc.build {} = (.ok p, d)) (hacyclic : p.Acyclic)
    (hc : p.classes.Holds c) (hnone : ∀ d m, p.OnChain c d → ¬p.Provides g d m) :
    (∀ x m, p.Offers g x m → ∃ cl, desc.classes[x.index]? = some cl ∧ p.Names cl.name x) ∧
    (∀ x m, p.dispatch c g = some m ∧ p.Offers g x m ↔ p.FirstOffered g c x m) ∧
    ((∀ x m, p.dispatch c g = some m → p.Offers g x m → ¬p.Overridden g c x) ↔
      ∀ x m, p.FirstOffered g c x m → ¬p.Overridden g c x) ∧
    ((∃ x m, p.Below c x ∧ p.Offers g x m) →
      ∃ x m, p.Below c x ∧ p.Offers g x m ∧ ¬p.Overridden g c x) := by
  have hfinished := finished_of_build h
  have hfirst (x : ClassId) (m : MethodId) :
      p.dispatch c g = some m ∧ p.Offers g x m ↔ p.FirstOffered g c x m :=
    hfinished.firstOffered_iff hc hnone
  refine ⟨fun x m hm => exists_described_of_provides h hm.toProvides, hfirst, ?_,
    hacyclic.exists_not_overridden hfinished.wellFormed⟩
  constructor
  · intro hall x m hx
    obtain ⟨hm, hoffers⟩ := (hfirst x m).mpr hx
    exact hall x m hm hoffers
  · intro hall x m hm hoffers
    exact hall x m ((hfirst x m).mp ⟨hm, hoffers⟩)

/-- An interface with a default method. -/
def shape : Class where
  name := "Shape"
  isInterface := true
  methods := [{ signature := "name()V", body := [.ret none] }]

/-- An interface that overrides the default method. -/
def round : Class where
  name := "Round"
  isInterface := true
  interfaces := ["Shape"]
  methods := [{ signature := "name()V", body := [.ret none] }]

/-- A class that gets its name from the interfaces. -/
def disk : Class where
  name := "Disk"
  interfaces := ["Round"]

/-- The interface that overrides stands first, and so it wins. -/
theorem default_methods_in_order_round :
    let desc : Description := { classes := [round, shape, disk] }
    let p := desc.program
    let g : Signature := ⟨"name", [], .void⟩
    (exec desc.build {}).1 = .ok p ∧ p.Acyclic ∧ (∀ d m, p.OnChain ⟨2⟩ d → ¬p.Provides g d m) ∧
      p.dispatch ⟨2⟩ g = some ⟨0⟩ ∧
      ∀ x m, p.dispatch ⟨2⟩ g = some m → p.Offers g x m → ¬p.Overridden g ⟨2⟩ x := by
  intro desc p g
  let rank (c : ClassId) : Nat := [2, 1, 3].getD c.index 0
  obtain ⟨hok, hrank, hholds, hchain, hparent, hdefault, hranks⟩ :
      (exec desc.build {}).1.toOption.isSome ∧
      (∀ l ∈ p.hierarchy.links, rank l.sup < rank l.sub) ∧ p.classes.Holds ⟨2⟩ ∧
      (p.superclassChain ⟨2⟩).findSome? (p.concreteMethod? g) = none ∧
      ⟨0⟩ ∈ p.hierarchy.parents ⟨2⟩ ∧ p.defaultMethod? g ⟨0⟩ = some ⟨0⟩ ∧
      ∀ i < p.methods.size, rank (p.methodDecl ⟨i⟩).cls ≤ rank ⟨0⟩ := by
    decide +kernel
  have hbuild : (exec desc.build {}).1 = .ok p := exec_build hok
  have hp : p.Finished := program_finished hok
  have hacyclic : p.Acyclic := Program.acyclic_of_lt rank hrank
  have hnone : ∀ d m, p.OnChain ⟨2⟩ d → ¬p.Provides g d m := hp.not_provides hholds hchain
  obtain ⟨-, hfirst, hiff, -⟩ := default_methods_in_order (d := (exec desc.build {}).2)
    (Prod.ext hbuild rfl) hacyclic hholds hnone
  have hround : p.Offers g ⟨0⟩ ⟨0⟩ := hp.edits.1.represented.defaultMethod?_eq_some.mp hdefault
  have hup : p.Below ⟨2⟩ ⟨0⟩ := Program.below_of_mem_parents hparent
  refine ⟨hbuild, hacyclic, hnone, ((hfirst ⟨0⟩ ⟨0⟩).mpr ⟨hup, hround, ?_⟩).1, ?_⟩
  · intro y m' _ _
    exact Nat.zero_le _
  · apply hiff.mpr
    rintro x m hx ⟨y, m', hne, -, hyx, hm'⟩
    have hx₀ : x = ⟨0⟩ := Id.ext (Nat.le_zero.mp (hx.first hup hround))
    rw [hx₀] at hne hyx
    have hlt : rank ⟨0⟩ < rank y := Program.lt_of_transGen rank hrank (hyx.transGen hne)
    have hle := hranks m'.index hm'.holds
    rw [hm'.cls] at hle
    omega

/-- If the interface that is overridden stands first, its default method is found all the same. -/
theorem overridden_default_found :
    let desc : Description := { classes := [shape, round, disk] }
    let p := desc.program
    let g : Signature := ⟨"name", [], .void⟩
    (exec desc.build {}).1 = .ok p ∧ p.Acyclic ∧ (∀ d m, p.OnChain ⟨2⟩ d → ¬p.Provides g d m) ∧
      p.dispatch ⟨2⟩ g = some ⟨0⟩ ∧ p.Offers g ⟨0⟩ ⟨0⟩ ∧ p.Overridden g ⟨2⟩ ⟨0⟩ := by
  intro desc p g
  let rank (c : ClassId) : Nat := [1, 2, 3].getD c.index 0
  obtain ⟨hok, hrank, hholds, hchain, hround, hshape, hdefault⟩ :
      (exec desc.build {}).1.toOption.isSome ∧
      (∀ l ∈ p.hierarchy.links, rank l.sup < rank l.sub) ∧ p.classes.Holds ⟨2⟩ ∧
      (p.superclassChain ⟨2⟩).findSome? (p.concreteMethod? g) = none ∧
      ⟨1⟩ ∈ p.hierarchy.parents ⟨2⟩ ∧ ⟨0⟩ ∈ p.hierarchy.parents ⟨1⟩ ∧
      ∀ i < 2, p.defaultMethod? g ⟨i⟩ = some ⟨i⟩ := by
    decide +kernel
  have hp : p.Finished := program_finished hok
  have hnone : ∀ d m, p.OnChain ⟨2⟩ d → ¬p.Provides g d m := hp.not_provides hholds hchain
  have hoffers (i : Nat) (hi : i < 2) : p.Offers g ⟨i⟩ ⟨i⟩ :=
    hp.edits.1.represented.defaultMethod?_eq_some.mp (hdefault i hi)
  have hup : p.Below ⟨2⟩ ⟨1⟩ := Program.below_of_mem_parents hround
  have hup' : p.Below ⟨1⟩ ⟨0⟩ := Program.below_of_mem_parents hshape
  have hfirst : p.FirstOffered g ⟨2⟩ ⟨0⟩ ⟨0⟩ :=
    ⟨hup.trans hup', hoffers 0 (by decide), fun _ _ => Nat.zero_le _⟩
  exact ⟨exec_build hok, Program.acyclic_of_lt rank hrank, hnone,
    ((hp.firstOffered_iff hholds hnone).mpr hfirst).1, hfirst.offers, ⟨1⟩, ⟨1⟩, by decide, hup,
    hup', hoffers 1 (by decide)⟩

end Description

namespace Program

section StaticCalls

variable {p : Program} {g : Signature} {c : ClassId} {s : StmtId} {call : Call}

/-- What a call is resolved to if only the superclass chain of its class counts. -/
def ResolvesOnChain (p : Program) (g : Signature) (c : ClassId)
    (r : Except AnalysisError MethodId) : Prop :=
  (∃ d m, p.FirstOnChain g c d m ∧ r = .ok m) ∨
    (∀ d m, p.OnChain c d → ¬p.Provides g d m) ∧
      r = .error (.methodNotFound (PointsTo.methodLabel (p.classDecl c).name g))

variable (hst : p.stmt s = .invoke call) (hk : call.kind = .static)
  (htarget : call.target = ⟨c, g⟩)
include hst hk htarget

theorem calleeAt_static_eq_ok (recv : Option ClassId) {m : MethodId} :
    p.calleeAt recv s = .ok m ↔ p.dispatch c g = some m := by
  have hkind : call.kind ≠ .dynamic := by
    rw [hk]
    decide
  have hbound : call.boundClass recv = c := by
    rw [Call.boundClass, hk, htarget]
  rw [calleeAt_eq_ok hst, hbound, htarget]
  exact and_iff_right hkind

/-- A static call runs a method of the superclass chain, or else a default method, or else it fails.
-/
theorem Finished.static_callee_cases (h : p.Finished) (hchains : p.FiniteChains)
    (recv : Option ClassId) :
    (∃ d m, p.FirstOnChain g c d m ∧ p.calleeAt recv s = .ok m) ∨
    (∀ d m, p.OnChain c d → ¬p.Provides g d m) ∧
      ((∃ x m, p.FirstOffered g c x m ∧ p.calleeAt recv s = .ok m) ∨
        (∀ x m, p.Below c x → ¬p.Offers g x m) ∧ p.calleeAt recv s =
          .error (.methodNotFound (PointsTo.methodLabel (p.classDecl c).name g))) := by
  have hc : p.classes.Holds c := by
    have hcls := h.linked.target hst
    rwa [htarget] at hcls
  have hok {m : MethodId} : p.calleeAt recv s = .ok m ↔ p.dispatch c g = some m :=
    calleeAt_static_eq_ok hst hk htarget recv
  by_cases hsome : ∃ d m, p.OnChain c d ∧ p.Provides g d m
  · obtain ⟨d, m, hd, hm⟩ := h.exists_firstOnChain hc hchains hsome
    exact .inl ⟨d, m, hd, hok.mpr hm⟩
  · have hnone (d : ClassId) (m : MethodId) (hd : p.OnChain c d) : ¬p.Provides g d m :=
      fun hm => hsome ⟨d, m, hd, hm⟩
    refine .inr ⟨hnone, ?_⟩
    cases hm : p.dispatch c g with
    | some m =>
      obtain ⟨x, hx⟩ := (h.dispatch_eq_some_of_none hc hnone).mp hm
      exact .inl ⟨x, m, hx, hok.mpr hm⟩
    | none =>
      have herror := calleeAt_static_eq_error (e := .methodNotFound
        (PointsTo.methodLabel (p.classDecl c).name g)) hst hk recv
      rw [htarget] at herror
      exact .inr ⟨(h.dispatch_eq_none_of_none hc hnone).mp hm, herror.mpr ⟨hm, rfl⟩⟩

/-- A static call is resolved along the superclass chain if and only if the chain has something to
run or no interface above the class offers a default method, which the call would run. -/
theorem Finished.static_callee_onChain_iff (h : p.Finished) (hchains : p.FiniteChains)
    (recv : Option ClassId) :
    (p.ResolvesOnChain g c (p.calleeAt recv s) ↔
      (∃ d m, p.OnChain c d ∧ p.Provides g d m) ∨ ∀ x m, p.Below c x → ¬p.Offers g x m) ∧
    (¬p.ResolvesOnChain g c (p.calleeAt recv s) → ∃ x m, p.FirstOffered g c x m ∧
      (p.methodDecl m).isStatic = false ∧ p.calleeAt recv s = .ok m) := by
  rcases h.static_callee_cases hst hk htarget hchains recv with
    ⟨d, m, hd, hm⟩ | ⟨hnone, ⟨x, m, hx, hm⟩ | ⟨hoffers, herror⟩⟩
  · have hresolves : p.ResolvesOnChain g c (p.calleeAt recv s) := .inl ⟨d, m, hd, hm⟩
    exact ⟨iff_of_true hresolves (.inl ⟨d, m, hd.onChain, hd.provides⟩),
      fun hn => (hn hresolves).elim⟩
  · have hnot : ¬p.ResolvesOnChain g c (p.calleeAt recv s) := by
      rintro (⟨d, m', hd, -⟩ | ⟨-, herror⟩)
      · exact hnone d m' hd.onChain hd.provides
      · rw [hm] at herror
        cases herror
    refine ⟨iff_of_false hnot ?_, fun _ => ⟨x, m, hx, hx.offers.instanceMethod, hm⟩⟩
    rintro (⟨d, m', hd, hm'⟩ | hoffers)
    · exact hnone d m' hd hm'
    · exact hoffers x m hx.below hx.offers
  · have hresolves : p.ResolvesOnChain g c (p.calleeAt recv s) := .inr ⟨hnone, herror⟩
    exact ⟨iff_of_true hresolves (.inr hoffers), fun hn => (hn hresolves).elim⟩

end StaticCalls

end Program

/-- Static calls to a method of an interface, to one of the superclass and to one that does not
exist. -/
def Description.callers : Description where
  classes := [
    shape,
    { name := "Base"
      methods := [{ signature := "make()V", isStatic := true, body := [.ret none] }] },
    { name := "Disk", superclass := some "Base", interfaces := ["Shape"] },
    { name := "Main"
      methods := [
        { signature := "main()V"
          isStatic := true
          body := [
            .invoke .static "Disk.name()V" none [] none,
            .invoke .static "Disk.make()V" none [] none,
            .invoke .static "Disk.size()V" none [] none] }] }]

theorem Description.callers_finished : callers.program.Finished :=
  program_finished (by decide +kernel)

theorem Description.callers_finiteChains : callers.program.FiniteChains :=
  Program.finiteChains_of_ranks [0, 1, 2, 1] (by decide +kernel)

/-- The method of the superclass is found, and the one that does not exist is not. -/
theorem Program.static_callee_onChain_iff_callers :
    let p := Description.callers.program
    let sig (name : String) : Signature := ⟨name, [], .void⟩
    p.Finished ∧ p.FiniteChains ∧
      p.stmt ⟨3⟩ = .invoke { kind := .static, target := ⟨⟨2⟩, sig "make"⟩ } ∧
      p.ResolvesOnChain (sig "make") ⟨2⟩ (p.calleeAt none ⟨3⟩) ∧
      p.ResolvesOnChain (sig "size") ⟨2⟩ (p.calleeAt none ⟨4⟩) := by
  intro p sig
  have hp : p.Finished := Description.callers_finished
  have hchains : p.FiniteChains := Description.callers_finiteChains
  obtain ⟨hmake, hsize, hsup, hconcrete, hmissing⟩ :
      p.stmt ⟨3⟩ = .invoke { kind := .static, target := ⟨⟨2⟩, sig "make"⟩ } ∧
      p.stmt ⟨4⟩ = .invoke { kind := .static, target := ⟨⟨2⟩, sig "size"⟩ } ∧
      (p.classDecl ⟨2⟩).superclass = some ⟨1⟩ ∧ p.concreteMethod? (sig "make") ⟨1⟩ = some ⟨1⟩ ∧
      ∀ i < p.methods.size, (p.methodDecl ⟨i⟩).signature ≠ sig "size" := by
    decide +kernel
  refine ⟨hp, hchains, hmake, ?_, ?_⟩
  · apply (hp.static_callee_onChain_iff hmake rfl rfl hchains none).1.mpr
    have hprovides := hp.edits.1.represented.concreteMethod?_eq_some.mp hconcrete
    exact .inl ⟨⟨1⟩, ⟨1⟩, .single hsup, hprovides⟩
  · apply (hp.static_callee_onChain_iff hsize rfl rfl hchains none).1.mpr
    right
    intro x m _ hoffer
    exact hmissing m.index hoffer.holds hoffer.signature

/-- The static call that names the method of the interface runs it, although it is not static. -/
theorem Program.static_call_runs_default :
    let p := Description.callers.program
    let g : Signature := ⟨"name", [], .void⟩
    p.Finished ∧ p.FiniteChains ∧ p.stmt ⟨2⟩ = .invoke { kind := .static, target := ⟨⟨2⟩, g⟩ } ∧
      (∀ d m, p.OnChain ⟨2⟩ d → ¬p.Provides g d m) ∧ p.calleeAt none ⟨2⟩ = .ok ⟨0⟩ ∧
      p.Offers g ⟨0⟩ ⟨0⟩ ∧ ¬p.ResolvesOnChain g ⟨2⟩ (p.calleeAt none ⟨2⟩) := by
  intro p g
  have hp : p.Finished := Description.callers_finished
  obtain ⟨hst, hholds, hchain, hparent, hdefault⟩ :
      p.stmt ⟨2⟩ = .invoke { kind := .static, target := ⟨⟨2⟩, g⟩ } ∧ p.classes.Holds ⟨2⟩ ∧
      (p.superclassChain ⟨2⟩).findSome? (p.concreteMethod? g) = none ∧
      ⟨0⟩ ∈ p.hierarchy.parents ⟨2⟩ ∧ p.defaultMethod? g ⟨0⟩ = some ⟨0⟩ := by
    decide +kernel
  have hnone : ∀ d m, p.OnChain ⟨2⟩ d → ¬p.Provides g d m := hp.not_provides hholds hchain
  have hup : p.Below ⟨2⟩ ⟨0⟩ := Program.below_of_mem_parents hparent
  have hshape : p.Offers g ⟨0⟩ ⟨0⟩ := hp.edits.1.represented.defaultMethod?_eq_some.mp hdefault
  have hdispatch : p.dispatch ⟨2⟩ g = some ⟨0⟩ :=
    ((hp.firstOffered_iff hholds hnone).mpr ⟨hup, hshape, fun _ _ => Nat.zero_le _⟩).1
  have hcallee : p.calleeAt none ⟨2⟩ = .ok ⟨0⟩ :=
    (calleeAt_static_eq_ok hst rfl rfl none).mpr hdispatch
  refine ⟨hp, Description.callers_finiteChains, hst, hnone, hcallee, hshape, ?_⟩
  rintro (⟨d, m, hd, -⟩ | ⟨-, herror⟩)
  · exact hnone d m hd.onChain hd.provides
  · rw [hcallee] at herror
    cases herror

end PointsTo
