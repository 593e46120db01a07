import PointsTo.Proofs.Loading
import PointsTo.Proofs.Subtypes

namespace PointsTo

section Search

variable {α : Type} [DecidableEq α] {next : α → List α}

/-- What a search finds it puts behind what it has seen, and it finds nothing twice. -/
theorem exists_searchFrom_eq (next : α → List α) (fuel : Nat) (queue : List α) {seen : List α}
    (hseen : seen.Nodup) :
    ∃ found, searchFrom next fuel queue seen = seen ++ found ∧ (seen ++ found).Nodup := by
  have hstop {seen : List α} (hseen : seen.Nodup) :
      ∃ found, seen = seen ++ found ∧ (seen ++ found).Nodup := by
    refine ⟨[], (List.append_nil seen).symm, ?_⟩
    rw [List.append_nil]
    exact hseen
  induction fuel generalizing queue seen with
  | zero => exact hstop hseen
  | succ fuel ih =>
    cases queue with
    | nil => exact hstop hseen
    | cons x queue =>
      rw [searchFrom]
      generalize hfresh : (next x).eraseDups.filter (· ∉ seen) = fresh
      have hnodup : (seen ++ fresh).Nodup := by
        rw [← hfresh]
        apply List.nodup_append.mpr
        refine ⟨hseen, (nodup_eraseDups _).filter _, ?_⟩
        intro a ha b hb hab
        have hb := (List.mem_filter.mp hb).2
        exact of_decide_eq_true hb (hab ▸ ha)
      obtain ⟨found, heq, hall⟩ := ih (queue ++ fresh) hnodup
      refine ⟨fresh ++ found, ?_, ?_⟩
      · rw [heq, List.append_assoc]
      · rw [← List.append_assoc]
        exact hall

/-- A search begins with its root and meets no node twice. -/
theorem breadthFirst_nodup_head (next : α → List α) (fuel : Nat) (root : α) :
    (breadthFirst next fuel root).Nodup ∧ (breadthFirst next fuel root).head? = some root := by
  obtain ⟨found, heq, hnodup⟩ := exists_searchFrom_eq next fuel [root] (List.nodup_singleton root)
  rw [breadthFirst, heq]
  exact ⟨hnodup, rfl⟩

end Search

namespace Program

variable {p : Program} {c sub sup root : ClassId}

/-- A class is met from a supertype: it extends it, or the supertype is flagged as an interface. -/
def MetFrom (p : Program) (sub sup : ClassId) : Prop :=
  ∃ l ∈ p.hierarchy.links, l.sub = sub ∧ l.sup = sup ∧
    (l.kind = .extends ∨ (p.classDecl sup).isInterface)

theorem mem_directSubtypes_iff : sub ∈ p.directSubtypes sup ↔ p.MetFrom sub sup := by
  have hextends : sub ∈ p.hierarchy.directSubtypes .extends sup ↔
      ∃ l ∈ p.hierarchy.links, l.sup = sup ∧ l.kind = .extends ∧ l.sub = sub :=
    mem_directSubtypes
  have himplements : sub ∈ p.hierarchy.directSubtypes .implements sup ↔
      ∃ l ∈ p.hierarchy.links, l.sup = sup ∧ l.kind = .implements ∧ l.sub = sub :=
    mem_directSubtypes
  rw [directSubtypes, MetFrom]
  by_cases hflag : (p.classDecl sup).isInterface
  · rw [if_pos hflag, List.mem_append, hextends, himplements]
    constructor
    · intro h
      rcases h with ⟨l, hl, hsup, -, hsub⟩ | ⟨l, hl, hsup, -, hsub⟩
      · exact ⟨l, hl, hsub, hsup, .inr hflag⟩
      · exact ⟨l, hl, hsub, hsup, .inr hflag⟩
    · intro h
      obtain ⟨l, hl, hsub, hsup, -⟩ := h
      cases hk : l.kind with
      | «extends» => exact .inr ⟨l, hl, hsup, hk, hsub⟩
      | implements => exact .inl ⟨l, hl, hsup, hk, hsub⟩
  · rw [if_neg hflag, hextends]
    constructor
    · intro h
      obtain ⟨l, hl, hsup, hk, hsub⟩ := h
      exact ⟨l, hl, hsub, hsup, .inl hk⟩
    · intro h
      obtain ⟨l, hl, hsub, hsup, hk⟩ := h
      exact ⟨l, hl, hsup, hk.resolve_right hflag, hsub⟩

/-- The classes that a walk down from a class meets, seen from below. -/
theorem mem_possibleClasses_iff_metFrom :
    c ∈ p.possibleClasses root ↔ Relation.ReflTransGen p.MetFrom c root := by
  have hswap : Follows p.directSubtypes = Function.swap p.MetFrom := by
    funext sup sub
    exact propext mem_directSubtypes_iff
  rw [mem_possibleClasses_iff, hswap]
  exact Relation.reflTransGen_swap

theorem MetFrom.mem_parents (h : p.MetFrom sub sup) : sup ∈ p.hierarchy.parents sub := by
  obtain ⟨l, hl, hsub, hsup, -⟩ := h
  exact Program.mem_parents.mpr ⟨l, hl, hsub, hsup⟩

theorem Registered.isSubtype_of_mem_possibleClasses (hp : p.Registered)
    (h : c ∈ p.possibleClasses root) : p.isSubtype c root := by
  have hmet := mem_possibleClasses_iff_metFrom.mp h
  exact hp.isSubtype_iff.mpr (Relation.ReflTransGen.mono (fun _ _ h => h.mem_parents) _ _ hmet)

/-- A walk down meets all subtypes if no link to one of them is lost: it is not lost if the
supertype is flagged as an interface, or if the class is met on another way. -/
theorem Registered.forall_mem_possibleClasses_iff (hp : p.Registered) :
    (∀ c, c ∈ p.possibleClasses root ↔ p.isSubtype c root) ↔
      ∀ l ∈ p.hierarchy.links, l.kind = .implements → p.isSubtype l.sup root →
        (p.classDecl l.sup).isInterface ∨ l.sub ∈ p.possibleClasses root := by
  constructor
  · intro h l hl _ hsup
    right
    rw [h, hp.isSubtype_iff]
    apply Relation.ReflTransGen.head _ (reachable_of_isSubtype hsup)
    exact mem_parents.mpr ⟨l, hl, rfl, rfl⟩
  · intro h c
    refine ⟨hp.isSubtype_of_mem_possibleClasses, fun hc => ?_⟩
    have hchain := reachable_of_isSubtype hc
    induction hchain using Relation.ReflTransGen.head_induction_on with
    | refl => exact mem_possibleClasses_iff_metFrom.mpr .refl
    | head hlink habove ih =>
      have hsup := hp.isSubtype_iff.mpr habove
      have hmet {sub sup : ClassId} (hs : p.MetFrom sub sup) (hsup : sup ∈ p.possibleClasses root) :
          sub ∈ p.possibleClasses root :=
        mem_possibleClasses_iff_metFrom.mpr (.head hs (mem_possibleClasses_iff_metFrom.mp hsup))
      obtain ⟨l, hl, rfl, rfl⟩ := mem_parents.mp hlink
      cases hk : l.kind with
      | «extends» => exact hmet ⟨l, hl, rfl, rfl, .inl hk⟩ (ih hsup)
      | implements =>
        rcases h l hl hk hsup with hflag | hmem
        · exact hmet ⟨l, hl, rfl, rfl, .inr hflag⟩ (ih hsup)
        · exact hmem

/-- The classes that an object of static type `root` can have, each once and `root` first: the
subtypes that are linked to it by links to what is extended or is flagged as an interface. -/
theorem possibleClasses_subtypes {p : Program} (hp : p.Finished) (root : ClassId) :
    (p.possibleClasses root).Nodup ∧ (p.possibleClasses root).head? = some root ∧
    (∀ c, c ∈ p.possibleClasses root ↔ Relation.ReflTransGen p.MetFrom c root) ∧
    (∀ c ∈ p.possibleClasses root, p.isSubtype c root) ∧
    ((∀ c, c ∈ p.possibleClasses root ↔ p.isSubtype c root) ↔
      ∀ l ∈ p.hierarchy.links, l.kind = .implements → p.isSubtype l.sup root →
        (p.classDecl l.sup).isInterface ∨ l.sub ∈ p.possibleClasses root) ∧
    ((∀ c, ∀ i ∈ (p.classDecl c).interfaces, p.isSubtype i root → (p.classDecl i).isInterface) →
      ∀ c, c ∈ p.possibleClasses root ↔ p.isSubtype c root) := by
  obtain ⟨hnodup, hhead⟩ :=
    breadthFirst_nodup_head p.directSubtypes (p.hierarchy.links.size + 1) root
  have hregistered := hp.registered
  refine ⟨hnodup, hhead, fun c => mem_possibleClasses_iff_metFrom,
    fun c => hregistered.isSubtype_of_mem_possibleClasses,
    hregistered.forall_mem_possibleClasses_iff, ?_⟩
  intro hflags
  apply hregistered.forall_mem_possibleClasses_iff.mpr
  intro l hl hk hsup
  exact .inl (hflags l.sub l.sup (hp.listed.implements hl hk) hsup)

end Program

/-- An interface with a subinterface that a class implements, and a subclass of this class. -/
def Description.layers : Description where
  classes := [
    { name := "Shape", isInterface := true },
    { name := "Solid", isInterface := true, interfaces := ["Shape"] },
    { name := "Cube", interfaces := ["Solid"] },
    { name := "Die", superclass := some "Cube" }]

theorem Description.layers_finished : layers.program.Finished :=
  program_finished (by decide +kernel)

theorem possibleClasses_subtypes_layers :
    let p := Description.layers.program
    p.Finished ∧ ∃ shape die, p.findClass? "Shape" = some shape ∧ p.findClass? "Die" = some die ∧
      p.isSubtype die shape ∧ die ∈ p.possibleClasses shape := by
  intro p
  have hp : p.Finished := Description.layers_finished
  refine ⟨hp, ⟨0⟩, ⟨3⟩, by decide +kernel, by decide +kernel, ?_⟩
  have hsub : p.isSubtype ⟨3⟩ ⟨0⟩ := by
    rw [hp.registered.isSubtype_iff, ← Program.mem_walk_iff]
    decide +kernel
  have hflags : p.InterfacesFlagged := Program.interfacesFlagged_of_all (by decide +kernel)
  obtain ⟨-, -, -, -, -, hall⟩ := Program.possibleClasses_subtypes hp ⟨0⟩
  refine ⟨hsub, (hall ?_ ⟨3⟩).mpr hsub⟩
  intro c i hi _
  exact hflags c i hi

/-- A class that implements what is nowhere defined. -/
def Description.hollow : Description where
  classes := [{ name := "Cube", interfaces := ["Shape"] }]

/-- A subtype can be missed: nothing is known of what the class implements, and so it does not count
as an interface. -/
theorem possibleClasses_hollow :
    let p := Description.hollow.program
    p.Finished ∧ ∃ cube shape, p.findClass? "Cube" = some cube ∧ p.findClass? "Shape" = some shape ∧
      p.isSubtype cube shape ∧ cube ∉ p.possibleClasses shape := by
  intro p
  have hp : p.Finished := Description.program_finished (by decide +kernel)
  refine ⟨hp, ⟨0⟩, ⟨1⟩, by decide +kernel, by decide +kernel, ?_, ?_⟩
  · rw [hp.registered.isSubtype_iff, ← Program.mem_walk_iff]
    decide +kernel
  · intro hmem
    have hmet := Program.mem_possibleClasses_iff_metFrom.mp hmem
    rcases Relation.ReflTransGen.cases_tail hmet with heq | ⟨c, -, l, hl, -, hsup, hk⟩
    · revert heq
      decide
    · have hlinks : ∀ l ∈ p.hierarchy.links.toList, l.sup = ⟨1⟩ → l.kind ≠ .extends := by
        decide +kernel
      have hflag : ¬(p.classDecl ⟨1⟩).isInterface := by decide +kernel
      exact hk.elim (hlinks l (Array.mem_toList_iff.mpr hl) hsup) hflag

end PointsTo
