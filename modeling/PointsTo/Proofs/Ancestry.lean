import PointsTo.Proofs.Faithfulness

namespace PointsTo

/-- What one relation can do step by step from related points, another one can do as well. -/
theorem exists_of_reflTransGen {α β : Type} {R : α → α → Prop} {S : β → β → Prop}
    {N : α → β → Prop} (hstep : ∀ a c, N a c → ∀ b, R a b → ∃ d, N b d ∧ S c d) {a b : α} {c : β}
    (hac : N a c) (h : Relation.ReflTransGen R a b) :
    ∃ d, N b d ∧ Relation.ReflTransGen S c d := by
  induction h with
  | refl => exact ⟨c, hac, .refl⟩
  | @tail x y _ hxy ih =>
    obtain ⟨d, hd, hpath⟩ := ih
    obtain ⟨e, he, hde⟩ := hstep x d hd y hxy
    exact ⟨e, he, hpath.tail hde⟩

theorem Program.SupertypesLinked.follows_eq {p : Program} (h : p.SupertypesLinked)
    (hlinked : p.LinksNamed) : Follows p.hierarchy.parents = p.HasParent := by
  funext c sup
  exact propext ⟨hlinked c sup, h c sup⟩

namespace Description

open Draft

variable {desc : Description} {d : Draft} {p : Program} {a b : String} {c sup : ClassId}

/-- The names of the direct supertypes of a class. A class that is only named is an ordinary class
that is given without superclass. -/
def parentNames (desc : Description) (name : String) : List String :=
  match desc.classes.find? (·.name = name) with
  | some c => (parent? c.superclass c.isInterface name).toList ++ c.interfaces.eraseDups
  | none => (parent? none false name).toList

/-- The supertypes of the classes are named when all is declared, and nothing is linked later but
the root class. -/
theorem Completed.linksNamed {stmts : List (MethodId × Stmt)} {start : Option MethodId}
    (hd : desc.AllDeclared d) (h : Completed d.program stmts start p) : p.LinksNamed := by
  obtain @⟨q, root, hq, -⟩ := h
  have hgrown := hq.grown.prepared start
  have hprepared : (q.prepared start).LinksNamed := by
    intro c sup hsup
    obtain ⟨l, hl, rfl, rfl⟩ := Program.mem_parents.mp hsup
    rw [hgrown.links] at hl
    have hparent := hd.linked l.sub l.sup (Program.mem_parents.mpr ⟨l, hl, rfl, rfl⟩)
    rw [Program.HasParent, hgrown.classDecl_eq (hd.registered.link hl).1]
    exact hparent
  exact hprepared.rooted hgrown.registered root

section Names

variable {stmts : List (MethodId × Stmt)} {start : Option MethodId} (hd : desc.AllDeclared d)
  (h : Completed d.program stmts start p) (hp : p.Represented)
include hd h hp

/-- A described class goes by its name and has its position for a number. -/
theorem Completed.names_described {i : Nat} {cl : Class} (hi : desc.classes[i]? = some cl) :
    p.Names cl.name ⟨i⟩ := by
  obtain ⟨hholds, hdecl⟩ := h.classDeclared hd hi
  exact hp.name.mpr ⟨hholds, hdecl.name⟩

theorem Completed.find?_eq_some {i : Nat} {cl : Class} (hi : desc.classes[i]? = some cl) :
    desc.classes.find? (·.name = cl.name) = some cl := by
  have hsome : (desc.classes.find? (·.name = cl.name)).isSome := by
    rw [List.find?_isSome]
    exact ⟨cl, List.mem_of_getElem? hi, decide_eq_true rfl⟩
  obtain ⟨cl', hfind⟩ := Option.isSome_iff_exists.mp hsome
  have hname := List.find?_some hfind
  rw [decide_eq_true_eq] at hname
  obtain ⟨j, hj⟩ := List.mem_iff_getElem?.mp (List.mem_of_find?_eq_some hfind)
  have hij : (⟨j⟩ : ClassId) = ⟨i⟩ := by
    have hnj := h.names_described hd hp hj
    rw [hname] at hnj
    exact Option.some.inj (hnj.symm.trans (h.names_described hd hp hi))
  rw [Id.mk.injEq] at hij
  rw [hfind, ← hi, ← hj, hij]

/-- The classes that a class inherits from are those of the names that the description gives. -/
theorem Completed.forall₂_parentNames (hn : p.Names a c) : List.Forall₂ p.Names (desc.parentNames a)
    ((p.classDecl c).superclass.toList ++ (p.classDecl c).interfaces.toList) := by
  obtain ⟨hc, hname⟩ := hp.name.mp hn
  by_cases hlt : c.index < desc.classes.length
  · have hi : desc.classes[c.index]? = some desc.classes[c.index] := List.getElem?_eq_getElem hlt
    obtain ⟨-, hdecl⟩ := h.classDeclared hd hi
    have ha : desc.classes[c.index].name = a := hdecl.name.symm.trans hname
    have hfind := h.find?_eq_some hd hp hi
    rw [ha] at hfind
    have hparent := hdecl.superclass
    rw [ha] at hparent
    rw [parentNames, hfind]
    exact List.rel_append hparent hdecl.interfaces
  · have hnamed := h.onlyNamed hd hp hc (Nat.not_lt.mp hlt)
    have hfind : desc.classes.find? (·.name = a) = none := by
      rw [List.find?_eq_none]
      intro cl hcl heq
      obtain ⟨j, hj⟩ := List.mem_iff_getElem?.mp hcl
      have hnj := h.names_described hd hp hj
      rw [of_decide_eq_true heq] at hnj
      have hcj : c = ⟨j⟩ := Option.some.inj (hn.symm.trans hnj)
      rw [hcj] at hlt
      exact hlt (List.getElem?_eq_some_iff.mp hj).1
    have hparent := hnamed.superclass
    rw [hname] at hparent
    rw [parentNames, hfind, hnamed.interfaces, Array.toList_empty, List.append_nil]
    exact hparent

/-- A step up the hierarchy and a step along the names of the description go together. -/
theorem Completed.hasParent_steps (hn : p.Names a c) :
    (∀ b, Follows desc.parentNames a b → ∃ sup, p.Names b sup ∧ p.HasParent c sup) ∧
      ∀ sup, p.HasParent c sup → ∃ b, p.Names b sup ∧ Follows desc.parentNames a b := by
  have hall := h.forall₂_parentNames hd hp hn
  have hmem {sup : ClassId} : p.HasParent c sup ↔
      sup ∈ (p.classDecl c).superclass.toList ++ (p.classDecl c).interfaces.toList := by
    rw [Program.HasParent, List.mem_append, Option.mem_toList, Array.mem_toList_iff]
  constructor
  · intro b hb
    obtain ⟨i, hi⟩ := List.mem_iff_getElem?.mp hb
    obtain ⟨sup, hsup, hname⟩ := exists_of_forall₂_left hall hi
    exact ⟨sup, hname, hmem.mpr (List.mem_of_getElem? hsup)⟩
  · intro sup hsup
    obtain ⟨i, hi⟩ := List.mem_iff_getElem?.mp (hmem.mp hsup)
    obtain ⟨b, hb, hname⟩ := exists_of_forall₂_right hall hi
    exact ⟨b, hname, List.mem_of_getElem? hb⟩

/-- The classes above a class are the classes of the names above its name. -/
theorem Completed.ancestors_iff (ha : p.Names a c) (hb : p.Names b sup) :
    Relation.ReflTransGen p.HasParent c sup ↔
      Relation.ReflTransGen (Follows desc.parentNames) a b := by
  constructor
  · intro hup
    obtain ⟨b', hb', hpath⟩ := exists_of_reflTransGen (N := fun c a => p.Names a c)
      (fun c a hn => (h.hasParent_steps hd hp hn).2) ha hup
    have heq : b' = b := (hp.name.mp hb').2.symm.trans (hp.name.mp hb).2
    rw [← heq]
    exact hpath
  · intro hup
    obtain ⟨sup', hsup', hpath⟩ := exists_of_reflTransGen (N := p.Names)
      (fun a c hn => (h.hasParent_steps hd hp hn).1) ha hup
    have heq : sup' = sup := Option.some.inj (hsup'.symm.trans hb)
    rw [← heq]
    exact hpath

end Names

/-- The walk up from a class of a loaded program meets exactly the classes that can be reached
through superclasses and interfaces, which are those of the description. -/
theorem supertypes_of_build (h : exec desc.build {} = (.ok p, d)) :
    (∀ c sup, sup ∈ p.hierarchy.supertypes c ↔
      p.classes.Holds c ∧ Relation.ReflTransGen p.HasParent c sup) ∧
    (∀ c sup, p.isSubtype c sup ↔ Relation.ReflTransGen p.HasParent c sup) ∧
    ∀ a b c sup, p.Names a c → p.Names b sup →
      (p.isSubtype c sup ↔ Relation.ReflTransGen (Follows desc.parentNames) a b) := by
  have hfinished := finished_of_build h
  obtain ⟨d₁, start, hd, -, hcompleted⟩ := completed_of_build h
  have hfollows := hfinished.supertypesLinked.follows_eq (hcompleted.linksNamed hd)
  have hsubtype (c sup : ClassId) :
      p.isSubtype c sup ↔ Relation.ReflTransGen p.HasParent c sup := by
    rw [hfinished.registered.isSubtype_iff, hfollows]
  refine ⟨fun c sup => ?_, hsubtype, fun a b c sup ha hb => ?_⟩
  · rw [hfinished.registered.mem_supertypes_iff, hfollows]
  · rw [hsubtype]
    exact hcompleted.ancestors_iff hd hfinished.edits.1.represented ha hb

/-- Two classes that inherit from each other, and an interface that is only named. -/
def circle : Description where
  classes := [
    { name := "Hen", superclass := some "Egg" },
    { name := "Egg", superclass := some "Hen", interfaces := ["Food"] }]

/-- The walk comes back to where it started, and it meets the root class above the class that is
only named. Nothing leads down again. -/
theorem supertypes_of_build_circle : (exec circle.build {}).1 = .ok circle.program ∧
    circle.program.Names "Hen" ⟨0⟩ ∧ circle.program.Names "Egg" ⟨1⟩ ∧
    circle.program.Names "Food" ⟨2⟩ ∧ circle.program.Names rootClassName ⟨3⟩ ∧
    ⟨0⟩ ∈ circle.program.hierarchy.supertypes ⟨1⟩ ∧ ⟨1⟩ ∈ circle.program.hierarchy.supertypes ⟨0⟩ ∧
    circle.program.isSubtype ⟨0⟩ ⟨3⟩ = true ∧ circle.program.isSubtype ⟨2⟩ ⟨1⟩ = false := by
  have hbuild : (exec circle.build {}).1 = .ok circle.program := exec_build (by decide +kernel)
  obtain ⟨hwalk, -, hnames⟩ := supertypes_of_build (d := (exec circle.build {}).2)
    (Prod.ext hbuild rfl)
  have hhen : circle.program.Names "Hen" ⟨0⟩ := by unfold Program.Names; decide +kernel
  have hegg : circle.program.Names "Egg" ⟨1⟩ := by unfold Program.Names; decide +kernel
  have hfood : circle.program.Names "Food" ⟨2⟩ := by unfold Program.Names; decide +kernel
  have hroot : circle.program.Names rootClassName ⟨3⟩ := by unfold Program.Names; decide +kernel
  have hup : Relation.ReflTransGen (Follows circle.parentNames) "Hen" rootClassName := by
    have h₁ : Follows circle.parentNames "Hen" "Egg" := by unfold Follows; decide
    have h₂ : Follows circle.parentNames "Egg" "Food" := by unfold Follows; decide
    have h₃ : Follows circle.parentNames "Food" rootClassName := by unfold Follows; decide
    exact .head h₁ (.head h₂ (.single h₃))
  have hdown : ¬Relation.ReflTransGen (Follows circle.parentNames) "Food" "Egg" := by
    intro h
    have habove (name : String)
        (h : Relation.ReflTransGen (Follows circle.parentNames) "Food" name) :
        name = "Food" ∨ name = rootClassName := by
      induction h with
      | refl => exact .inl rfl
      | tail _ hstep ih =>
        rcases ih with rfl | rfl
        · exact .inr (List.mem_singleton.mp hstep)
        · exact (List.not_mem_nil hstep).elim
    have hnot : ¬("Egg" = "Food" ∨ "Egg" = rootClassName) := by decide
    exact hnot (habove "Egg" h)
  have hstep₀ : circle.program.HasParent ⟨0⟩ ⟨1⟩ := .inl (by decide +kernel)
  have hstep₁ : circle.program.HasParent ⟨1⟩ ⟨0⟩ := .inl (by decide +kernel)
  have hholds : circle.program.classes.Holds ⟨0⟩ ∧ circle.program.classes.Holds ⟨1⟩ := by
    decide +kernel
  exact ⟨hbuild, hhen, hegg, hfood, hroot, (hwalk _ _).mpr ⟨hholds.2, .single hstep₁⟩,
    (hwalk _ _).mpr ⟨hholds.1, .single hstep₀⟩, (hnames _ _ _ _ hhen hroot).mpr hup,
    Bool.eq_false_iff.mpr fun h => hdown ((hnames _ _ _ _ hfood hegg).mp h)⟩

end Description

end PointsTo
