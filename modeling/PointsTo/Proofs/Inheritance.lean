import PointsTo.Proofs.Completion
import PointsTo.Proofs.DeclarationSteps

namespace PointsTo

/-- The supertypes that a class names. -/
def ClassDecl.supertypes (d : ClassDecl) : Option ClassId × Array ClassId :=
  (d.superclass, d.interfaces)

namespace Program

variable {p q : Program} {a b c sup : ClassId}

/-- A class names another one as its superclass or among its interfaces. -/
def HasParent (p : Program) (c sup : ClassId) : Prop :=
  (p.classDecl c).superclass = some sup ∨ sup ∈ (p.classDecl c).interfaces

/-- All that inheritance depends on: the links, and the supertypes that the classes name. -/
def lineage (p : Program) : Array Link × (ClassId → Option ClassId × Array ClassId) :=
  (p.hierarchy.links, fun c => (p.classDecl c).supertypes)

theorem mem_parents_congr (h : q.lineage = p.lineage) :
    sup ∈ q.hierarchy.parents c ↔ sup ∈ p.hierarchy.parents c := by
  have hlinks : q.hierarchy.links = p.hierarchy.links := congrArg Prod.fst h
  rw [mem_parents, mem_parents, hlinks]

theorem hasParent_congr (h : (q.classDecl c).supertypes = (p.classDecl c).supertypes) :
    q.HasParent c sup ↔ p.HasParent c sup := by
  have hsuper : (q.classDecl c).superclass = (p.classDecl c).superclass := congrArg Prod.fst h
  have hinterfaces : (q.classDecl c).interfaces = (p.classDecl c).interfaces :=
    congrArg Prod.snd h
  rw [HasParent, HasParent, hsuper, hinterfaces]

theorem not_hasParent_of_supertypes (h : (p.classDecl c).supertypes = (none, #[])) :
    ¬p.HasParent c sup := by
  obtain ⟨hsuper, hinterfaces⟩ := Prod.mk.inj h
  rw [HasParent, hsuper, hinterfaces]
  simp

theorem lineage_pushClass {decl : ClassDecl} (h : decl.supertypes = (none, #[])) :
    (p.pushClass decl).lineage = p.lineage := by
  refine Prod.ext Hierarchy.links_insertNode (funext fun i => ?_)
  exact Table.apply_get_push (g := ClassDecl.supertypes) h i

theorem lineage_modifyClass {f : ClassDecl → ClassDecl} (h : ∀ d, (f d).supertypes = d.supertypes) :
    (p.modifyClass c f).lineage = p.lineage := by
  refine Prod.ext rfl (funext fun i => ?_)
  exact Table.apply_get_modify (g := ClassDecl.supertypes) h

theorem lineage_mention (p : Program) (name : String) : (p.mention name).lineage = p.lineage := by
  cases hf : p.findClass? name with
  | some c => rw [mention_of_some hf]
  | none =>
    rw [mention_of_none hf]
    exact lineage_pushClass rfl

theorem lineage_pushMethod (p : Program) (decl : MethodDecl) :
    (p.pushMethod decl).lineage = p.lineage :=
  lineage_modifyClass (p := { p with methods := p.methods.push decl }) fun _ => rfl

/-- A class that gets a superclass names it in place of the one that it had. -/
theorem hasParent_adopt (hc : p.classes.Holds c) : (p.adopt sup c).HasParent a b ↔
    if c = a then b = sup ∨ b ∈ (p.classDecl a).interfaces else p.HasParent a b := by
  have hdecl : (p.adopt sup c).classDecl a =
      if c = a then { p.classDecl a with superclass := some sup } else p.classDecl a :=
    Table.get_modify hc
  rw [HasParent, hdecl]
  split
  · rw [Option.some.injEq, eq_comm]
  · rfl

theorem mem_parents_adopt : b ∈ (p.adopt sup c).hierarchy.parents a ↔
    b ∈ p.hierarchy.parents a ∨ a = c ∧ b = sup :=
  Hierarchy.mem_parents_insert

/-- Makes a class list an interface, unless it does already, and links the two. -/
def enlist (sup : ClassId) (kind : Inheritance) (p : Program) (c : ClassId) : Program :=
  (p.modifyClass c fun d => if d.interfaces.contains sup then d
    else { d with interfaces := d.interfaces.push sup }).link c sup kind

theorem hasParent_enlist (hc : p.classes.Holds c) {kind : Inheritance} :
    (p.enlist sup kind c).HasParent a b ↔ p.HasParent a b ∨ a = c ∧ b = sup := by
  have hdecl : (p.enlist sup kind c).classDecl a = if c = a then
      if (p.classDecl a).interfaces.contains sup then p.classDecl a
      else { p.classDecl a with interfaces := (p.classDecl a).interfaces.push sup }
      else p.classDecl a :=
    Table.get_modify hc
  rw [HasParent, hdecl, HasParent]
  by_cases hca : c = a
  · subst hca
    rw [if_pos rfl]
    split
    · next hmem =>
      have hsup : sup ∈ (p.classDecl c).interfaces := Array.contains_iff_mem.mp hmem
      constructor
      · exact Or.inl
      · rintro (h | ⟨-, rfl⟩)
        · exact h
        · exact .inr hsup
    · simp only [Array.mem_push]
      tauto
  · rw [if_neg hca]
    simp [Ne.symm hca]

theorem mem_parents_enlist {kind : Inheritance} :
    b ∈ (p.enlist sup kind c).hierarchy.parents a ↔
      b ∈ p.hierarchy.parents a ∨ a = c ∧ b = sup :=
  Hierarchy.mem_parents_insert

/-- A class is linked to every supertype that it names. -/
def SupertypesLinked (p : Program) : Prop :=
  ∀ c sup, p.HasParent c sup → sup ∈ p.hierarchy.parents c

/-- A class names every supertype that it is linked to. -/
def LinksNamed (p : Program) : Prop :=
  ∀ c sup, sup ∈ p.hierarchy.parents c → p.HasParent c sup

theorem SupertypesLinked.congr (hp : p.SupertypesLinked) (h : q.lineage = p.lineage) :
    q.SupertypesLinked := by
  intro c sup hparent
  have hsupertypes := congrFun (congrArg Prod.snd h) c
  rw [mem_parents_congr h]
  exact hp c sup ((hasParent_congr hsupertypes).mp hparent)

theorem LinksNamed.congr (hp : p.LinksNamed) (h : q.lineage = p.lineage) : q.LinksNamed := by
  intro c sup hlink
  have hsupertypes := congrFun (congrArg Prod.snd h) c
  rw [mem_parents_congr h] at hlink
  exact (hasParent_congr hsupertypes).mpr (hp c sup hlink)

theorem SupertypesLinked.adopt (hp : p.SupertypesLinked) (hc : p.classes.Holds c) :
    (p.adopt sup c).SupertypesLinked := by
  intro a b h
  rw [hasParent_adopt hc] at h
  rw [mem_parents_adopt]
  split at h
  · next hca =>
    rcases h with hb | hb
    · exact .inr ⟨hca.symm, hb⟩
    · exact .inl (hp a b (.inr hb))
  · exact .inl (hp a b h)

/-- The link to the superclass from before would stay, so there must be none. -/
theorem LinksNamed.adopt (hp : p.LinksNamed) (hc : p.classes.Holds c)
    (hnone : (p.classDecl c).superclass = none) : (p.adopt sup c).LinksNamed := by
  intro a b h
  rw [mem_parents_adopt] at h
  rw [hasParent_adopt hc]
  by_cases hca : c = a
  · subst hca
    rw [if_pos rfl]
    rcases h with hb | ⟨-, hb⟩
    · rcases hp c b hb with hsuper | hinterface
      · rw [hnone] at hsuper
        cases hsuper
      · exact .inr hinterface
    · exact .inl hb
  · rw [if_neg hca]
    rcases h with hb | ⟨hac, -⟩
    · exact hp a b hb
    · exact (hca hac.symm).elim

theorem SupertypesLinked.enlist (hp : p.SupertypesLinked) (hc : p.classes.Holds c)
    {kind : Inheritance} : (p.enlist sup kind c).SupertypesLinked := by
  intro a b h
  rw [hasParent_enlist hc] at h
  rw [mem_parents_enlist]
  exact h.imp_left (hp a b)

theorem LinksNamed.enlist (hp : p.LinksNamed) (hc : p.classes.Holds c) {kind : Inheritance} :
    (p.enlist sup kind c).LinksNamed := by
  intro a b h
  rw [mem_parents_enlist] at h
  rw [hasParent_enlist hc]
  exact h.imp_left (hp a b)

theorem SupertypesLinked.rooted (hp : p.SupertypesLinked) (hreg : p.Registered) (root : ClassId) :
    (p.rooted root).SupertypesLinked := by
  intro c sup h
  have hadopted := adopted_rooted hreg root
  rw [hadopted.parents]
  rw [HasParent, hadopted.classDecl] at h
  split at h
  · next horphan =>
    rcases h with hsuper | hinterface
    · exact .inr ⟨horphan, (Option.some.inj hsuper).symm⟩
    · exact .inl (hp c sup (.inr hinterface))
  · exact .inl (hp c sup h)

/-- The classes that get the root class as their superclass have had none. -/
theorem LinksNamed.rooted (hp : p.LinksNamed) (hreg : p.Registered) (root : ClassId) :
    (p.rooted root).LinksNamed := by
  intro c sup h
  have hadopted := adopted_rooted hreg root
  rw [hadopted.parents] at h
  rw [HasParent, hadopted.classDecl]
  by_cases horphan : c ∈ p.orphans root
  · rw [if_pos horphan]
    rcases h with hlink | ⟨-, hroot⟩
    · rcases hp c sup hlink with hsuper | hinterface
      · rw [((mem_orphans hreg).mp horphan).2.2.1] at hsuper
        cases hsuper
      · exact .inr hinterface
    · exact .inl (congrArg some hroot.symm)
  · rw [if_neg horphan]
    rcases h with hlink | ⟨hmem, -⟩
    · exact hp c sup hlink
    · exact (horphan hmem).elim

end Program

namespace Draft

variable {α : Type} {d : Draft}

theorem keepsLineage_addClass {decl : ClassDecl} (h : decl.supertypes = (none, #[])) :
    Keeps Program.lineage (addClass decl) := by
  intro d
  rw [exec_addClass_snd]
  exact Program.lineage_pushClass h

theorem keepsLineage_mentionClass (name : String) : Keeps Program.lineage (mentionClass name) :=
  keeps_mentionClass_of (fun _ _ => keepsLineage_addClass rfl) name

theorem keepsLineage_defineClass (name : String) (flags : ClassFlags) :
    Keeps Program.lineage (defineClass name flags) :=
  keeps_defineClass_of (fun _ _ _ => keepsLineage_addClass rfl)
    (fun _ _ _ => Program.lineage_modifyClass fun _ => rfl) name flags

theorem keepsLineage_declareField (c : ClassId) (name : String) (type : Ty) (flags : FieldFlags) :
    Keeps Program.lineage (declareField c name type flags) :=
  keeps_declareField_of (fun _ _ => Program.lineage_modifyClass fun _ => rfl) c name type flags

theorem keepsLineage_declareMethod (c : ClassId) (g : Signature) (flags : MethodFlags)
    (names : List String) : Keeps Program.lineage (declareMethod c g flags names) :=
  keeps_declareMethod_of Program.lineage_pushMethod (fun _ _ _ => rfl) (fun _ _ _ _ => rfl) c g
    flags names

theorem keepsLineage_appendStmt (m : MethodId) (stmt : Stmt) :
    Keeps Program.lineage (appendStmt m stmt) := by
  refine keeps_appendStmt_of keepsLineage_mentionClass fun p => ?_
  rw [Program.pushStmt_eq]
  rfl

/-- Only the calls that give a class a supertype are about inheritance, and they link it as well. -/
theorem Built.supertypesLinked (h : Built d) : d.program.SupertypesLinked := by
  induction h with
  | empty =>
    intro c sup h
    have hnone : (({} : Program).classDecl c).supertypes = (none, #[]) := rfl
    exact (Program.not_hasParent_of_supertypes hnone h).elim
  | @act d hd a ha ih =>
    have hreg : d.program.Registered := hd.edits.registered Program.registered_empty
    have hkept {β : Type} {x : Build β} (hx : Keeps Program.lineage x) :
        (exec (discard x) d).2.program.SupertypesLinked :=
      ih.congr (hx.discard d)
    cases a with
    | defineClass name flags => exact hkept (keepsLineage_defineClass name flags)
    | extendClass c name =>
      obtain ⟨sup, d', hx, -⟩ := extendClass_cases hd.ready ha name
      obtain ⟨-, hp⟩ := of_exec_extendClass hreg ha hx
      have hc := (Program.Grown.refl hreg).mention name |>.classes.holds ha
      rw [Action.run, exec_discard_snd, hx, hp]
      exact (ih.congr (d.program.lineage_mention name)).adopt hc
    | implement c name =>
      obtain ⟨sup, d', hx, -⟩ := implement_cases hd.ready ha name
      obtain ⟨-, kind, hp⟩ := of_exec_implement hreg ha hx
      have hc := (Program.Grown.refl hreg).mention name |>.classes.holds ha
      rw [Action.run, exec_discard_snd, hx, hp]
      exact (ih.congr (d.program.lineage_mention name)).enlist hc
    | declareField c name type flags => exact hkept (keepsLineage_declareField c name type flags)
    | declareMethod c g flags names => exact hkept (keepsLineage_declareMethod c g flags names)
    | declareLocal m name type =>
      exact hkept (keeps_declareLocal_of (fun _ _ _ _ => rfl) m name type)
    | referTo name g =>
      exact hkept ((keepsLineage_mentionClass name).bind fun _ => keeps_pure _)
    | startAt m => exact ih.congr rfl
    | appendStmt m stmt => exact hkept (keepsLineage_appendStmt m stmt)

end Draft

/-- When a program is finished, its classes are linked to all supertypes that they name. -/
theorem Program.Finished.supertypesLinked {p : Program} (h : p.Finished) :
    p.SupertypesLinked := by
  obtain ⟨d, d', hd, hx⟩ := h
  have hreg : d.program.Registered := hd.edits.registered Program.registered_empty
  obtain ⟨root, -, hp⟩ := Draft.exec_complete d hreg
  rw [hx] at hp
  have hp : p = (d.program.mention rootClassName).rooted root := Except.ok.inj hp
  rw [hp]
  have hmention := hd.supertypesLinked.congr (d.program.lineage_mention rootClassName)
  exact hmention.rooted (hreg.mention rootClassName) root

end PointsTo
