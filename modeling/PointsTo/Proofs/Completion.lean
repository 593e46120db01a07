import PointsTo.Proofs.Registry
import PointsTo.Proofs.Subtypes

namespace PointsTo

theorem Hierarchy.mem_parents_insert {h : Hierarchy} {sub sup c d : ClassId} {kind : Inheritance} :
    d ∈ (h.insert sub sup kind).parents c ↔ d ∈ h.parents c ∨ c = sub ∧ d = sup := by
  simp only [Hierarchy.parents, List.mem_map, List.mem_filter, decide_eq_true_eq,
    Array.mem_toList_iff, Hierarchy.insert]
  split
  · next hany =>
    obtain ⟨l, hl, hlink⟩ := Array.any_eq_true'.mp hany
    rw [decide_eq_true_eq] at hlink
    constructor
    · exact Or.inl
    · intro hor
      rcases hor with hmem | ⟨rfl, rfl⟩
      · exact hmem
      · exact ⟨l, ⟨hl, hlink.1⟩, hlink.2⟩
  · simp only [Array.mem_push]
    constructor
    · intro hmem
      obtain ⟨l, ⟨hl | rfl, hsub⟩, hsup⟩ := hmem
      · exact .inl ⟨l, ⟨hl, hsub⟩, hsup⟩
      · exact .inr ⟨hsub.symm, hsup.symm⟩
    · intro hor
      rcases hor with ⟨l, ⟨hl, hsub⟩, hsup⟩ | ⟨rfl, rfl⟩
      · exact ⟨l, ⟨.inl hl, hsub⟩, hsup⟩
      · exact ⟨_, ⟨.inr rfl, rfl⟩, rfl⟩

namespace Program

variable {p q : Program} {root c : ClassId}

/-- Makes the root class the superclass of a class. -/
def adopt (root : ClassId) (p : Program) (c : ClassId) : Program :=
  (p.modifyClass c fun d => { d with superclass := some root }).link c root .extends

/-- The classes that have no superclass but should have one. -/
def orphans (p : Program) (root : ClassId) : List ClassId :=
  (p.classes.toList.filter fun d =>
    d.id ≠ root ∧ d.superclass = none ∧ !d.isInterface).map (·.id)

/-- The program in which the root class is the superclass of all that had none. -/
def rooted (p : Program) (root : ClassId) : Program := (p.orphans root).foldl (adopt root) p

theorem nodes_rooted (p : Program) (root : ClassId) :
    (p.rooted root).hierarchy.nodes = p.hierarchy.nodes := by
  apply List.foldlRecOn (motive := fun q : Program => q.hierarchy.nodes = p.hierarchy.nodes)
  · rfl
  · intro q hq c _
    exact Hierarchy.nodes_insert.trans hq

theorem mem_orphans (h : p.Registered) : c ∈ p.orphans root ↔ p.classes.Holds c ∧ c ≠ root ∧
    (p.classDecl c).superclass = none ∧ (p.classDecl c).isInterface = false := by
  simp only [orphans, List.mem_map, List.mem_filter, Table.mem_toList, decide_eq_true_eq,
    Bool.not_eq_true']
  constructor
  · intro hmem
    obtain ⟨d, ⟨⟨i, hi⟩, hne, hsup, hinterface⟩, rfl⟩ := hmem
    have hholds := Table.holds_of_get? hi
    have hdecl : p.classDecl i = d := Table.get_of_get? hi
    have hid : d.id = i := hdecl ▸ h.id hholds
    rw [hid, hdecl]
    exact ⟨hholds, hid ▸ hne, hsup, hinterface⟩
  · intro hmem
    obtain ⟨hholds, hne, hsup, hinterface⟩ := hmem
    have hid := h.id hholds
    refine ⟨p.classDecl c, ⟨⟨c, Table.get?_of_holds hholds⟩, ?_, hsup, hinterface⟩, hid⟩
    rwa [hid]

theorem Registered.adopt (h : p.Registered) (hc : p.classes.Holds c)
    (hroot : p.classes.Holds root) : (p.adopt root c).Registered := by
  have hmodify : (p.modifyClass c fun d => { d with superclass := some root }).Registered :=
    h.modifyClass fun _ => ⟨rfl, rfl⟩
  have hlink : Edit _ (p.adopt root c) :=
    .link c root .extends nofun (Table.holds_modify.mpr hc) (Table.holds_modify.mpr hroot)
  exact hlink.registered hmodify

/-- `q` is `p` with the root class for superclass of the listed classes. -/
structure Adopted (root : ClassId) (l : List ClassId) (p q : Program) : Prop where
  rest : q = { p with classes := q.classes, hierarchy := q.hierarchy }
  size : q.classes.size = p.classes.size
  classDecl (c : ClassId) : q.classDecl c =
    if c ∈ l then { p.classDecl c with superclass := some root } else p.classDecl c
  parents {c sup : ClassId} :
    sup ∈ q.hierarchy.parents c ↔ sup ∈ p.hierarchy.parents c ∨ c ∈ l ∧ sup = root

/-- But for its superclass, a class is the same in both programs. -/
theorem Adopted.classDecl_eq {l : List ClassId} (h : Adopted root l p q) (c : ClassId) :
    q.classDecl c = { p.classDecl c with superclass := (q.classDecl c).superclass } := by
  rw [h.classDecl]
  split <;> rfl

theorem adopted_foldl (l : List ClassId) (hl : ∀ c ∈ l, p.classes.Holds c) :
    Adopted root l p (l.foldl (adopt root) p) := by
  induction l generalizing p with
  | nil => exact ⟨rfl, rfl, fun c => by simp, by simp⟩
  | cons i l ih =>
    have hi : p.classes.Holds i := hl i List.mem_cons_self
    have hsize : (p.adopt root i).classes.size = p.classes.size := Table.size_modify
    have hdecl (c : ClassId) : (p.adopt root i).classDecl c =
        if i = c then { p.classDecl c with superclass := some root } else p.classDecl c :=
      Table.get_modify hi
    have hparents {c sup : ClassId} : sup ∈ (p.adopt root i).hierarchy.parents c ↔
        sup ∈ p.hierarchy.parents c ∨ c = i ∧ sup = root :=
      Hierarchy.mem_parents_insert
    have hrest := ih (p := p.adopt root i) fun c hc =>
      Table.holds_modify.mpr (hl c (List.mem_cons_of_mem i hc))
    refine ⟨hrest.rest, hrest.size.trans hsize, fun c => ?_, ?_⟩
    · rw [List.foldl_cons, hrest.classDecl, hdecl]
      by_cases hci : i = c
      · subst hci
        by_cases hcl : i ∈ l <;> simp [hcl]
      · by_cases hcl : c ∈ l <;> simp [hcl, hci, Ne.symm hci]
    · intro c sup
      rw [List.foldl_cons, hrest.parents, hparents, List.mem_cons]
      tauto

theorem adopted_rooted (h : p.Registered) (root : ClassId) :
    Adopted root (p.orphans root) p (p.rooted root) :=
  adopted_foldl _ fun _ hc => ((mem_orphans h).mp hc).1

theorem findClass?_rooted (h : p.Registered) (root : ClassId) :
    (p.rooted root).findClass? = p.findClass? := by
  funext name
  rw [(adopted_rooted h root).rest]
  rfl

theorem holds_rooted (h : p.Registered) {root c : ClassId} :
    (p.rooted root).classes.Holds c ↔ p.classes.Holds c := by
  rw [Table.Holds, Table.Holds, (adopted_rooted h root).size]

end Program

namespace Draft

variable {d : Draft} {root : ClassId}

/-- A class gets the root class as its superclass. -/
theorem exec_extendClass_root (h : d.program.Registered)
    (hroot : d.program.findClass? rootClassName = some root) {c : ClassId}
    (hc : d.program.classes.Holds c) : exec (extendClass c rootClassName) d =
      (.ok root, { d with program := d.program.adopt root c }) := by
  have hlink := exec_inherit h.nodes hc (h.name.mp hroot).1
    (fun i => { i with superclass := some root }) .extends
  rw [extendClass, exec_bind, exec_mentionClass h.ready, hroot]
  simp only [exec_bind, exec_edit, hlink]
  rfl

theorem exec_adoptAll (h : d.program.Registered)
    (hroot : d.program.findClass? rootClassName = some root)
    (l : List ClassDecl) (hl : ∀ c ∈ l, d.program.classes.Holds c.id) :
    ∃ d', exec (l.forM fun c => do
        report (.rooting c.name)
        let _ ← extendClass c.id rootClassName) d = (.ok (), d') ∧
      d'.program = (l.map (·.id)).foldl (Program.adopt root) d.program := by
  induction l generalizing d with
  | nil => exact ⟨d, rfl, rfl⟩
  | cons c l ih =>
    let d₁ : Draft :=
      ⟨d.program.adopt root c.id, d.events.push (.rooting c.name)⟩
    have hc : d.program.classes.Holds c.id := hl c List.mem_cons_self
    obtain ⟨d', hrest, hp⟩ := ih (d := d₁) (h.adopt hc (h.name.mp hroot).1) hroot fun i hi =>
      Table.holds_modify.mpr (hl i (List.mem_cons_of_mem c hi))
    refine ⟨d', ?_, hp⟩
    have hfirst : exec (do
        report (.rooting c.name)
        let _ ← extendClass c.id rootClassName) d = (.ok PUnit.unit, d₁) := by
      have hextend := exec_extendClass_root
        (d := { d with events := d.events.push (.rooting c.name) }) h hroot hc
      rw [exec_bind, exec_report]
      dsimp only
      rw [exec_bind, hextend]
      rfl
    rw [List.forM, exec_bind, hfirst]
    exact hrest

theorem exec_reportAll {α : Type} (f : α → Event) (l : List α) :
    ∃ d', exec (l.forM fun a => report (f a)) d = (.ok (), d') ∧ d'.program = d.program := by
  induction l generalizing d with
  | nil => exact ⟨d, rfl, rfl⟩
  | cons a l ih =>
    obtain ⟨d', hrest, hp⟩ := ih (d := { d with events := d.events.push (f a) })
    refine ⟨d', ?_, hp⟩
    rw [List.forM, exec_bind, exec_report]
    exact hrest

/-- Completing a draft does not fail. -/
theorem exec_complete (d : Draft) (h : d.program.Registered) : ∃ root,
    (d.program.mention rootClassName).findClass? rootClassName = some root ∧
    (exec complete d).1 = .ok ((d.program.mention rootClassName).rooted root) := by
  obtain ⟨root, d₁, hmention, hp, hroot⟩ := exec_mentionClass_eq d h.ready rootClassName
  have h₁ : d₁.program.Registered := by
    rw [hp]
    exact h.mention rootClassName
  obtain ⟨d₂, hadopt, hp₂⟩ := exec_adoptAll h₁ hroot (d₁.program.classes.toList.filter fun c =>
    c.id ≠ root ∧ c.superclass = none ∧ !c.isInterface) fun c hc =>
      h₁.ready.ids c (List.mem_filter.mp hc).1
  obtain ⟨d₃, hreport, hp₃⟩ := exec_reportAll (d := d₂) Event.undefinedClass
    (d₂.program.undefinedClasses.filter (· ≠ rootClassName))
  rw [← hp]
  refine ⟨root, hroot, ?_⟩
  rw [complete, exec_bind, hmention]
  simp only [exec_bind, exec_getProgram, hadopt, hreport, exec_report, exec_pure]
  rw [hp₂]
  rfl

end Draft

end PointsTo
