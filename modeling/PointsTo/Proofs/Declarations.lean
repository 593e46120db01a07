import Mathlib.Data.List.Forall2
import PointsTo.Proofs.Inheritance

/-!
What the declarations of a description leave in the tables of a program. Every step adds the rows
that belong to what it declares, after the rows from before, and a class that is only named is added
after the described ones.
-/
namespace PointsTo

namespace Description

open Draft

variable {d d' : Draft} {p q : Program}

/-- The names of the supertypes of a class. -/
structure Supertypes where
  superclass : Option String := none
  interfaces : List String := []

/-- The classes of a program that is being built: first the described ones, and then those that are
only named. They have the supertypes that `sups` names. -/
structure Headed (classes : List Class) (sups : ClassId → Supertypes) (p : Program) : Prop where
  size : classes.length ≤ p.classes.size
  described {i : Nat} {c : Class} (h : classes[i]? = some c) :
    (p.classDecl ⟨i⟩).name = c.name ∧ (p.classDecl ⟨i⟩).flags = c.flags ∧
      (p.classDecl ⟨i⟩).defined = true
  named {i : ClassId} (hi : p.classes.Holds i) (h : classes.length ≤ i.index) :
    (p.classDecl i).flags = .none ∧ (p.classDecl i).defined = false
  superclass (i : ClassId) :
    List.Forall₂ p.Names (sups i).superclass.toList (p.classDecl i).superclass.toList
  interfaces (i : ClassId) :
    List.Forall₂ p.Names (sups i).interfaces (p.classDecl i).interfaces.toList

namespace Headed

variable {classes : List Class} {sups : ClassId → Supertypes} (h : Headed classes sups p)
include h

theorem holds {i : Nat} {c : Class} (hi : classes[i]? = some c) : p.classes.Holds ⟨i⟩ :=
  Nat.lt_of_lt_of_le (List.getElem?_eq_some_iff.mp hi).1 h.size

/-- The members of the classes do not matter. -/
theorem congr (hids : q.classIds = p.classIds) (hsize : q.classes.size = p.classes.size)
    (hclass : ∀ i, (q.classDecl i).heading = (p.classDecl i).heading) : Headed classes sups q := by
  simp only [ClassDecl.heading, Prod.mk.injEq] at hclass
  have hnames : q.Names = p.Names := by
    funext name c
    rw [Program.Names, Program.Names, Program.findClass?, Program.findClass?, hids]
  refine ⟨hsize ▸ h.size, fun {i c} hi => ?_, fun {i} hi hlen => ?_, fun i => ?_, fun i => ?_⟩
  · obtain ⟨hname, hflags, hdefined, -⟩ := hclass ⟨i⟩
    rw [hname, hflags, hdefined]
    exact h.described hi
  · obtain ⟨-, hflags, hdefined, -⟩ := hclass i
    rw [Table.Holds, hsize] at hi
    rw [hflags, hdefined]
    exact h.named hi hlen
  · rw [hnames, (hclass i).2.2.2.1]
    exact h.superclass i
  · rw [hnames, (hclass i).2.2.2.2]
    exact h.interfaces i

theorem mention (name : String) : Headed classes sups (p.mention name) := by
  have hnames (n : String) (c : ClassId) (hn : p.Names n c) : (p.mention name).Names n c := by
    have hfound : (p.mention? (some name)).findClass? n = some c := findClass?_of_mention? hn
    exact hfound
  cases hf : p.findClass? name with
  | some c =>
    rw [Program.mention_of_some hf]
    exact h
  | none =>
    rw [Program.mention_of_none hf] at hnames ⊢
    have hclass (i : ClassId) :
        (p.pushClass { id := p.classes.nextId, name, defined := false }).classDecl i =
          if i = p.classes.nextId then { id := p.classes.nextId, name, defined := false }
          else p.classDecl i := Table.get_push
    refine ⟨?_, fun {i c} hi => ?_, fun {i} hi hlen => ?_, fun i => ?_, fun i => ?_⟩
    · exact Nat.le_trans h.size (Nat.le_of_lt (Nat.lt_of_lt_of_eq (Nat.lt_succ_self _)
        Table.size_push.symm))
    · have hne : (⟨i⟩ : ClassId) ≠ p.classes.nextId := by
        intro he
        exact Table.not_holds_nextId (he ▸ h.holds hi)
      rw [hclass, if_neg hne]
      exact h.described hi
    · rw [hclass]
      split
      · exact ⟨rfl, rfl⟩
      · next hne => exact h.named ((Table.holds_push.mp hi).resolve_right hne) hlen
    · have hsuper : ((p.pushClass { id := p.classes.nextId, name, defined := false }).classDecl
          i).superclass = (p.classDecl i).superclass := by
        apply Table.apply_get_push (g := ClassDecl.superclass)
        rfl
      rw [hsuper]
      exact (h.superclass i).imp hnames
    · have hinterfaces : ((p.pushClass { id := p.classes.nextId, name, defined := false }).classDecl
          i).interfaces = (p.classDecl i).interfaces := by
        apply Table.apply_get_push (g := ClassDecl.interfaces)
        rfl
      rw [hinterfaces]
      exact (h.interfaces i).imp hnames

/-- A class gets other supertypes. -/
theorem modifyClass {i : ClassId} (hi : p.classes.Holds i) {f : ClassDecl → ClassDecl}
    {new : Supertypes}
    (hf : ∀ d, (f d).name = d.name ∧ (f d).flags = d.flags ∧ (f d).defined = d.defined)
    (hsuper : List.Forall₂ p.Names new.superclass.toList (f (p.classDecl i)).superclass.toList)
    (hinterfaces : List.Forall₂ p.Names new.interfaces (f (p.classDecl i)).interfaces.toList) :
    Headed classes (Function.update sups i new) (p.modifyClass i f) := by
  have hclass (j : ClassId) :
      (p.modifyClass i f).classDecl j = if i = j then f (p.classDecl j) else p.classDecl j :=
    Table.get_modify hi
  have hhead (j : ClassId) : ((p.modifyClass i f).classDecl j).name = (p.classDecl j).name ∧
      ((p.modifyClass i f).classDecl j).flags = (p.classDecl j).flags ∧
      ((p.modifyClass i f).classDecl j).defined = (p.classDecl j).defined := by
    rw [hclass]
    split
    · exact hf _
    · exact ⟨rfl, rfl, rfl⟩
  refine ⟨Table.size_modify.symm ▸ h.size, fun {j c} hj => ?_, fun {j} hj hlen => ?_,
    fun j => ?_, fun j => ?_⟩
  · rw [(hhead _).1, (hhead _).2.1, (hhead _).2.2]
    exact h.described hj
  · rw [(hhead _).2.1, (hhead _).2.2]
    exact h.named (Table.holds_modify.mp hj) hlen
  · rw [hclass]
    by_cases hij : i = j
    · subst hij
      rw [if_pos rfl, Function.update_self]
      exact hsuper
    · rw [if_neg hij, Function.update_of_ne (Ne.symm hij)]
      exact h.superclass j
  · rw [hclass]
    by_cases hij : i = j
    · subst hij
      rw [if_pos rfl, Function.update_self]
      exact hinterfaces
    · rw [if_neg hij, Function.update_of_ne (Ne.symm hij)]
      exact h.interfaces j

/-- A class gets a superclass, in place of any other. -/
theorem extend {i sup : ClassId} (hi : p.classes.Holds i) {name : String} (hn : p.Names name sup) :
    Headed classes (Function.update sups i { sups i with superclass := some name })
      (p.modifyClass i fun d => { d with superclass := some sup }) := by
  refine h.modifyClass hi (fun d => ⟨rfl, rfl, rfl⟩) ?_ (h.interfaces i)
  exact .cons hn .nil

/-- A name is listed if and only if its class is. -/
theorem mem_interfaces (hreg : p.Registered) {i sup : ClassId} {name : String}
    (hn : p.Names name sup) : sup ∈ (p.classDecl i).interfaces ↔ name ∈ (sups i).interfaces := by
  have hall := h.interfaces i
  rw [← Array.mem_toList_iff]
  generalize (p.classDecl i).interfaces.toList = ids at hall
  generalize (sups i).interfaces = names at hall
  induction hall with
  | nil => simp
  | @cons n c names ids hnc hrest ih =>
    have hiff : sup = c ↔ name = n := by
      constructor
      · intro he
        rw [← (hreg.name.mp hn).2, ← (hreg.name.mp hnc).2, he]
      · intro he
        subst he
        exact Option.some.inj (hn.symm.trans hnc)
    simp only [List.mem_cons, hiff, ih]

/-- A class gets an interface, unless it has it already. -/
theorem implement (hreg : p.Registered) {i sup : ClassId} (hi : p.classes.Holds i) {name : String}
    (hn : p.Names name sup) {done : List String} (hdone : (sups i).interfaces = done.eraseDups) :
    Headed classes
      (Function.update sups i { sups i with interfaces := (done ++ [name]).eraseDups })
      (p.modifyClass i fun d => if d.interfaces.contains sup then d
        else { d with interfaces := d.interfaces.push sup }) := by
  have hmem := h.mem_interfaces hreg (i := i) hn
  have hold := h.interfaces i
  rw [hdone] at hmem hold
  refine h.modifyClass hi (fun d => ?_) ?_ ?_
  · split
    · exact ⟨rfl, rfl, rfl⟩
    · exact ⟨rfl, rfl, rfl⟩
  · split
    · exact h.superclass i
    · exact h.superclass i
  · rw [eraseDups_concat]
    by_cases hin : name ∈ done
    · have hcontains : (p.classDecl i).interfaces.contains sup = true := by
        rw [Array.contains_iff_mem, hmem]
        exact List.mem_eraseDups.mpr hin
      rw [if_pos hin, if_pos hcontains]
      exact hold
    · have hcontains : ¬(p.classDecl i).interfaces.contains sup = true := by
        rw [Array.contains_iff_mem, hmem]
        exact fun hmem => hin (List.mem_eraseDups.mp hmem)
      rw [if_neg hin, if_neg hcontains, Array.toList_push]
      exact List.rel_append hold (.cons hn .nil)

end Headed

/-- A member of a described class, with the number of the class. -/
structure Member (α : Type) where
  number : Nat
  cls : Class
  item : α

/-- The members of all classes, in order. -/
def members {α : Type} (f : Class → List α) (classes : List Class) : List (Member α) :=
  classes.zipIdx.flatMap fun a => (f a.1).map fun x => ⟨a.2, a.1, x⟩

theorem members_concat {α : Type} (f : Class → List α) (classes : List Class) (c : Class) :
    members f (classes ++ [c]) =
      members f classes ++ (f c).map fun x => ⟨classes.length, c, x⟩ := by
  simp [members, List.zipIdx_append]

theorem map_item_members {α : Type} (f : Class → List α) (classes : List Class) :
    (members f classes).map Member.item = classes.flatMap f := by
  calc (members f classes).map Member.item
    _ = classes.zipIdx.flatMap fun a => f a.1 := by
      simp [members, List.map_flatMap, Function.comp_def]
    _ = (classes.zipIdx.map Prod.fst).flatMap f := by rw [List.flatMap_map]
    _ = classes.flatMap f := by rw [List.zipIdx_map_fst]

/-- A field is declared as it is described. -/
structure FieldDeclared (a : Member Field) (decl : FieldDecl) : Prop where
  cls : decl.cls = ⟨a.number⟩
  className : decl.className = a.cls.name
  name : decl.name = a.item.name
  type : Ty.parse? a.item.type = some decl.type
  flags : decl.flags = a.item.flags

/-- A method is declared as it is described. It has a receiver unless it is static, and a parameter
for each type of its signature. -/
structure MethodDeclared (a : Member Method) (decl : MethodDecl) : Prop where
  cls : decl.cls = ⟨a.number⟩
  className : decl.className = a.cls.name
  signature : Signature.parse? a.item.signature = some decl.signature
  flags : decl.flags = a.item.flags a.cls |||
    Flags.onlyIf decl.signature.isConstructor MethodFlags.isConstructor
  this : decl.this.isSome = !a.item.isStatic
  params : decl.params.size = decl.signature.params.length

def Local.read? (l : Local) : Option (String × Ty) :=
  (Ty.parse? l.type).map fun type => (l.name, type)

/-- The variables of a method in order: the receiver, the parameters and the locals. -/
def variables? (a : Member Method) : Option (List (String × Ty)) := do
  let g ← Signature.parse? a.item.signature
  let locals ← a.item.locals.mapM Local.read?
  return (if a.item.isStatic then [] else [("this", .ref a.cls.name)]) ++
    (paramNames a.item.params g.params.length).zip g.params ++ locals

/-- What is in some lists, one after the other, each with the number of its list. -/
def blocks {α : Type} (l : List (List α)) : List (Nat × α) :=
  l.zipIdx.flatMap fun a => a.1.map fun x => (a.2, x)

theorem blocks_concat {α : Type} (l : List (List α)) (b : List α) :
    blocks (l ++ [b]) = blocks l ++ b.map fun x => (l.length, x) := by
  simp [blocks, List.zipIdx_append]

theorem Method.has_isStatic (c : Class) (m : Method) (g : Signature) :
    (m.flags c ||| Flags.onlyIf g.isConstructor MethodFlags.isConstructor).has
      MethodFlags.isStatic = m.isStatic := by
  unfold Method.flags
  generalize g.isConstructor = b₁
  generalize (m.isAbstract || (c.isInterface && m.body.isEmpty && !m.isStatic)) = b₂
  generalize m.isNative = b₃
  generalize m.isStatic = b₄
  revert b₁ b₂ b₃ b₄
  decide

/-- The method that was added last gets its local variables. -/
theorem of_exec_locals {t : Table .method MethodDecl} {decl : MethodDecl} {locals : List Local}
    (hp : d.program.methods = t.push decl)
    (h : exec (locals.forM fun l => do
      let type ← Ty.parse l.type
      discard (declareLocal t.nextId l.name type)) d = (.ok (), d')) :
    ∃ decl' vs, locals.mapM Local.read? = some vs ∧
      Program.AddsVars t decl decl' vs d.program d'.program ∧
      decl'.this = decl.this ∧ decl'.params = decl.params := by
  let I (done : List Local) (d₁ : Draft) : Prop := ∃ decl' vs, done.mapM Local.read? = some vs ∧
    Program.AddsVars t decl decl' vs d.program d₁.program ∧
    decl'.this = decl.this ∧ decl'.params = decl.params
  have hI₀ : I [] d := ⟨decl, [], rfl, .refl hp, rfl, rfl⟩
  refine forM_induction (I := I) ?_ hI₀ h
  intro done l d₁ d₂ hI h
  obtain ⟨decl₁, vs, hvs, hadds, hthis, hparams⟩ := hI
  obtain ⟨type, htype, h⟩ := exists_of_exec_lift h
  obtain ⟨v, h⟩ := exists_of_exec_discard h
  obtain ⟨decl₂, hone, hthis₂, hparams₂⟩ :=
    Program.addsVars_pushVar hadds.methods l.name type
  have hread : l.read? = some (l.name, type) := by
    rw [Local.read?, ← Ty.toOption_parse, htype]
    rfl
  refine ⟨decl₂, vs ++ [(l.name, type)], mapM_concat hvs hread, ?_, hthis₂.trans hthis,
    hparams₂.trans hparams⟩
  rw [of_exec_declareLocal h]
  exact hadds.trans hone

/-- A described method is added with all its variables. -/
theorem of_exec_declare (hd : d.program.Counted) {id : ClassId} {c : Class} {m : Method}
    {k : MethodId} (hname : (d.program.classDecl id).name = c.name)
    (h : exec (m.declare id c) d = (.ok k, d')) :
    k = d.program.methods.nextId ∧ ∃ decl₀ decl vs, decl₀.cls = id ∧
      MethodDeclared ⟨id.index, c, m⟩ decl ∧ variables? ⟨id.index, c, m⟩ = some vs ∧
      Program.AddsVars d.program.methods decl₀ decl vs (d.program.pushMethod decl₀) d'.program := by
  rw [Method.declare] at h
  obtain ⟨g, hg, h⟩ := exists_of_exec_lift h
  rw [Signature.toOption_parse] at hg
  obtain ⟨i, d₁, hmethod, h⟩ := exists_of_exec_bind h
  obtain ⟨⟨⟩, d₂, hlocals, h⟩ := exists_of_exec_bind h
  cases h
  obtain ⟨rfl, decl₁, hadds₁, hthis₁, hparams₁⟩ := of_exec_declareMethod hd hmethod
  obtain ⟨decl₂, vs, hvs, hadds₂, hthis₂, hparams₂⟩ := of_exec_locals hadds₁.methods hlocals
  have hadds := hadds₁.trans hadds₂
  rw [Method.has_isStatic] at hadds hthis₁
  refine ⟨rfl, _, decl₂, _, rfl, ?_, ?_, hadds⟩
  · have hdecl := hadds.decl
    constructor
    · rw [hdecl]
    · rw [hdecl]
      exact hname
    · rw [hdecl]
      exact hg
    · rw [hdecl]
    · rw [hthis₂, hthis₁]
    · rw [hparams₂, hparams₁, hdecl]
  · rw [variables?, hg]
    simp only [Option.bind_eq_bind, Option.bind_some, hvs, hname]
    rfl

/-- What has been declared: the supertypes that `sups` names, some fields and some methods with
their variables. -/
structure Declared (classes : List Class) (sups : ClassId → Supertypes) (fs : List (Member Field))
    (ms : List (Member Method)) (d : Draft) : Prop where
  built : Built d
  entry : d.program.entry = none
  headed : Headed classes sups d.program
  linked : d.program.LinksNamed
  fields : List.Forall₂ FieldDeclared fs d.program.fields.toList
  fieldNames : (d.program.fields.toList.map fun f => (f.cls, f.name)).Nodup
  methods : List.Forall₂ MethodDeclared ms d.program.methods.toList
  vars : ∃ vss, List.Forall₂ (fun a vs => variables? a = some vs) ms vss ∧
    d.program.vars.toList.map VarDecl.row = (blocks vss).map fun a => (⟨a.1⟩, a.2)

namespace Declared

variable {classes : List Class} {sups : ClassId → Supertypes} {fs : List (Member Field)}
  {ms : List (Member Method)} {i : Nat} {c : Class}

theorem registered (h : Declared classes sups fs ms d) : d.program.Registered :=
  h.built.edits.registered Program.registered_empty

/-- Other supertypes of a class make no difference to fields, methods and variables. -/
theorem inherit (h : Declared classes sups fs ms d) (hb : Built d') {name : String}
    {i sup : ClassId} {f : ClassDecl → ClassDecl} {kind : Inheritance}
    (hp : d'.program = ((d.program.mention name).modifyClass i f).link i sup kind)
    {sups' : ClassId → Supertypes}
    (hd : Headed classes sups' ((d.program.mention name).modifyClass i f))
    (hlinked : d'.program.LinksNamed) : Declared classes sups' fs ms d' := by
  have hrest := d.program.mention_eq name
  have hentry : d'.program.entry = d.program.entry := by
    rw [hp, hrest]
    rfl
  have hfields : d'.program.fields = d.program.fields := by
    rw [hp, hrest]
    rfl
  have hmethods : d'.program.methods = d.program.methods := by
    rw [hp, hrest]
    rfl
  have hvars : d'.program.vars = d.program.vars := by
    rw [hp, hrest]
    rfl
  refine ⟨hb, hentry.trans h.entry, ?_, hlinked, hfields ▸ h.fields, hfields ▸ h.fieldNames,
    hmethods ▸ h.methods, hvars ▸ h.vars⟩
  rw [hp]
  exact hd.congr rfl rfl fun _ => rfl

/-- A class that gets its superclass must have none yet. -/
theorem extendClass (h : Declared classes sups fs ms d) (hc : classes[i]? = some c)
    (hnone : (sups ⟨i⟩).superclass = none) {name : String} {sup : ClassId}
    (hx : exec (extendClass ⟨i⟩ name) d = (.ok sup, d')) :
    Declared classes (Function.update sups ⟨i⟩ { sups ⟨i⟩ with superclass := some name }) fs ms
      d' := by
  have hi := h.headed.holds hc
  have hreg := h.registered
  obtain ⟨hb, -, -⟩ :=
    leads_action h.built (.extendClass ⟨i⟩ name) hi (exec_discard_snd _) sup d' hx
  obtain ⟨hn, hp⟩ := of_exec_extendClass hreg hi hx
  have hmention := h.headed.mention name
  have hold : ((d.program.mention name).classDecl ⟨i⟩).superclass = none := by
    have hsuper := hmention.superclass ⟨i⟩
    rw [hnone] at hsuper
    exact Option.toList_eq_nil_iff.mp (List.forall₂_nil_left_iff.mp hsuper)
  refine h.inherit hb hp (hmention.extend (hmention.holds hc) hn) ?_
  rw [hp]
  exact (h.linked.congr (d.program.lineage_mention name)).adopt (hmention.holds hc) hold

theorem implement (h : Declared classes sups fs ms d) (hc : classes[i]? = some c) {name : String}
    {done : List String} (hdone : (sups ⟨i⟩).interfaces = done.eraseDups) {sup : ClassId}
    (hx : exec (implement ⟨i⟩ name) d = (.ok sup, d')) :
    Declared classes
      (Function.update sups ⟨i⟩ { sups ⟨i⟩ with interfaces := (done ++ [name]).eraseDups }) fs ms
      d' := by
  have hi := h.headed.holds hc
  have hreg := h.registered
  obtain ⟨hb, -, -⟩ := leads_action h.built (.implement ⟨i⟩ name) hi (exec_discard_snd _) sup d' hx
  obtain ⟨hn, kind, hp⟩ := of_exec_implement hreg hi hx
  have hmention := h.headed.mention name
  refine h.inherit hb hp (hmention.implement (hreg.mention name) (hmention.holds hc) hn hdone) ?_
  rw [hp]
  exact (h.linked.congr (d.program.lineage_mention name)).enlist (hmention.holds hc)

/-- A class that has no field of a name yet. -/
theorem not_mem_fieldNames (h : Declared classes sups fs ms d) {name : String} {c : ClassId}
    (hnew : d.program.declaredField? c name = none) :
    (c, name) ∉ d.program.fields.toList.map fun f => (f.cls, f.name) := by
  intro hmem
  obtain ⟨f, hf, he⟩ := List.mem_map.mp hmem
  obtain ⟨i, hi⟩ := Table.mem_toList.mp hf
  obtain ⟨rfl, rfl⟩ := Prod.mk.inj he
  have hdecl : d.program.fields.get i = f := Table.get_of_get? hi
  have hlisted : i ∈ (d.program.classDecl f.cls).fields := by
    rw [(h.built.edits.represented.fields f.cls).mem_iff, Program.fieldDecl, hdecl]
    exact ⟨Table.holds_of_get? hi, decide_eq_true rfl⟩
  have hnot := List.find?_eq_none.mp hnew i (Array.mem_toList_iff.mpr hlisted)
  exact hnot (decide_eq_true (congrArg FieldDecl.name hdecl))

theorem declareField (h : Declared classes sups fs ms d) (hc : classes[i]? = some c) {f : Field}
    {type : Ty} (htype : Ty.parse? f.type = some type) {id : FieldId}
    (hx : exec (declareField ⟨i⟩ f.name type f.flags) d = (.ok id, d')) :
    Declared classes sups (fs ++ [⟨i, c, f⟩]) ms d' := by
  have hi := h.headed.holds hc
  obtain ⟨hb, -, -⟩ := leads_action h.built (.declareField ⟨i⟩ f.name type f.flags) hi
    (exec_discard_snd _) id d' hx
  obtain ⟨hnew, hp⟩ := of_exec_declareField h.registered.counted hx
  have hname := (h.headed.described hc).1
  let decl : FieldDecl :=
    { id := d.program.fields.nextId, cls := ⟨i⟩, className := (d.program.classDecl ⟨i⟩).name
      name := f.name, type, flags := f.flags }
  have hfields : d'.program.fields.toList = d.program.fields.toList ++ [decl] := by
    rw [hp]
    exact Table.toList_push
  refine ⟨hb, ?_, ?_, ?_, ?_, ?_, ?_, ?_⟩
  · rw [hp]
    exact h.entry
  · rw [hp]
    exact h.headed.congr rfl Table.size_modify fun j => Table.apply_get_modify fun _ => rfl
  · rw [hp]
    exact h.linked.congr (Program.lineage_modifyClass fun _ => rfl)
  · rw [hfields]
    exact List.rel_append h.fields (.cons ⟨rfl, hname, rfl, htype, rfl⟩ .nil)
  · rw [hfields, List.map_append, List.nodup_append]
    refine ⟨h.fieldNames, List.nodup_singleton _, ?_⟩
    intro a ha b hb
    rw [List.mem_singleton.mp hb]
    intro he
    rw [he] at ha
    exact h.not_mem_fieldNames hnew ha
  · rw [hp]
    exact h.methods
  · rw [hp]
    exact h.vars

theorem leads_method (hb : Built d) {id : ClassId} (hid : d.program.classes.Holds id) (c : Class)
    (m : Method) : Leads (m.declare id c) d fun _ _ => True := by
  refine (leads_lift hb _).bind fun g d₁ hb₁ hw₁ _ => ?_
  have hid₁ : d₁.program.classes.Holds id := Nat.lt_of_lt_of_le hid hw₁.classes
  refine (leads_declareMethod hb₁ hid₁ g (m.flags c) m.params).bind fun i d₂ hb₂ _ hi => ?_
  refine (Leads.forM hb₂ fun l _ d₃ hb₃ hw₃ => ?_).bind fun _ d₃ hb₃ _ _ => leads_pure hb₃ trivial
  refine (leads_lift hb₃ _).bind fun type d₄ hb₄ hw₄ _ => leads_discard ?_
  exact leads_action hb₄ (.declareLocal i l.name type)
    (Nat.lt_of_lt_of_le hi (hw₃.trans hw₄).methods) (exec_discard_snd _)

theorem declareMethod (h : Declared classes sups fs ms d) (hc : classes[i]? = some c) {m : Method}
    {k : MethodId} (hx : exec (m.declare ⟨i⟩ c) d = (.ok k, d')) :
    k = ⟨ms.length⟩ ∧ Declared classes sups fs (ms ++ [⟨i, c, m⟩]) d' := by
  have hi := h.headed.holds hc
  obtain ⟨hb, -, -⟩ := leads_method h.built hi c m k d' hx
  obtain ⟨hk, decl₀, decl, vs, hcls, hdecl, hvs, hadds⟩ :=
    of_exec_declare h.registered.counted (h.headed.described hc).1 hx
  have hlen : ms.length = d.program.methods.size := by
    rw [h.methods.length_eq, Table.length_toList]
  obtain ⟨vss, hvss, hrows⟩ := h.vars
  refine ⟨by rw [hk, hlen]; rfl, hb, ?_, ?_, ?_, ?_, ?_, ?_, vss ++ [vs], ?_, ?_⟩
  · rw [hadds.rest]
    exact h.entry
  · rw [hadds.rest]
    refine h.headed.congr rfl Table.size_modify fun j => ?_
    exact Table.apply_get_modify (g := ClassDecl.heading) fun _ => rfl
  · have hlineage : d'.program.lineage = (d.program.pushMethod decl₀).lineage := by
      rw [hadds.rest]
      rfl
    exact h.linked.congr (hlineage.trans (d.program.lineage_pushMethod decl₀))
  · rw [hadds.rest]
    exact h.fields
  · rw [hadds.rest]
    exact h.fieldNames
  · rw [hadds.methods, Table.toList_push]
    exact List.rel_append h.methods (.cons hdecl .nil)
  · exact List.rel_append hvss (.cons hvs .nil)
  · have hnext : d.program.methods.nextId = ⟨vss.length⟩ := by
      rw [Table.nextId, ← hlen, hvss.length_eq]
    have hold : (d.program.pushMethod decl₀).vars = d.program.vars := rfl
    rw [hadds.rows, hold, hrows, blocks_concat, List.map_append, List.map_map, hnext]
    rfl

theorem declareInterfaces {superclass : Option String}
    (h : Declared classes (Function.update sups ⟨i⟩ ⟨superclass, []⟩) fs ms d)
    (hc : classes[i]? = some c) {names : List String}
    (hx : exec (names.forM fun name => discard (Draft.implement ⟨i⟩ name)) d = (.ok (), d')) :
    Declared classes (Function.update sups ⟨i⟩ ⟨superclass, names.eraseDups⟩) fs ms d' := by
  refine forM_induction (I := fun done d =>
    Declared classes (Function.update sups ⟨i⟩ ⟨superclass, done.eraseDups⟩) fs ms d) ?_ h hx
  intro done name d₁ d₂ h₁ hx₁
  obtain ⟨sup, hx₁⟩ := exists_of_exec_discard hx₁
  have hdone : (Function.update sups ⟨i⟩ ⟨superclass, done.eraseDups⟩ ⟨i⟩).interfaces =
      done.eraseDups := by rw [Function.update_self]
  have hnext := h₁.implement hc hdone hx₁
  rwa [Function.update_self, Function.update_idem] at hnext

theorem declareFields (h : Declared classes sups fs ms d) (hc : classes[i]? = some c)
    {fields : List Field} (hx : exec (fields.forM fun f => do
      let type ← Ty.parse f.type
      discard (Draft.declareField ⟨i⟩ f.name type f.flags)) d = (.ok (), d')) :
    Declared classes sups (fs ++ fields.map fun f => ⟨i, c, f⟩) ms d' := by
  refine forM_induction (I := fun done d =>
    Declared classes sups (fs ++ done.map fun f => ⟨i, c, f⟩) ms d) ?_ ?_ hx
  · intro done f d₁ d₂ h₁ hx₁
    obtain ⟨type, htype, hx₁⟩ := exists_of_exec_lift hx₁
    rw [Ty.toOption_parse] at htype
    obtain ⟨id, hx₁⟩ := exists_of_exec_discard hx₁
    have hnext := h₁.declareField hc htype hx₁
    rwa [List.append_assoc, ← List.map_singleton (f := fun f => (⟨i, c, f⟩ : Member Field)),
      ← List.map_append] at hnext
  · rwa [List.map_nil, List.append_nil]

/-- The supertypes of a class and its fields are declared one after the other. -/
theorem declareHead (h : Declared classes sups fs ms d) (hc : classes[i]? = some c)
    (hsups : sups ⟨i⟩ = {}) (hx : exec (c.declareHead ⟨i⟩) d = (.ok (), d')) :
    Declared classes (Function.update sups ⟨i⟩ ⟨c.superclass, c.interfaces.eraseDups⟩)
      (fs ++ c.fields.map fun f => ⟨i, c, f⟩) ms d' := by
  rw [Class.declareHead] at hx
  cases hsup : c.superclass with
  | none =>
    rw [hsup] at hx
    obtain ⟨⟨⟩, d₁, hinterfaces, hx⟩ := exists_of_exec_bind hx
    have hstart : Function.update sups ⟨i⟩ ⟨none, []⟩ = sups := by
      rw [← Function.update_eq_self (⟨i⟩ : ClassId) sups, hsups, Function.update_idem]
    rw [← hstart] at h
    exact (h.declareInterfaces hc hinterfaces).declareFields hc hx
  | some name =>
    rw [hsup] at hx
    obtain ⟨sup, d₁, hextend, hx⟩ := exists_of_exec_bind hx
    obtain ⟨⟨⟩, d₂, hinterfaces, hx⟩ := exists_of_exec_bind hx
    have hfirst := h.extendClass hc (by rw [hsups]) hextend
    rw [hsups] at hfirst
    exact (hfirst.declareInterfaces hc hinterfaces).declareFields hc hx

/-- The methods of a class are declared one after the other, and get the next numbers. -/
theorem declareMethods (h : Declared classes sups fs ms d) (hc : classes[i]? = some c)
    {methods : List Method} {r : List (MethodId × Method)}
    (hx : exec (methods.mapM fun m => do return (← m.declare ⟨i⟩ c, m)) d = (.ok r, d')) :
    r = (methods.zipIdx ms.length).map (fun a => (⟨a.2⟩, a.1)) ∧
      Declared classes sups fs (ms ++ methods.map fun m => ⟨i, c, m⟩) d' := by
  refine mapM_induction (I := fun done out d =>
    out = (done.zipIdx ms.length).map (fun a => (⟨a.2⟩, a.1)) ∧
      Declared classes sups fs (ms ++ done.map fun m => ⟨i, c, m⟩) d) ?_ ?_ hx
  · intro done m rest out d₁ a d₂ hsplit hI hx₁
    obtain ⟨rfl, h₁⟩ := hI
    obtain ⟨k, d₃, hk, hx₁⟩ := exists_of_exec_bind hx₁
    cases hx₁
    obtain ⟨rfl, hnext⟩ := h₁.declareMethod hc hk
    rw [List.append_assoc, ← List.map_singleton (f := fun m => (⟨i, c, m⟩ : Member Method)),
      ← List.map_append] at hnext
    refine ⟨?_, hnext⟩
    simp [List.zipIdx_append]
  · refine ⟨rfl, ?_⟩
    rwa [List.map_nil, List.append_nil]

theorem declare (h : Declared classes sups fs ms d) (hc : classes[i]? = some c)
    (hsups : sups ⟨i⟩ = {}) {r : List (MethodId × Method)}
    (hx : exec (c.declare ⟨i⟩) d = (.ok r, d')) :
    r = (c.methods.zipIdx ms.length).map (fun a => (⟨a.2⟩, a.1)) ∧
      Declared classes (Function.update sups ⟨i⟩ ⟨c.superclass, c.interfaces.eraseDups⟩)
        (fs ++ c.fields.map fun f => ⟨i, c, f⟩) (ms ++ c.methods.map fun m => ⟨i, c, m⟩) d' := by
  rw [Class.declare_eq] at hx
  obtain ⟨⟨⟩, d₁, hhead, hx⟩ := exists_of_exec_bind hx
  exact (h.declareHead hc hsups hhead).declareMethods hc hx

end Declared

/-- The supertypes that the classes are described with. -/
def supertypes (classes : List Class) (i : ClassId) : Supertypes :=
  (classes[i.index]?.map fun c => ⟨c.superclass, c.interfaces.eraseDups⟩).getD {}

theorem supertypes_concat (classes : List Class) (c : Class) :
    supertypes (classes ++ [c]) = Function.update (supertypes classes) ⟨classes.length⟩
      ⟨c.superclass, c.interfaces.eraseDups⟩ := by
  funext j
  by_cases hj : j = ⟨classes.length⟩
  · rw [hj, Function.update_self, supertypes, List.getElem?_concat_length]
    rfl
  · have hne : j.index ≠ classes.length := fun he => hj (Id.ext he)
    rw [Function.update_of_ne hj, supertypes, supertypes]
    by_cases hlt : j.index < classes.length
    · rw [List.getElem?_append_left hlt]
    · rw [List.getElem?_eq_none (by rw [List.length_append, List.length_singleton]; omega),
        List.getElem?_eq_none (by omega)]

/-- All members of all classes are declared. -/
theorem declared_of_declares {desc : Description} {mss : List (List (MethodId × Method))}
    (h : Declared desc.classes (fun _ => {}) [] [] d)
    (hx : exec ((desc.classes.zipIdx.map fun a => ((⟨a.2⟩ : ClassId), a.1)).mapM
      fun a => a.2.declare a.1) d = (.ok mss, d')) :
    mss.flatten = desc.methods.zipIdx.map (fun a => (⟨a.2⟩, a.1)) ∧
      Declared desc.classes (supertypes desc.classes) (members Class.fields desc.classes)
        (members Class.methods desc.classes) d' := by
  let I (cs : List Class) (out : List (List (MethodId × Method))) (d : Draft) : Prop :=
    out.flatten = (cs.flatMap Class.methods).zipIdx.map (fun a => (⟨a.2⟩, a.1)) ∧
      Declared desc.classes (supertypes cs) (members Class.fields cs) (members Class.methods cs) d
  have hall := mapM_induction (I := fun done out d => I (done.map Prod.snd) out d) ?_ ?_ hx
  · have hclasses : (desc.classes.zipIdx.map fun a => ((⟨a.2⟩ : ClassId), a.1)).map Prod.snd =
        desc.classes := by
      rw [List.map_map]
      exact List.zipIdx_map_fst 0 desc.classes
    rw [hclasses] at hall
    exact hall
  · intro done a rest out d₁ r d₂ hsplit hI hr
    obtain ⟨hout, h₁⟩ := hI
    have hget :
        (desc.classes.zipIdx.map fun a => ((⟨a.2⟩ : ClassId), a.1))[done.length]? = some a := by
      rw [hsplit]
      simp
    obtain ⟨c, hc, ha⟩ : ∃ c, desc.classes[done.length]? = some c ∧ a = (⟨done.length⟩, c) := by
      simpa [eq_comm] using hget
    subst ha
    have hlen : (done.map Prod.snd).length = done.length := List.length_map ..
    have hsups : supertypes (done.map Prod.snd) ⟨done.length⟩ = {} := by
      rw [supertypes, List.getElem?_eq_none (Nat.le_of_eq hlen)]
      rfl
    obtain ⟨hr, h₂⟩ := h₁.declare hc hsups hr
    have hcount : (members Class.methods (done.map Prod.snd)).length =
        ((done.map Prod.snd).flatMap Class.methods).length := by
      rw [← map_item_members, List.length_map]
    constructor
    · rw [List.flatten_append, hout, List.flatten_singleton, hr, hcount, List.map_append,
        List.flatMap_append, List.zipIdx_append, List.map_append]
      simp
    · rw [List.map_append, List.map_singleton, supertypes_concat, members_concat, members_concat,
        hlen]
      exact h₂
  · exact ⟨rfl, h⟩

/-- The described classes are defined one after the other. -/
structure Defined (done : List Class) (d : Draft) : Prop where
  built : Built d
  size : d.program.classes.size = done.length
  described {i : Nat} {c : Class} (h : done[i]? = some c) :
    d.program.classDecl ⟨i⟩ = { id := ⟨i⟩, name := c.name, flags := c.flags }
  entry : d.program.entry = none
  links : d.program.hierarchy.links = #[]
  fields : d.program.fields = {}
  bodies : d.program.bodies = ({}, {}, {}, {})

theorem Defined.defineClass {done : List Class} (h : Defined done d) {c : Class} {id : ClassId}
    (hx : exec (defineClass c.name c.flags) d = (.ok id, d')) :
    id = ⟨done.length⟩ ∧ Defined (done ++ [c]) d' := by
  have hreg : d.program.Registered := h.built.edits.registered Program.registered_empty
  have hdefined (i : ClassId) (hi : d.program.classes.Holds i) :
      (d.program.classDecl i).defined = true := by
    rw [Table.Holds, h.size] at hi
    rw [h.described (List.getElem?_eq_getElem hi)]
  obtain ⟨hb, -, -⟩ := leads_defineClass h.built c.name c.flags id d' hx
  obtain ⟨rfl, hp⟩ := of_exec_defineClass hreg hdefined hx
  have hnext : d.program.classes.nextId = ⟨done.length⟩ := by rw [Table.nextId, h.size]
  refine ⟨hnext, hb, ?_, ?_, ?_, ?_, ?_, ?_⟩
  · rw [hp]
    change (d.program.classes.push _).size = _
    rw [Table.size_push, h.size, List.length_append, List.length_singleton]
  · intro i c' hi
    have hclass : d'.program.classDecl ⟨i⟩ = if (⟨i⟩ : ClassId) = d.program.classes.nextId then
        { id := d.program.classes.nextId, name := c.name, flags := c.flags }
        else d.program.classDecl ⟨i⟩ := by
      rw [hp]
      exact Table.get_push
    rw [hclass, hnext]
    by_cases he : i = done.length
    · subst he
      rw [List.getElem?_concat_length] at hi
      rw [if_pos rfl, ← Option.some.inj hi]
    · have hlt : i < done.length := by
        have hbound := (List.getElem?_eq_some_iff.mp hi).1
        rw [List.length_append, List.length_singleton] at hbound
        omega
      rw [List.getElem?_append_left hlt] at hi
      rw [if_neg fun he' => he (congrArg Id.index he')]
      exact h.described hi
  · rw [hp]
    exact h.entry
  · rw [hp]
    exact Hierarchy.links_insertNode.trans h.links
  · rw [hp]
    exact h.fields
  · rw [hp]
    exact h.bodies

theorem Defined.declared {desc : Description} (h : Defined desc.classes d) :
    Declared desc.classes (fun _ => {}) [] [] d := by
  have hempty (i : ClassId) : (d.program.classDecl i).superclass = none ∧
      (d.program.classDecl i).interfaces = #[] := by
    by_cases hi : d.program.classes.Holds i
    · have hlt : i.index < desc.classes.length := by
        rw [Table.Holds, h.size] at hi
        exact hi
      rw [h.described (i := i.index) (List.getElem?_eq_getElem hlt)]
      exact ⟨rfl, rfl⟩
    · rw [Program.classDecl, Table.get_of_not_holds hi]
      exact ⟨rfl, rfl⟩
  have hlinked : d.program.LinksNamed := by
    intro c sup hsup
    obtain ⟨l, hl, -, -⟩ := Program.mem_parents.mp hsup
    rw [h.links] at hl
    exact (Array.not_mem_empty _ hl).elim
  have hmethods : d.program.methods = {} := congrArg Prod.fst h.bodies
  have hvars : d.program.vars = {} := congrArg (·.2.1) h.bodies
  refine ⟨h.built, h.entry, ⟨Nat.le_of_eq h.size.symm, fun {i c} hi => ?_,
    fun {i} hi hlen => ?_, fun i => ?_, fun i => ?_⟩, hlinked, ?_, ?_, ?_, [], .nil, ?_⟩
  · rw [h.described hi]
    exact ⟨rfl, rfl, rfl⟩
  · rw [Table.Holds, h.size] at hi
    omega
  · rw [(hempty i).1]
    exact .nil
  · rw [(hempty i).2]
    exact .nil
  · rw [h.fields]
    exact .nil
  · rw [h.fields]
    exact List.nodup_nil
  · rw [hmethods]
    exact .nil
  · rw [hvars]
    rfl

/-- After the first pass the classes are defined, and numbered in order. -/
theorem defined_all {classes : List Class} {ids : List ClassId}
    (h : exec (classes.mapM fun c => defineClass c.name c.flags) {} = (.ok ids, d)) :
    ids = (List.range classes.length).map (Id.mk (κ := .cls)) ∧ Defined classes d := by
  refine mapM_induction (I := fun done out d =>
    out = (List.range done.length).map (Id.mk (κ := .cls)) ∧ Defined done d) ?_ ?_ h
  · intro done c rest out d₁ id d₂ hsplit hI hx
    obtain ⟨rfl, hI⟩ := hI
    obtain ⟨rfl, hnext⟩ := hI.defineClass hx
    refine ⟨?_, hnext⟩
    simp [List.range_succ]
  · exact ⟨rfl, .empty, rfl, fun h => by simp at h, rfl, rfl, rfl, rfl⟩

theorem zip_range_eq {α : Type} (l : List α) :
    ((List.range l.length).map (Id.mk (κ := .cls))).zip l =
      l.zipIdx.map fun a => ((⟨a.2⟩ : ClassId), a.1) := by
  rw [List.zipIdx_eq_zip_range', ← List.range_eq_range', ← List.zip_swap, List.zip_map_right,
    List.map_map]
  rfl

/-- After the first two passes all is declared, and the methods are numbered in order. -/
theorem declared_all {desc : Description} {ms : List (MethodId × Method)}
    (h : exec desc.declareAll {} = (.ok ms, d)) :
    ms = desc.methods.zipIdx.map (fun a => (⟨a.2⟩, a.1)) ∧
      Declared desc.classes (supertypes desc.classes) (members Class.fields desc.classes)
        (members Class.methods desc.classes) d := by
  obtain ⟨ids, d₁, hids, h⟩ := exists_of_exec_bind h
  obtain ⟨mss, d₂, hmss, h⟩ := exists_of_exec_bind h
  cases h
  obtain ⟨rfl, hdefined⟩ := defined_all hids
  rw [zip_range_eq] at hmss
  exact declared_of_declares hdefined.declared hmss

end Description

end PointsTo
