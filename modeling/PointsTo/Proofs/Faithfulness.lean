import PointsTo.Proofs.Denotation

namespace PointsTo

/-- Names stand for the same classes when statements are added. -/
theorem Program.Grown.names {b q : Program} (h : b.Grown q) (hb : b.Registered) {name : String}
    {c : ClassId} (hn : b.Names name c) : q.Names name c := by
  obtain ⟨hc, hname⟩ := hb.name.mp hn
  apply h.registered.name.mpr
  rw [h.classDecl_eq hc]
  exact ⟨h.classes.holds hc, hname⟩

namespace Description

open Draft

variable {desc : Description} {d : Draft} {p q : Program} {m : MethodId}

/-- The name of the superclass that a class ends up with. A class that is given without one gets the
root class, unless it is an interface or the root class itself. -/
def parent? (superclass : Option String) (isInterface : Bool) (name : String) : Option String :=
  if superclass = none ∧ isInterface = false ∧ name ≠ rootClassName then some rootClassName
  else superclass

/-- A class is declared as it is described. -/
structure ClassDeclared (p : Program) (c : Class) (decl : ClassDecl) : Prop where
  name : decl.name = c.name
  flags : decl.flags = c.flags
  defined : decl.defined = true
  superclass : List.Forall₂ p.Names (parent? c.superclass c.isInterface c.name).toList
    decl.superclass.toList
  interfaces : List.Forall₂ p.Names c.interfaces.eraseDups decl.interfaces.toList

/-- A class that is only named has nothing of its own. -/
structure OnlyNamed (p : Program) (decl : ClassDecl) : Prop where
  flags : decl.flags = .none
  defined : decl.defined = false
  superclass : List.Forall₂ p.Names (parent? none false decl.name).toList decl.superclass.toList
  interfaces : decl.interfaces = #[]
  fields : decl.fields = #[]
  methods : decl.methods = #[]

theorem Class.has_isInterface (c : Class) : c.flags.has ClassFlags.isInterface = c.isInterface := by
  unfold Class.flags
  generalize c.isInterface = b₁
  generalize c.isAbstract = b₂
  revert b₁ b₂
  decide

section Completion

variable {root : ClassId} (hreg : q.Registered)
  (hroot : q.findClass? rootClassName = some root)
include hreg

theorem names_rooted (name : String) (c : ClassId) :
    (q.rooted root).Names name c ↔ q.Names name c := by
  rw [Program.Names, Program.findClass?_rooted hreg, Program.Names]

include hroot in
/-- The completed hierarchy gives every class the superclass that it should have. -/
theorem superclass_rooted {i : ClassId} (hi : q.classes.Holds i) {superclass : Option String}
    (hsup : List.Forall₂ q.Names superclass.toList (q.classDecl i).superclass.toList) :
    List.Forall₂ (q.rooted root).Names
      (parent? superclass (q.classDecl i).isInterface (q.classDecl i).name).toList
      ((q.rooted root).classDecl i).superclass.toList := by
  have hnone : superclass = none ↔ (q.classDecl i).superclass = none := by
    have hlen := hsup.length_eq
    cases superclass with
    | none =>
      cases hs : (q.classDecl i).superclass with
      | none => simp
      | some sup => simp [hs] at hlen
    | some name =>
      cases hs : (q.classDecl i).superclass with
      | none => simp [hs] at hlen
      | some sup => simp
  have hname : (q.classDecl i).name ≠ rootClassName ↔ i ≠ root := by
    apply not_congr
    constructor
    · intro he
      exact Option.some.inj ((hreg.name.mpr ⟨hi, he⟩).symm.trans hroot)
    · intro he
      rw [he]
      exact (hreg.name.mp hroot).2
  have hcond : (superclass = none ∧ (q.classDecl i).isInterface = false ∧
      (q.classDecl i).name ≠ rootClassName) ↔ i ∈ q.orphans root := by
    rw [Program.mem_orphans hreg, hnone, hname]
    tauto
  rw [(Program.adopted_rooted hreg root).classDecl, parent?]
  by_cases horphan : i ∈ q.orphans root
  · rw [if_pos (hcond.mpr horphan), if_pos horphan]
    exact .cons ((names_rooted hreg _ _).mpr hroot) .nil
  · rw [if_neg fun h => horphan (hcond.mp h), if_neg horphan]
    exact hsup.imp fun name c hn => (names_rooted hreg _ _).mpr hn

end Completion

/-- The classes that statements add are only named. -/
theorem Headed.grown {classes : List Class} {sups : ClassId → Supertypes} {b : Program}
    (hd : Headed classes sups b) (hb : b.Registered) (h : b.Grown q) : Headed classes sups q := by
  have hnone {i : ClassId} (hi : ¬b.classes.Holds i) :
      (sups i).superclass.toList = [] ∧ (sups i).interfaces = [] := by
    have hsuper := hd.superclass i
    have hinterfaces := hd.interfaces i
    rw [Program.classDecl, Table.get_of_not_holds hi] at hsuper hinterfaces
    exact ⟨List.forall₂_nil_right_iff.mp hsuper, List.forall₂_nil_right_iff.mp hinterfaces⟩
  have hblank {i : ClassId} (hi : ¬b.classes.Holds i) :
      (q.classDecl i).superclass = none ∧ (q.classDecl i).interfaces = #[] := by
    by_cases hq : q.classes.Holds i
    · obtain ⟨name, hdecl⟩ := h.undefined hq hi
      rw [hdecl]
      exact ⟨rfl, rfl⟩
    · rw [Program.classDecl, Table.get_of_not_holds hq]
      exact ⟨rfl, rfl⟩
  refine ⟨hd.size.trans h.size_le, fun {i c} hi => ?_, fun {i} hi hlen => ?_, fun i => ?_,
    fun i => ?_⟩
  · rw [h.classDecl_eq (hd.holds hi)]
    exact hd.described hi
  · by_cases hold : b.classes.Holds i
    · rw [h.classDecl_eq hold]
      exact hd.named hold hlen
    · obtain ⟨name, hdecl⟩ := h.undefined hi hold
      rw [hdecl]
      exact ⟨rfl, rfl⟩
  · by_cases hold : b.classes.Holds i
    · rw [h.classDecl_eq hold]
      exact (hd.superclass i).imp fun _ _ hn => h.names hb hn
    · rw [(hnone hold).1, (hblank hold).1]
      exact .nil
  · by_cases hold : b.classes.Holds i
    · rw [h.classDecl_eq hold]
      exact (hd.interfaces i).imp fun _ _ hn => h.names hb hn
    · rw [(hnone hold).2, (hblank hold).2]
      exact .nil

/-- The variables of a method are read off the rows of all variables. -/
theorem variables_of_rows (hp : p.Represented) {vss : List (List (String × Ty))}
    (hrows : p.vars.toList.map VarDecl.row = (blocks vss).map fun a => (⟨a.1⟩, a.2)) {k : Nat}
    {vs : List (String × Ty)} (hk : vss[k]? = some vs) : p.variables ⟨k⟩ = vs := by
  have hkey (a : Nat × String × Ty) : decide ((⟨a.1⟩ : MethodId) = ⟨k⟩) = decide (a.1 = k) := by
    rw [decide_eq_decide, Id.mk.injEq]
  calc
    p.variables ⟨k⟩ =
        ((p.methodDecl ⟨k⟩).vars.toList.map p.vars.get).map fun v => v.row.2 := by
      rw [List.map_map]
      rfl
    _ = (p.vars.toList.filter fun v => v.method = ⟨k⟩).map fun v => v.row.2 := by
      rw [Table.Lists.map_get (P := fun v : VarDecl => v.method = ⟨k⟩) (hp.vars ⟨k⟩)]
    _ = ((p.vars.toList.map VarDecl.row).filter fun a => a.1 = ⟨k⟩).map Prod.snd := by
      rw [List.filter_map, List.map_map]
      rfl
    _ = ((blocks vss).filter fun a => a.1 = k).map Prod.snd := by
      rw [hrows, List.filter_map, List.map_map]
      exact congrArg (List.map Prod.snd) (List.filter_congr fun a _ => hkey a)
    _ = vs := filter_blocks hk

/-- A program that is loaded when all is declared: its bodies are filled, its entry method is set
and its hierarchy is completed. -/
inductive Completed (b : Program) (stmts : List (MethodId × Stmt)) (start : Option MethodId) :
    Program → Prop
  | intro {q : Program} {root : ClassId} (hq : Filled b stmts q)
      (hroot : (q.prepared start).findClass? rootClassName = some root) :
      Completed b stmts start ((q.prepared start).rooted root)

namespace Completed

variable {stmts : List (MethodId × Stmt)} {start : Option MethodId}

section Tables

variable {b : Program} (h : Completed b stmts start p)
include h

theorem fields : p.fields = b.fields := by
  obtain ⟨hq, -⟩ := h
  rw [(hq.grown.completes _ _).fields, hq.grown.fields]

theorem entry : p.entry = start := by
  obtain ⟨hq, -⟩ := h
  exact (hq.grown.completes _ _).entry

theorem methods_size : p.methods.size = b.methods.size := by
  obtain ⟨hq, -⟩ := h
  rw [(hq.grown.completes _ _).methods, hq.grown.methods]

theorem outline (m : MethodId) : (p.methodDecl m).outline = (b.methodDecl m).outline := by
  obtain ⟨hq, -⟩ := h
  exact hq.outline_eq _ _ m

theorem rows : p.vars.toList.map VarDecl.row = b.vars.toList.map VarDecl.row := by
  obtain ⟨hq, -⟩ := h
  apply Table.map_toList_congr
  · rw [(hq.grown.completes _ _).vars, hq.grown.vars]
  · intro v
    rw [(hq.grown.completes _ _).vars]
    have hrow := congrArg VarDecl.row (hq.grown.var v)
    exact hrow

theorem findVar? (m : MethodId) (x : String) : p.findVar? m x = b.findVar? m x := by
  obtain ⟨hq, -⟩ := h
  rw [← hq.grown.findVar?_eq m x, Program.findVar?, Program.findVar?]
  simp only [Program.methodDecl, Program.varDecl, (hq.grown.completes _ _).methods,
    (hq.grown.completes _ _).vars]
  rfl

end Tables

section Declared

variable (hd : desc.AllDeclared d) (h : Completed d.program stmts start p)
include hd h

theorem methods : List.Forall₂ MethodDeclared (members Class.methods desc.classes)
    p.methods.toList := by
  have houtline (a : Member Method) (decl : MethodDecl) :
      MethodDeclared a decl.outline ↔ MethodDeclared a decl :=
    ⟨fun h => ⟨h.1, h.2, h.3, h.4, h.5, h.6⟩, fun h => ⟨h.1, h.2, h.3, h.4, h.5, h.6⟩⟩
  have hall : List.Forall₂ MethodDeclared (members Class.methods desc.classes)
      (p.methods.toList.map MethodDecl.outline) := by
    rw [Table.map_toList_congr h.methods_size h.outline, List.forall₂_map_right_iff]
    exact hd.methods.imp fun a decl hdecl => (houtline a decl).mpr hdecl
  rw [List.forall₂_map_right_iff] at hall
  exact hall.imp fun a decl hdecl => (houtline a decl).mp hdecl

theorem classDeclared {i : Nat} {c : Class} (hc : desc.classes[i]? = some c) :
    p.classes.Holds ⟨i⟩ ∧ ClassDeclared p c (p.classDecl ⟨i⟩) := by
  obtain ⟨hq, hroot⟩ := h
  have hgrown := hq.grown.prepared start
  have hreg := hgrown.registered
  have hheaded := hd.headed.grown hd.registered hgrown
  have hi := hheaded.holds hc
  obtain ⟨hname, hflags, hdefined⟩ := hheaded.described hc
  have hsups : supertypes desc.classes ⟨i⟩ = ⟨c.superclass, c.interfaces.eraseDups⟩ := by
    rw [supertypes, hc]
    rfl
  have hsuper := hheaded.superclass ⟨i⟩
  have hinterfaces := hheaded.interfaces ⟨i⟩
  rw [hsups] at hsuper hinterfaces
  have hparent := superclass_rooted hreg hroot hi hsuper
  rw [ClassDecl.isInterface, hname, hflags, Class.has_isInterface] at hparent
  refine ⟨?_, ?_, ?_, ?_, hparent, ?_⟩
  · exact (Program.holds_rooted hreg).mpr hi
  · rw [(Program.adopted_rooted hreg _).classDecl_eq]
    exact hname
  · rw [(Program.adopted_rooted hreg _).classDecl_eq]
    exact hflags
  · rw [(Program.adopted_rooted hreg _).classDecl_eq]
    exact hdefined
  · rw [(Program.adopted_rooted hreg _).classDecl_eq]
    exact hinterfaces.imp fun _ _ hn => (names_rooted hreg _ _).mpr hn

/-- The members are those of described classes, so that a later class has none. -/
theorem members_eq_empty (hp : p.Represented) {i : ClassId} (hi : desc.classes.length ≤ i.index) :
    (p.classDecl i).fields = #[] ∧ (p.classDecl i).methods = #[] := by
  have hlt {n : Nat} {c : Class} (hn : desc.classes[n]? = some c) (he : i = ⟨n⟩) : False := by
    rw [he] at hi
    exact Nat.not_lt.mpr hi (List.getElem?_eq_some_iff.mp hn).1
  constructor
  · apply Array.eq_empty_iff_forall_not_mem.mpr
    intro f hf
    obtain ⟨hholds, hcls⟩ := (hp.fields i).mem_iff.mp hf
    rw [decide_eq_true_eq] at hcls
    rw [Program.fieldDecl, h.fields] at hcls
    rw [h.fields] at hholds
    obtain ⟨a, ha, -, hdecl⟩ := exists_member_of_holds hd.fields hholds
    exact hlt ha (hcls.symm.trans hdecl.cls)
  · apply Array.eq_empty_iff_forall_not_mem.mpr
    intro m hm
    obtain ⟨hholds, hcls⟩ := (hp.methods i).mem_iff.mp hm
    rw [decide_eq_true_eq] at hcls
    obtain ⟨a, ha, -, hdecl⟩ := exists_member_of_holds (h.methods hd) hholds
    exact hlt ha (hcls.symm.trans hdecl.cls)

theorem onlyNamed (hp : p.Represented) {i : ClassId} (hi : p.classes.Holds i)
    (hlen : desc.classes.length ≤ i.index) : OnlyNamed p (p.classDecl i) := by
  obtain ⟨hfields, hmethods⟩ := h.members_eq_empty hd hp hlen
  obtain @⟨q, root, hq, hroot⟩ := h
  have hgrown := hq.grown.prepared start
  have hreg := hgrown.registered
  have hheaded := hd.headed.grown hd.registered hgrown
  rw [Program.holds_rooted hreg] at hi
  obtain ⟨hflags, hdefined⟩ := hheaded.named hi hlen
  have hsups : supertypes desc.classes i = {} := by
    rw [supertypes, List.getElem?_eq_none hlen]
    rfl
  have hsuper := hheaded.superclass i
  have hinterfaces := hheaded.interfaces i
  rw [hsups] at hsuper hinterfaces
  have hparent := superclass_rooted hreg hroot hi hsuper
  have hnone : (.none : ClassFlags).has ClassFlags.isInterface = false := by decide
  rw [ClassDecl.isInterface, hflags, hnone] at hparent
  refine ⟨?_, ?_, ?_, ?_, hfields, hmethods⟩
  · rw [(Program.adopted_rooted hreg _).classDecl_eq]
    exact hflags
  · rw [(Program.adopted_rooted hreg _).classDecl_eq]
    exact hdefined
  · have hname : (((q.prepared start).rooted root).classDecl i).name =
        ((q.prepared start).classDecl i).name := by
      rw [(Program.adopted_rooted hreg _).classDecl_eq]
    rw [hname]
    exact hparent
  · rw [(Program.adopted_rooted hreg _).classDecl_eq]
    exact Array.toList_eq_nil_iff.mp (List.forall₂_nil_left_iff.mp hinterfaces)

theorem vars (hp : p.Represented) :
    p.vars.toList.map VarDecl.row =
        (blocks (p.methods.ids.map p.variables)).map (fun a => (⟨a.1⟩, a.2)) ∧
      List.Forall₂ (fun a m => variables? a = some (p.variables m))
        (members Class.methods desc.classes) p.methods.ids := by
  obtain ⟨vss, hvss, hrows⟩ := hd.vars
  rw [← h.rows] at hrows
  have hlen : vss.length = p.methods.size := by
    rw [← hvss.length_eq, (h.methods hd).length_eq, Table.length_toList]
  have hids : p.methods.ids.map p.variables = vss := by
    apply List.ext_getElem?
    intro k
    rw [Table.ids, List.map_map, List.getElem?_map]
    by_cases hk : k < vss.length
    · rw [List.getElem?_range (hlen ▸ hk), List.getElem?_eq_getElem hk]
      exact congrArg some (variables_of_rows hp hrows (List.getElem?_eq_getElem hk))
    · have hsize : p.methods.size ≤ k := hlen ▸ Nat.not_lt.mp hk
      rw [List.getElem?_eq_none (Nat.not_lt.mp hk),
        List.getElem?_eq_none (by rw [List.length_range]; exact hsize)]
      rfl
  rw [hids]
  refine ⟨hrows, ?_⟩
  rw [← hids, List.forall₂_map_right_iff] at hvss
  exact hvss

theorem statements (hp : p.Represented)
    (hstmts : stmts = desc.statements.map fun a => (⟨a.1⟩, a.2)) :
    List.Forall₂ (fun a s => p.container s = ⟨a.1⟩ ∧ Denotes desc p ⟨a.1⟩ a.2 (p.stmt s))
      desc.statements p.stmts.ids := by
  have hnames (r : String) (f : FieldId) (hr : d.program.readField? r = some f) :
      NamesField desc p r f := by
    have hfield := namesField_of_readField? hd hr
    rw [NamesField, Program.fieldDecl, ← h.fields] at hfield
    exact hfield
  have hvars (m : MethodId) (x : String) (v : VarId) (hx : d.program.findVar? m x = some v) :
      NamesVar p m x v := by
    rw [← h.findVar?] at hx
    exact namesVar_of_findVar? hp hx
  obtain @⟨q, root, hq, -⟩ := h
  rw [forall₂_iff_getElem?]
  constructor
  · rw [Table.length_ids, (hq.grown.completes start root).stmts, hq.size, hstmts, List.length_map]
  intro i a s ha hs
  have hholds := Table.mem_ids.mp (List.mem_of_getElem? hs)
  obtain rfl : (⟨i⟩ : StmtId) = s := Table.eq_of_getElem?_ids hs
  obtain ⟨m, st, hi, hm, hread⟩ := hq.placed start root hholds
  rw [hstmts, List.getElem?_map, ha, Option.map_some, Option.some.injEq, Prod.mk.injEq] at hi
  obtain ⟨rfl, rfl⟩ := hi
  refine ⟨hm, denotes_of_read? (hvars _) hnames (fun n c hn => ?_) hread⟩
  exact (names_rooted (hq.grown.prepared start).registered n c).mpr hn

/-- The entry method is the one that is described. -/
theorem entries (hstart : start? desc.entry d.program = some start) :
    List.Forall₂ (fun e m => p.methods.Holds m ∧ (p.methodDecl m).className = e.cls ∧
      Signature.parse? e.method = some (p.methodDecl m).signature) desc.entry.toList
      p.entry.toList := by
  rw [h.entry]
  cases he : desc.entry with
  | none =>
    rw [he, start?, hd.entry] at hstart
    cases hstart
    exact .nil
  | some e =>
    rw [he] at hstart
    obtain ⟨m, hm, rfl⟩ := Option.map_eq_some_iff.mp hstart
    obtain ⟨g, hg, hm⟩ := Option.bind_eq_some_iff.mp hm
    obtain ⟨c, hc, hm⟩ := Option.bind_eq_some_iff.mp hm
    obtain ⟨hholds, hcls, hsig⟩ := hd.built.edits.represented.declared.mp hm
    obtain ⟨a, ha, -, hdecl⟩ := exists_member_of_holds hd.methods hholds
    have hclass : (d.program.methodDecl m).className = e.cls := by
      rw [Program.methodDecl, hdecl.className, ← (hd.headed.described ha).1, ← hdecl.cls]
      rw [Program.methodDecl] at hcls
      rw [hcls]
      exact (hd.registered.name.mp hc).2
    have hp : p.methods.Holds m := by
      rw [Table.Holds, h.methods_size]
      exact hholds
    have hname : (p.methodDecl m).className = (d.program.methodDecl m).className := by
      have houtline := congrArg MethodDecl.className (h.outline m)
      exact houtline
    have hsignature : (p.methodDecl m).signature = (d.program.methodDecl m).signature := by
      have houtline := congrArg MethodDecl.signature (h.outline m)
      exact houtline
    exact .cons ⟨hp, hname.trans hclass, by rw [hsignature, hsig, hg]⟩ .nil

end Declared

end Completed

/-- A program is what a description says. Rows stand in the order of the description and at the
numbers of what they come from. -/
structure Faithful (desc : Description) (p : Program) : Prop where
  names {name : String} {c : ClassId} :
    p.Names name c ↔ p.classes.Holds c ∧ (p.classDecl c).name = name
  classes {i : Nat} {c : Class} (h : desc.classes[i]? = some c) :
    p.classes.Holds ⟨i⟩ ∧ ClassDeclared p c (p.classDecl ⟨i⟩)
  onlyNamed {i : ClassId} (hi : p.classes.Holds i) (h : desc.classes.length ≤ i.index) :
    OnlyNamed p (p.classDecl i)
  fields : List.Forall₂ FieldDeclared (members Class.fields desc.classes) p.fields.toList
  fieldNames : (p.fields.toList.map fun f => (f.cls, f.name)).Nodup
  classFields (c : ClassId) :
    p.fields.Lists (fun f => (p.fieldDecl f).cls = c) (p.classDecl c).fields
  methods : List.Forall₂ MethodDeclared (members Class.methods desc.classes) p.methods.toList
  classMethods (c : ClassId) :
    p.methods.Lists (fun m => (p.methodDecl m).cls = c) (p.classDecl c).methods
  /-- The receiver and the parameters are the first variables of a method. -/
  header (m : MethodId) : (p.methodDecl m).header <+: (p.methodDecl m).vars.toList
  /-- The variables are those of the first method, those of the second one, and so on. -/
  vars : p.vars.toList.map VarDecl.row =
    (blocks (p.methods.ids.map p.variables)).map fun a => (⟨a.1⟩, a.2)
  methodVars : List.Forall₂ (fun a m => variables? a = some (p.variables m))
    (members Class.methods desc.classes) p.methods.ids
  stmts : List.Forall₂ (fun a s => p.container s = ⟨a.1⟩ ∧ Denotes desc p ⟨a.1⟩ a.2 (p.stmt s))
    desc.statements p.stmts.ids
  /-- The body of a method is a stretch of the statements, after those of all methods before it. -/
  body {k : Nat} {m : Method} (h : desc.methods[k]? = some m) :
    (p.methodDecl ⟨k⟩).stmts.toList =
      (List.range' ((desc.methods.take k).flatMap Method.body).length m.body.length).map Id.mk
  entry : List.Forall₂ (fun e m => p.methods.Holds m ∧ (p.methodDecl m).className = e.cls ∧
    Signature.parse? e.method = some (p.methodDecl m).signature) desc.entry.toList p.entry.toList

/-- The statements of a description are its bodies one after the other. -/
theorem statements_eq_blocks (desc : Description) :
    desc.statements = blocks (desc.methods.map Method.body) := by
  rw [statements, blocks, List.zipIdx_map, List.flatMap_map]
  rfl

/-- A description that is accepted has all that it needs, and it is completed. -/
theorem completed_of_build (h : exec desc.build {} = (.ok p, d)) :
    ∃ d₁ start, desc.AllDeclared d₁ ∧ start? desc.entry d₁.program = some start ∧
      Completed d₁.program (desc.statements.map fun a => (⟨a.1⟩, a.2)) start p := by
  rw [build_eq_finish] at h
  obtain ⟨ms, d₁, hdeclare, hfinish⟩ := exists_of_exec_bind h
  obtain ⟨hms, hd⟩ := declared_all hdeclare
  obtain ⟨hwf, hreg, hempty⟩ := declared_of_declareAll hdeclare
  have hlisting : listing ms = desc.statements.map fun a => (⟨a.1⟩, a.2) := by
    rw [hms, listing, statements, List.flatMap_map, List.map_flatMap]
    simp only [List.map_map, Function.comp_def]
  have hok : (∀ a ∈ listing ms, a.2.Accepts d₁.program a.1) ∧
      (start? desc.entry d₁.program).isSome := by
    by_contra hnot
    obtain ⟨e, herror⟩ := exec_finish_error hwf hreg hempty hnot
    rw [hfinish] at herror
    cases herror
  obtain ⟨start, hstart⟩ := Option.isSome_iff_exists.mp hok.2
  obtain ⟨q, root, hq, hroot, hp⟩ := exec_finish hwf hreg hempty hok.1 hstart
  rw [hfinish] at hp
  cases hp
  rw [hlisting] at hq
  exact ⟨d₁, start, hd, hstart, .intro hq hroot⟩

theorem build_faithful (h : exec desc.build {} = (.ok p, d)) : Faithful desc p := by
  obtain ⟨d₁, start, hd, hstart, hcompleted⟩ := completed_of_build h
  have hp : p.Represented := (finished_of_build h).edits.1.represented
  obtain ⟨hvars, hmethodVars⟩ := hcompleted.vars hd hp
  have hstmts := hcompleted.statements hd hp rfl
  refine
    { names := hp.name
      classes := hcompleted.classDeclared hd
      onlyNamed := hcompleted.onlyNamed hd hp
      fields := by rw [hcompleted.fields]; exact hd.fields
      fieldNames := by rw [hcompleted.fields]; exact hd.fieldNames
      classFields := hp.fields
      methods := hcompleted.methods hd
      classMethods := hp.methods
      header := hp.header
      vars := hvars
      methodVars := hmethodVars
      stmts := hstmts
      body := fun {k m} hm => ?_
      entry := hcompleted.entries hd hstart }
  have hkeys : p.stmts.ids.map p.container =
      (blocks (desc.methods.map Method.body)).map fun a => ⟨a.1⟩ := by
    rw [← statements_eq_blocks, ← List.forall₂_eq_eq_eq, List.forall₂_map_left_iff,
      List.forall₂_map_right_iff]
    exact hstmts.flip.imp fun _ _ hs => hs.1
  have hbody := (hp.body ⟨k⟩).block hkeys (b := m.body) (by rw [List.getElem?_map, hm]; rfl)
  rw [hbody, ← List.map_take, List.flatMap]

/-- Letters inherit their sender from a class that is given after them, and the interface that they
implement is only named. -/
def letters : Description where
  entry := some { cls := "Letter", method := "main()V" }
  classes := [
    { name := "Letter"
      superclass := some "Parcel"
      interfaces := ["Sealed"]
      methods := [
        { signature := "answer(LLetter;I)LPerson;"
          locals := [{ name := "who", type := "LPerson;" }]
          body := [.load "who" (some "p0") "Letter.sender", .ret (some "who")] },
        { signature := "main()V"
          isStatic := true
          locals := [{ name := "l", type := "LLetter;" }]
          body := [.new "l" "LLetter;"] }] },
    { name := "Parcel"
      fields := [{ name := "sender", type := "LPerson;" }]
      methods := [
        { signature := "send(LPerson;)V"
          params := ["from"]
          body := [.store (some "this") "Parcel.sender" "from"] }] }]

/-- The reference to the sender leads to the field of the superclass, and the bodies take their
places one after the other. -/
theorem build_faithful_letters : (exec letters.build {}).1 = .ok letters.program ∧
    Denotes letters letters.program ⟨0⟩ (.load "who" (some "p0") "Letter.sender")
      (letters.program.stmt ⟨0⟩) ∧
    (letters.program.methodDecl ⟨2⟩).stmts.toList = [⟨3⟩] := by
  have hbuild : (exec letters.build {}).1 = .ok letters.program := exec_build (by decide +kernel)
  have h : Faithful letters letters.program := build_faithful (Prod.ext hbuild rfl)
  refine ⟨hbuild, ?_, h.body (k := 2) rfl⟩
  obtain ⟨s, hs, -, hdenotes⟩ := exists_of_forall₂_left h.stmts (i := 0) rfl
  rw [Table.eq_of_getElem?_ids hs]
  exact hdenotes

end Description

end PointsTo
