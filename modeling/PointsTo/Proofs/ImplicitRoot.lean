import PointsTo.Proofs.Faithfulness
import PointsTo.Proofs.Lockstep

namespace PointsTo

/-- A class that lacks a superclass still lacks it when statements are added. -/
theorem Program.Grown.mem_orphans {b p : Program} {root c : ClassId} (h : b.Grown p)
    (hb : b.Registered) (hc : c ∈ b.orphans root) : c ∈ p.orphans root := by
  obtain ⟨hholds, hclass⟩ := (Program.mem_orphans hb).mp hc
  apply (Program.mem_orphans h.registered).mpr
  rw [h.classDecl_eq hholds]
  exact ⟨h.classes.holds hholds, hclass⟩

/-- A field is looked up in the class itself and then along its superclasses. -/
theorem Program.WellFormed.findField?_eq {p : Program} (h : p.WellFormed) (hp : p.Registered)
    {name : String} {c : ClassId} (hc : p.Names name c) (field : String) :
    p.findField? name field =
      (c :: p.superclassesWithin p.classes.size (p.classDecl c).superclass).findSome?
        (p.declaredField? · field) := by
  rw [findField?, hc, Option.bind_some]
  exact (h.findSome?_superclassesWithin (hp.name.mp hc).1 (Nat.le_succ _) _).symm

/-- If the root class is known then completing a draft gives it to all classes that lack a
superclass. -/
theorem Draft.exec_complete_rooted {d : Draft} {root : ClassId} (h : d.program.Registered)
    (hroot : d.program.findClass? rootClassName = some root) :
    (exec complete d).1 = .ok (d.program.rooted root) := by
  obtain ⟨root', hroot', hcomplete⟩ := exec_complete d h
  rw [Program.mention_of_some hroot] at hroot' hcomplete
  cases hroot.symm.trans hroot'
  exact hcomplete

namespace Description

open Draft

variable {desc desc' : Description} {d e : Draft} {root : ClassId} {l : List ClassId}

/-- A reference to a field that the class declares or inherits along the written superclasses. -/
def FieldOwned (desc : Description) (reference : String) : Prop :=
  ∃ r owner, MemberRef.parse? reference = some r ∧ desc.Inherits r.member r.cls owner

/-- The bodies refer to such fields only. -/
def FieldsOwned (desc : Description) : Prop :=
  ∀ m ∈ desc.methods, ∀ s ∈ m.body, ∀ reference ∈ s.reference?, desc.FieldOwned reference

section Declared

variable (hd : desc.AllDeclared d)
include hd

/-- A described class is found under its name, with the superclass that is described. -/
theorem names_of_getElem? {i : Nat} {c : Class} (hc : desc.classes[i]? = some c) :
    d.program.Names c.name ⟨i⟩ ∧
      List.Forall₂ d.program.Names c.superclass.toList
        (d.program.classDecl ⟨i⟩).superclass.toList := by
  have hlt := (List.getElem?_eq_some_iff.mp hc).1
  have hholds : d.program.classes.Holds ⟨i⟩ := Nat.lt_of_lt_of_le hlt hd.headed.size
  have hsuper := hd.headed.superclass ⟨i⟩
  rw [supertypes, hc] at hsuper
  exact ⟨hd.registered.name.mpr ⟨hholds, (hd.headed.described hc).1⟩, hsuper⟩

/-- A field is found in every class that declares or inherits it. -/
theorem isSome_findField?_of_inherits {field name owner : String}
    (h : desc.Inherits field name owner) : (d.program.findField? name field).isSome := by
  have hwf := hd.built.wellFormed
  induction h with
  | @declares c hc hf =>
    obtain ⟨i, hi⟩ := List.mem_iff_getElem?.mp hc
    obtain ⟨f, hf, rfl⟩ := hf
    have hname := (names_of_getElem? hd hi).1
    have hfield := isSome_declaredField? hd hi hf
    rw [hwf.findField?_eq hd.registered hname]
    exact List.findSome?_isSome_iff.mpr ⟨_, List.mem_cons_self, hfield⟩
  | @inherits c superclass owner hc hf hs h ih =>
    obtain ⟨i, hi⟩ := List.mem_iff_getElem?.mp hc
    obtain ⟨hname, hsuper⟩ := names_of_getElem? hd hi
    rw [hs] at hsuper
    obtain ⟨sup, hsup, hnames⟩ : ∃ sup, (d.program.classDecl ⟨i⟩).superclass = some sup ∧
        d.program.Names superclass sup := by
      cases hsup : (d.program.classDecl ⟨i⟩).superclass with
      | none =>
        rw [hsup] at hsuper
        cases hsuper
      | some sup =>
        rw [hsup] at hsuper
        exact ⟨sup, rfl, (List.forall₂_cons.mp hsuper).1⟩
    rw [Program.findField?, hnames, Option.bind_some] at ih
    obtain ⟨a, ha, hfield⟩ := List.findSome?_isSome_iff.mp ih
    rw [hwf.findField?_eq hd.registered hname, hsup]
    exact List.findSome?_isSome_iff.mpr ⟨a, List.mem_cons_of_mem _ ha, hfield⟩

theorem isSome_readField?_iff (reference : String) :
    (d.program.readField? reference).isSome ↔ desc.FieldOwned reference := by
  constructor
  · intro h
    obtain ⟨f, hf⟩ := Option.isSome_iff_exists.mp h
    obtain ⟨r, hr, -, -, hinherits⟩ := namesField_of_readField? hd hf
    exact ⟨r, _, hr, hinherits⟩
  · intro h
    obtain ⟨r, owner, hr, hinherits⟩ := h
    rw [Program.readField?, hr]
    exact isSome_findField?_of_inherits hd hinherits

end Declared

/-- A class that gets the root class for superclass when its program is completed. -/
structure Class.Rootless (c : Class) : Prop where
  superclass : c.superclass = none
  isClass : c.isInterface = false
  name : c.name ≠ rootClassName

/-- The same class, or the same class with the superclass that it gets anyway. -/
inductive Class.WritesRoot (c : Class) : Class → Prop
  | same : WritesRoot c c
  | written (h : c.Rootless) : WritesRoot c { c with superclass := some rootClassName }

/-- Two descriptions that define the root class. In the second one it is written as the superclass
of some classes that give none in the first one. -/
structure WritesRoot (desc desc' : Description) : Prop where
  entry : desc'.entry = desc.entry
  classes : List.Forall₂ Class.WritesRoot desc.classes desc'.classes
  root : ∃ c ∈ desc.classes, c.name = rootClassName

/-- A class without superclass lacks it until the hierarchy is completed. -/
theorem Class.Rootless.mem_orphans {c : Class} (h : c.Rootless) (hd : desc.AllDeclared d)
    (hroot : d.program.findClass? rootClassName = some root) {i : ClassId}
    (hc : desc.classes[i.index]? = some c) : i ∈ d.program.orphans root := by
  obtain ⟨hname, hsuper⟩ := names_of_getElem? hd hc
  obtain ⟨hholds, hname⟩ := hd.registered.name.mp hname
  obtain ⟨-, hflags, -⟩ := hd.headed.described hc
  refine (Program.mem_orphans hd.registered).mpr ⟨hholds, ?_, ?_, ?_⟩
  · intro he
    apply h.name
    rw [← hname, ← (hd.registered.name.mp hroot).2, ← he]
  · rw [h.superclass] at hsuper
    exact Option.toList_eq_nil_iff.mp (List.forall₂_nil_left_iff.mp hsuper)
  · rw [ClassDecl.isInterface, hflags, Class.has_isInterface]
    exact h.isClass

theorem Defined.names {classes : List Class} (h : Defined classes d) {i : Nat} {c : Class}
    (hc : classes[i]? = some c) : d.program.Names c.name ⟨i⟩ := by
  have hlt := (List.getElem?_eq_some_iff.mp hc).1
  have hholds : d.program.classes.Holds ⟨i⟩ := by
    rw [Table.Holds, h.size]
    exact hlt
  apply (h.built.edits.registered Program.registered_empty).name.mpr
  rw [h.described hc]
  exact ⟨hholds, rfl⟩

theorem getElem?_of_mem_zip_range {classes : List Class} {i : ClassId} {c : Class}
    (h : (i, c) ∈ ((List.range classes.length).map (Id.mk (κ := .cls))).zip classes) :
    classes[i.index]? = some c := by
  rw [zip_range_eq, List.mem_map] at h
  obtain ⟨a, ha, he⟩ := h
  cases he
  exact List.mem_zipIdx_iff_getElem?.mp ha

/-- No two classes have the same number. -/
theorem not_mem_of_zip_range {classes : List Class} {done rest : List (ClassId × Class)}
    {a : ClassId × Class}
    (h : ((List.range classes.length).map (Id.mk (κ := .cls))).zip classes = done ++ a :: rest)
    (c : Class) : (a.1, c) ∉ done := by
  have hnodup : ((done ++ a :: rest).map Prod.fst).Nodup := by
    rw [← h, List.map_fst_zip (by simp)]
    exact List.nodup_range.map fun i j hij => congrArg Id.index hij
  rw [List.map_append, List.map_cons, List.nodup_middle, List.nodup_cons] at hnodup
  intro hmem
  exact hnodup.1 (List.mem_append_left _ (List.mem_map.mpr ⟨_, hmem, rfl⟩))

theorem forall₂_zip_of_forall₂ {α β γ : Type} {R : β → γ → Prop} {l : List β} {u : List γ}
    (h : List.Forall₂ R l u) (ids : List α) :
    List.Forall₂ (fun a b => a.1 = b.1 ∧ R a.2 b.2) (ids.zip l) (ids.zip u) := by
  induction h generalizing ids with
  | nil => simp
  | cons hr _ ih =>
    cases ids with
    | nil => exact .nil
    | cons i ids => exact .cons ⟨rfl, hr⟩ (ih ids)

namespace WritesRoot

variable (h : desc.WritesRoot desc')
include h

/-- The first pass is the same for both descriptions. -/
theorem together_define : Together
    (fun ids d e => d = e ∧ ids = (List.range desc.classes.length).map (Id.mk (κ := .cls)) ∧
      Defined desc.classes d)
    (exec (desc.classes.mapM fun c => defineClass c.name c.flags) {})
    (exec (desc'.classes.mapM fun c => defineClass c.name c.flags) {}) := by
  have hsame := together_mapM (I := fun _ d e => d = e) (d := {}) (e := {}) (β := ClassId)
    (f := fun c => defineClass c.name c.flags) (g := fun c => defineClass c.name c.flags)
    h.classes ?_ rfl
  · exact hsame.and_left fun ids d hx => defined_all hx
  · rintro - c - c' d e - hc rfl
    have hrun : exec (defineClass c'.name c'.flags) d = exec (defineClass c.name c.flags) d := by
      cases hc <;> rfl
    rw [hrun]
    rcases exec (defineClass c.name c.flags) d with ⟨u | id, d'⟩
    · exact .error ..
    · exact .ok rfl

/-- In the second pass the drafts come apart, in the classes with a written root class. -/
theorem together_declare (hd : Defined desc.classes d)
    (hroot : d.program.findClass? rootClassName = some root) : Together
    (fun _ d' e' => ∃ l, StillApart root l d d' e' ∧
      ∀ i ∈ l, ∃ c : Class, desc.classes[i.index]? = some c ∧ c.Rootless)
    (exec ((((List.range desc.classes.length).map (Id.mk (κ := .cls))).zip desc.classes).mapM
      fun a => a.2.declare a.1) d)
    (exec ((((List.range desc.classes.length).map (Id.mk (κ := .cls))).zip desc'.classes).mapM
      fun a => a.2.declare a.1) d) := by
  refine (together_mapM (I := fun done d' e' => ∃ l, StillApart root l d d' e' ∧
    ∀ i ∈ l, ∃ c : Class, (i, c) ∈ done ∧ c.Rootless)
    (forall₂_zip_of_forall₂ h.classes _) ?_ ?_).mono ?_
  · intro done a rest a' d₁ e₁ hsplit ha hI
    obtain ⟨i, c⟩ := a
    obtain ⟨i', c'⟩ := a'
    obtain ⟨rfl, hwrites⟩ := ha
    obtain ⟨l, hapart, hl⟩ := hI
    have hc : desc.classes[i.index]? = some c := by
      apply getElem?_of_mem_zip_range
      rw [hsplit]
      exact List.mem_append_right _ List.mem_cons_self
    have hi : d₁.program.classes.Holds i := by
      apply hapart.holds
      rw [Table.Holds, hd.size]
      exact (List.getElem?_eq_some_iff.mp hc).1
    have hmore (j : ClassId) (hj : j ∈ l) : ∃ c₁ : Class, (j, c₁) ∈ done ++ [(i, c)] ∧
        c₁.Rootless := by
      obtain ⟨c₁, hc₁, hrootless⟩ := hl j hj
      exact ⟨c₁, List.mem_append_left _ hc₁, hrootless⟩
    cases hwrites with
    | same =>
      have hnew : i ∉ l := by
        intro hil
        obtain ⟨c₁, hc₁, -⟩ := hl i hil
        exact not_mem_of_zip_range hsplit c₁ hc₁
      exact (Class.together_declare_same hapart.1 hi c hnew).mono fun _ _ _ h₁ =>
        ⟨l, hapart.trans h₁, hmore⟩
    | written hrootless =>
      refine (Class.together_declare_explicit hapart.1 hi c hrootless.superclass).mono ?_
      intro _ _ _ h₁
      refine ⟨i :: l, ⟨h₁.1, hapart.2.trans h₁.2⟩, List.forall_mem_cons.mpr ⟨?_, hmore⟩⟩
      exact ⟨c, List.mem_append_right _ List.mem_cons_self, hrootless⟩
  · exact ⟨[], ⟨.refl hd.built hroot, .refl _⟩, fun _ hi => (List.not_mem_nil hi).elim⟩
  · intro _ d₁ e₁ h₁
    obtain ⟨l, hapart, hl⟩ := h₁
    refine ⟨l, hapart, fun i hi => ?_⟩
    obtain ⟨c, hc, hrootless⟩ := hl i hi
    exact ⟨c, getElem?_of_mem_zip_range hc, hrootless⟩

/-- After the first two passes the drafts differ in superclasses that the first one still lacks. -/
theorem together_declareAll : Together
    (fun _ d e => ∃ root l, Apart root l d e ∧ ∀ c ∈ l, c ∈ d.program.orphans root)
    (exec desc.declareAll {}) (exec desc'.declareAll {}) := by
  have hpasses : Together (fun _ d e => ∃ root l, Apart root l d e ∧
      ∀ i ∈ l, ∃ c : Class, desc.classes[i.index]? = some c ∧ c.Rootless)
      (exec desc.declareAll {}) (exec desc'.declareAll {}) := by
    refine h.together_define.bind fun ids d₁ e₁ h₁ => ?_
    obtain ⟨rfl, rfl, hdefined⟩ := h₁
    obtain ⟨c, hc, hname⟩ := h.root
    obtain ⟨i, hi⟩ := List.mem_iff_getElem?.mp hc
    have hroot : d₁.program.findClass? rootClassName = some ⟨i⟩ := by
      rw [← hname]
      exact hdefined.names hi
    refine (h.together_declare hdefined hroot).bind fun mss d₂ e₂ h₂ => ?_
    obtain ⟨l, hapart, hl⟩ := h₂
    exact .ok ⟨⟨i⟩, l, hapart.1, hl⟩
  refine (hpasses.and_left fun ms d hx => (declared_all hx).2).mono fun ms d e h₁ => ?_
  obtain ⟨⟨root, l, hapart, hl⟩, hdeclared⟩ := h₁
  refine ⟨root, l, hapart, fun i hi => ?_⟩
  obtain ⟨c, hc, hrootless⟩ := hl i hi
  exact hrootless.mem_orphans hdeclared hapart.named hc

end WritesRoot

/-- The bodies of `b` and `b'` are filled with the same statements, and the programs differ as they
did. -/
structure Filling (b b' : Program) (root : ClassId) (l : List ClassId)
    (done : List (MethodId × Stmt)) (d e : Draft) : Prop where
  adopted : Program.Adopted root l d.program e.program
  left : Filled b done d.program
  right : b'.Grown e.program

theorem start?_adopted {p q : Program} (h : Program.Adopted root l p q) (entry : Option Entry) :
    start? entry q = start? entry p := by
  cases entry with
  | none =>
    obtain ⟨-, -, -, -, -, -, -, hentry⟩ := Program.rest_iff.mp h.rest
    exact congrArg some hentry
  | some e => simp only [start?, Entry.method?, h.findMethod?_eq]

section Fill

variable {b b' : Program} {done stmts : List (MethodId × Stmt)} {s : Stmt} {m : MethodId}
  (hreg : b.Registered) (hl : ∀ c ∈ l, c ∈ b.orphans root)
include hreg hl

/-- When the hierarchy is completed the programs differ in the order of their links only. -/
theorem Filling.complete (h : Filling b b' root l done d e)
    (hroot : b.findClass? rootClassName = some root) {entry : Option Entry}
    {start : Option MethodId} (hstart : start? entry b = some start) :
    ∃ p q, (exec (do entry.forM Entry.resolve; complete) d).1 = .ok p ∧
      (exec (do entry.forM Entry.resolve; complete) e).1 = .ok q ∧ p.SameButOrder q := by
  have hstart₁ : start? entry d.program = some start := (h.left.start?_eq hreg entry).trans hstart
  have hstart₂ : start? entry e.program = some start :=
    (start?_adopted h.adopted entry).trans hstart₁
  obtain ⟨u, d₁, hx, hp⟩ := (yields_entry (d := d) entry).some hstart₁
  obtain ⟨u', e₁, hx', hp'⟩ := (yields_entry (d := e) entry).some hstart₂
  have hd₁ : d₁.program.Registered := by
    rw [hp]
    exact h.left.grown.registered.setEntry start
  have he₁ : e₁.program.Registered := by
    rw [hp']
    exact h.right.registered.setEntry start
  have hadopted : Program.Adopted root l d₁.program e₁.program := by
    rw [hp, hp']
    exact h.adopted.map (f := fun p => { p with entry := start }) fun _ _ _ => rfl
  have hroot₁ : d₁.program.findClass? rootClassName = some root := by
    rw [hp]
    exact h.left.grown.names hreg hroot
  have hroot₂ : e₁.program.findClass? rootClassName = some root := by
    rw [hadopted.findClass?_eq, hroot₁]
  have horphans (c : ClassId) (hc : c ∈ l) : c ∈ d₁.program.orphans root := by
    rw [hp]
    exact h.left.grown.mem_orphans hreg (hl c hc)
  refine ⟨d₁.program.rooted root, e₁.program.rooted root, ?_, ?_,
    hadopted.sameButOrder_rooted hd₁ he₁ horphans⟩
  · rw [exec_bind, hx]
    exact exec_complete_rooted hd₁ hroot₁
  · rw [exec_bind, hx']
    exact exec_complete_rooted he₁ hroot₂

variable (hwf : b.WellFormed)
include hwf

/-- A statement that the first program accepts is read as the same statement in both. -/
theorem Filling.addTo (h : Filling b b' root l done d e) (hs : s.Accepts b m) :
    ∃ d' e', exec (s.addTo m) d = (.ok (), d') ∧ exec (s.addTo m) e = (.ok (), e') ∧
      Filling b b' root l (done ++ [(m, s)]) d' e' := by
  have hgrown := h.left.grown
  have horphans (c : ClassId) (hc : c ∈ l) :=
    (Program.mem_orphans hgrown.registered).mp (hgrown.mem_orphans hreg (hl c hc))
  have hnone (c : ClassId) (hc : c ∈ l) : (d.program.classDecl c).superclass = none :=
    (horphans c hc).2.2.1
  have hd : s.Accepts d.program m := (Grown.accepts_iff hgrown hwf hreg s m).mpr hs
  have hfields : ∀ reference ∈ s.reference?, (d.program.readField? reference).isSome := by
    obtain ⟨stmt, hread, -⟩ := hd
    exact fun reference hr => Stmt.isSome_readField?_of_read? hread hr
  have he : s.Accepts e.program m := (Stmt.accepts_adopted h.adopted hnone hfields m).mpr hd
  obtain ⟨d', stmt, hx, hp, hread⟩ := Stmt.exec_addTo hgrown.registered.ready hd
  obtain ⟨e', stmt', hx', hp', hread'⟩ := Stmt.exec_addTo h.right.registered.ready he
  have hmention := h.adopted.mention? (fun c hc => (horphans c hc).1) s.mentioned?
  have hfind : (e.program.mention? s.mentioned?).findClass? =
      (d.program.mention? s.mentioned?).findClass? := funext hmention.findClass?_eq
  rw [hfind, Stmt.read?_adopted h.adopted hnone hfields, hread] at hread'
  cases hread'
  refine ⟨d', e', hx, hx', ?_, ?_, ?_⟩
  · rw [hp, hp']
    exact hmention.pushStmt m stmt
  · rw [hp]
    exact h.left.append hwf hreg hread
  · rw [hp']
    exact (h.right.mention? s.mentioned?).pushStmt m stmt

theorem Filling.addAll (h : Filling b b' root l done d e)
    (hstmts : ∀ a ∈ stmts, a.2.Accepts b a.1) :
    ∃ d' e', exec (stmts.forM fun a => a.2.addTo a.1) d = (.ok (), d') ∧
      exec (stmts.forM fun a => a.2.addTo a.1) e = (.ok (), e') ∧
      Filling b b' root l (done ++ stmts) d' e' := by
  induction stmts generalizing d e done with
  | nil => exact ⟨d, e, rfl, rfl, by rwa [List.append_nil]⟩
  | cons a stmts ih =>
    obtain ⟨hfirst, hrest⟩ := List.forall_mem_cons.mp hstmts
    obtain ⟨d₁, e₁, hx, hx', h₁⟩ := h.addTo hreg hl hwf hfirst
    obtain ⟨d₂, e₂, hxs, hxs', h₂⟩ := ih h₁ hrest
    refine ⟨d₂, e₂, ?_, ?_, ?_⟩
    · rw [List.forM, exec_bind, hx]
      exact hxs
    · rw [List.forM, exec_bind, hx']
      exact hxs'
    · rwa [List.append_assoc, List.singleton_append] at h₂

end Fill

/-- The bodies refer to fields that their classes have if and only if all these fields are found. -/
theorem fieldsOwned_iff {ms : List (MethodId × Method)}
    (hx : exec desc.declareAll {} = (.ok ms, d)) : desc.FieldsOwned ↔
      ∀ a ∈ listing ms, ∀ reference ∈ a.2.reference?, (d.program.readField? reference).isSome := by
  have hd := (declared_all hx).2
  simp only [isSome_readField?_iff hd]
  rw [FieldsOwned, ← methods_of_declareAll hx]
  constructor
  · intro h a ha
    obtain ⟨b, hb, ha⟩ := List.mem_flatMap.mp ha
    obtain ⟨s, hs, rfl⟩ := List.mem_map.mp ha
    exact h b.2 (List.mem_map_of_mem hb) s hs
  · intro h m hm s hs
    obtain ⟨b, hb, rfl⟩ := List.mem_map.mp hm
    exact h (b.1, s) (List.mem_flatMap.mpr ⟨b, hb, List.mem_map_of_mem hs⟩)

section Loaded

variable {ms : List (MethodId × Method)} (hx : exec desc.declareAll {} = (.ok ms, d))
  (hx' : exec desc'.declareAll {} = (.ok ms, e)) (h : Apart root l d e)
  (hl : ∀ c ∈ l, c ∈ d.program.orphans root) (entry : Option Entry)
include hx hx' h hl

theorem exec_finish_iff_fieldsOwned :
    (∃ p, (exec (finish (listing ms) entry) d).1 = .ok p) ↔
      (∃ q, (exec (finish (listing ms) entry) e).1 = .ok q) ∧ desc.FieldsOwned := by
  obtain ⟨hwf, hreg, hempty⟩ := declared_of_declareAll hx
  obtain ⟨hwf', hreg', hempty'⟩ := declared_of_declareAll hx'
  have hnone (c : ClassId) (hc : c ∈ l) : (d.program.classDecl c).superclass = none :=
    ((Program.mem_orphans hreg).mp (hl c hc)).2.2.1
  rw [exec_finish_iff hwf hreg hempty, exec_finish_iff hwf' hreg' hempty', fieldsOwned_iff hx,
    start?_adopted h.adopted]
  constructor
  · intro hok
    obtain ⟨hstmts, hstart⟩ := hok
    have hfields : ∀ a ∈ listing ms, ∀ reference ∈ a.2.reference?,
        (d.program.readField? reference).isSome := by
      intro a ha reference hr
      obtain ⟨stmt, hread, -⟩ := hstmts a ha
      exact Stmt.isSome_readField?_of_read? hread hr
    refine ⟨⟨fun a ha => ?_, hstart⟩, hfields⟩
    exact (Stmt.accepts_adopted h.adopted hnone (hfields a ha) a.1).mpr (hstmts a ha)
  · intro hok
    obtain ⟨⟨hstmts, hstart⟩, hfields⟩ := hok
    refine ⟨fun a ha => ?_, hstart⟩
    exact (Stmt.accepts_adopted h.adopted hnone (hfields a ha) a.1).mp (hstmts a ha)

theorem sameButOrder_of_exec_finish {p q : Program}
    (hp : (exec (finish (listing ms) entry) d).1 = .ok p)
    (hq : (exec (finish (listing ms) entry) e).1 = .ok q) : p.SameButOrder q := by
  obtain ⟨hwf, hreg, hempty⟩ := declared_of_declareAll hx
  obtain ⟨-, hreg', -⟩ := declared_of_declareAll hx'
  obtain ⟨hstmts, hentry⟩ := (exec_finish_iff hwf hreg hempty).mp ⟨p, hp⟩
  obtain ⟨start, hstart⟩ := Option.isSome_iff_exists.mp hentry
  have hempties : Filling d.program e.program root l [] d e :=
    ⟨h.adopted, filled_nil hreg hempty, .refl hreg'⟩
  obtain ⟨d₁, e₁, hfill, hfill', hfilling⟩ := hempties.addAll hreg hl hwf hstmts
  obtain ⟨p₁, q₁, hp₁, hq₁, hsame⟩ := hfilling.complete hreg hl h.named hstart
  rw [finish, exec_bind, hfill] at hp
  rw [finish, exec_bind, hfill'] at hq
  cases hp.symm.trans hp₁
  cases hq.symm.trans hq₁
  exact hsame

end Loaded

/-- Two descriptions that differ in where the root class is written. -/
theorem WritesRoot.sameButOrder (h : desc.WritesRoot desc') :
    ((∃ p, (exec desc.build {}).1 = .ok p) ↔
      (∃ q, (exec desc'.build {}).1 = .ok q) ∧ desc.FieldsOwned) ∧
    ∀ p q, (exec desc.build {}).1 = .ok p → (exec desc'.build {}).1 = .ok q →
      Program.SameButOrder p q := by
  have hdeclare := h.together_declareAll
  rw [build_eq_finish, build_eq_finish, exec_bind, exec_bind, h.entry]
  rcases hx : exec desc.declareAll {} with ⟨u | ms, d⟩ <;>
    rcases hx' : exec desc'.declareAll {} with ⟨u' | ms', e⟩ <;> rw [hx, hx'] at hdeclare
  · simp
  · cases hdeclare
  · cases hdeclare
  · cases hdeclare with
    | ok hapart =>
      obtain ⟨root, l, hapart, hl⟩ := hapart
      exact ⟨exec_finish_iff_fieldsOwned hx hx' hapart hl desc.entry, fun p q hp hq =>
        sameButOrder_of_exec_finish hx hx' hapart hl desc.entry hp hq⟩

theorem registered_of_build (h : (exec desc.build {}).1 = .ok p) : p.Registered :=
  (finished_of_build (Prod.ext h rfl)).registered

/-- It makes no difference to a program whether the root class is written, but where it is not,
fields have to be found along the superclasses that are for there to be a program. -/
theorem build_writesRoot (h : desc.WritesRoot desc') :
    ((∃ p, (exec desc.build {}).1 = .ok p) ↔
      (∃ q, (exec desc'.build {}).1 = .ok q) ∧ desc.FieldsOwned) ∧
    ∀ p q, (exec desc.build {}).1 = .ok p → (exec desc'.build {}).1 = .ok q →
      q = { p with hierarchy := q.hierarchy } ∧ ∀ c sup, q.isSubtype c sup = p.isSubtype c sup := by
  obtain ⟨haccepts, hsame⟩ := h.sameButOrder
  refine ⟨haccepts, fun p q hp hq => ?_⟩
  have horder := hsame p q hp hq
  exact ⟨horder.rest, Program.isSubtype_congr (registered_of_build hp) (registered_of_build hq)
    horder.parents⟩

/-- A mug is a cup. Every object has an owner. -/
def cups (superclass : Option String) (body : List Stmt) : Description where
  entry := some { cls := "Mug", method := "main()V" }
  classes := [
    { name := rootClassName
      fields := [{ name := "owner", type := "Ljava/lang/Object;", isStatic := true }] },
    { name := "Cup"
      superclass
      fields := [{ name := "label", type := "Ljava/lang/Object;", isStatic := true }] },
    { name := "Mug"
      superclass := some "Cup"
      methods := [
        { signature := "main()V"
          isStatic := true
          locals := [{ name := "x", type := "Ljava/lang/Object;" }]
          body }] }]

theorem cups_writesRoot (body : List Stmt) :
    (cups none body).WritesRoot (cups (some rootClassName) body) where
  entry := rfl
  classes := .cons .same (.cons (.written ⟨rfl, rfl, by decide⟩) (.cons .same .nil))
  root := ⟨_, List.mem_cons_self, rfl⟩

/-- A field that is inherited and the field of the root class. -/
theorem build_writesRoot_cups :
    let body : List Stmt := [.load "x" none "Mug.label", .load "x" none "java/lang/Object.owner"]
    let p := (cups none body).program
    let q := (cups (some rootClassName) body).program
    (cups none body).WritesRoot (cups (some rootClassName) body) ∧
      (exec (cups none body).build {}).1 = .ok p ∧
      (exec (cups (some rootClassName) body).build {}).1 = .ok q ∧ (cups none body).FieldsOwned ∧
      q = { p with hierarchy := q.hierarchy } ∧ ∀ c sup, q.isSubtype c sup = p.isSubtype c sup := by
  intro body p q
  have hwrites := cups_writesRoot body
  have hp : (exec (cups none body).build {}).1 = .ok p := exec_build (by decide +kernel)
  have hq : (exec (cups (some rootClassName) body).build {}).1 = .ok q :=
    exec_build (by decide +kernel)
  obtain ⟨hloads, hsame⟩ := build_writesRoot hwrites
  exact ⟨hwrites, hp, hq, (hloads.mp ⟨p, hp⟩).2, hsame p q hp hq⟩

/-- The field of the root class is found through a mug only if the superclass of cups is written. -/
theorem build_owner_of_mug :
    let body : List Stmt := [.load "x" none "Mug.owner"]
    (cups none body).WritesRoot (cups (some rootClassName) body) ∧
      (∃ q, (exec (cups (some rootClassName) body).build {}).1 = .ok q) ∧
      ¬∃ p, (exec (cups none body).build {}).1 = .ok p := by
  intro body
  refine ⟨cups_writesRoot body, ⟨_, exec_build (by decide +kernel)⟩, ?_⟩
  have hfails : ¬(exec (cups none body).build {}).1.toOption.isSome := by decide +kernel
  rintro ⟨p, hp⟩
  rw [hp] at hfails
  exact hfails rfl

end Description

end PointsTo
