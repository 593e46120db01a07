import PointsTo.Proofs.Bodies
import PointsTo.Proofs.Completion

namespace PointsTo

theorem Table.ext_get {κ : Entity} {α : Type} [Inhabited α] {t u : Table κ α}
    (hsize : u.size = t.size) (h : ∀ i, u.get i = t.get i) : u = t := by
  apply Table.ext
  apply Array.ext hsize
  intro i hi hi'
  have hrow := h ⟨i⟩
  rw [get, get, get?, get?, Array.getElem?_eq_getElem hi, Array.getElem?_eq_getElem hi'] at hrow
  exact hrow

namespace Program

variable {p q : Program} {root c sup : ClassId} {l : List ClassId}

theorem rest_iff : q = { p with classes := q.classes, hierarchy := q.hierarchy } ↔
    q.counters = p.counters ∧ q.fields = p.fields ∧ q.methods = p.methods ∧ q.vars = p.vars ∧
      q.stmts = p.stmts ∧ q.places = p.places ∧ q.classIds = p.classIds ∧ q.entry = p.entry := by
  cases p
  cases q
  simp

namespace Adopted

theorem refl (root : ClassId) (p : Program) : Adopted root [] p p :=
  ⟨rfl, rfl, fun c => by simp, by simp⟩

variable (h : Adopted root l p q)
include h

theorem findClass?_eq (name : String) : q.findClass? name = p.findClass? name := by
  rw [h.rest]
  rfl

theorem findVar?_eq (m : MethodId) (name : String) : q.findVar? m name = p.findVar? m name := by
  rw [h.rest]
  rfl

theorem checkStmt_eq (m : MethodId) (stmt : Stmt) : q.checkStmt m stmt = p.checkStmt m stmt := by
  rw [h.rest]
  rfl

theorem holds_iff : q.classes.Holds c ↔ p.classes.Holds c := by
  rw [Table.Holds, Table.Holds, h.size]

theorem nextId_eq : q.classes.nextId = p.classes.nextId := by
  rw [Table.nextId, Table.nextId, h.size]

theorem declaredField?_eq (c : ClassId) (name : String) :
    q.declaredField? c name = p.declaredField? c name := by
  have hfields : q.fields = p.fields := (rest_iff.mp h.rest).2.1
  rw [declaredField?, h.classDecl_eq]
  simp only [fieldDecl, hfields]
  rfl

theorem findMethod?_eq (className : String) (g : Signature) :
    q.findMethod? className g = p.findMethod? className g := by
  rw [findMethod?, findMethod?, h.findClass?_eq]
  congr 1
  funext c
  rw [h.classDecl_eq]
  rfl

/-- A change that looks at no class and no link. -/
theorem map {f : Program → Program}
    (hf : ∀ (p : Program) (classes : Table .cls ClassDecl) (hierarchy : Hierarchy),
      f { p with classes, hierarchy } = { f p with classes, hierarchy }) :
    Adopted root l (f p) (f q) := by
  have hp : f p = { f p with classes := p.classes, hierarchy := p.hierarchy } :=
    hf p p.classes p.hierarchy
  have hq : f q = { f p with classes := q.classes, hierarchy := q.hierarchy } := by
    rw [← hf p q.classes q.hierarchy, ← h.rest]
  have hclass (c : ClassId) : (f p).classDecl c = p.classDecl c := by rw [hp]; rfl
  have hclass' (c : ClassId) : (f q).classDecl c = q.classDecl c := by rw [hq]; rfl
  refine ⟨?_, ?_, fun c => ?_, fun {c sup} => ?_⟩
  · rw [hq]
  · rw [hp, hq]
    exact h.size
  · rw [hclass, hclass', h.classDecl]
  · rw [hp, hq]
    exact h.parents

/-- Classes get the same members in both programs. -/
theorem modifyClass (hc : p.classes.Holds c) {f : ClassDecl → ClassDecl}
    (hf : ∀ d superclass, f { d with superclass } = { f d with superclass }) :
    Adopted root l (p.modifyClass c f) (q.modifyClass c f) := by
  have hclass (i : ClassId) :
      (p.modifyClass c f).classDecl i = if c = i then f (p.classDecl i) else p.classDecl i :=
    Table.get_modify hc
  have hclass' (i : ClassId) :
      (q.modifyClass c f).classDecl i = if c = i then f (q.classDecl i) else q.classDecl i :=
    Table.get_modify (h.holds_iff.mpr hc)
  have hrest := rest_iff.mp h.rest
  refine ⟨rest_iff.mpr hrest, ?_, fun i => ?_, h.parents⟩
  · rw [Program.modifyClass, Program.modifyClass, Table.size_modify, Table.size_modify, h.size]
  · rw [hclass, hclass', h.classDecl]
    by_cases hci : c = i
    · by_cases hil : i ∈ l
      · rw [if_pos hci, if_pos hil, if_pos hil, if_pos hci, hf]
      · simp only [if_pos hci, if_neg hil]
    · simp only [if_neg hci]

theorem link (sub sup : ClassId) (kind kind' : Inheritance) :
    Adopted root l (p.link sub sup kind) (q.link sub sup kind') := by
  have hrest := rest_iff.mp h.rest
  refine ⟨rest_iff.mpr hrest, h.size, h.classDecl, fun {c i} => ?_⟩
  simp only [Program.link, Hierarchy.mem_parents_insert, h.parents]
  tauto

/-- Both programs give the same superclass to a class. -/
theorem extend (hc : p.classes.Holds c) (hcl : c ∉ l) (sup : ClassId) :
    Adopted root l (p.adopt sup c) (q.adopt sup c) := by
  have hclass (i : ClassId) : (p.adopt sup c).classDecl i =
      if c = i then { p.classDecl i with superclass := some sup } else p.classDecl i :=
    Table.get_modify hc
  have hclass' (i : ClassId) : (q.adopt sup c).classDecl i =
      if c = i then { q.classDecl i with superclass := some sup } else q.classDecl i :=
    Table.get_modify (h.holds_iff.mpr hc)
  have hsize : (q.adopt sup c).classes.size = (p.adopt sup c).classes.size := by
    rw [adopt, adopt]
    exact Table.size_modify.trans (h.size.trans Table.size_modify.symm)
  have hrest := rest_iff.mp h.rest
  refine ⟨rest_iff.mpr hrest, hsize, fun i => ?_, fun {i sup'} => ?_⟩
  · rw [hclass, hclass', h.classDecl]
    by_cases hci : c = i
    · subst hci
      simp only [if_pos, if_neg hcl]
    · simp only [if_neg hci]
  · simp only [adopt, Program.modifyClass, Program.link, Hierarchy.mem_parents_insert, h.parents]
    tauto

/-- Only the second program gives the root class to a class as its superclass. -/
theorem adopt (hc : p.classes.Holds c) : Adopted root (c :: l) p (q.adopt root c) := by
  have hclass (i : ClassId) : (q.adopt root c).classDecl i =
      if c = i then { q.classDecl i with superclass := some root } else q.classDecl i :=
    Table.get_modify (h.holds_iff.mpr hc)
  have hsize : (q.adopt root c).classes.size = p.classes.size := Table.size_modify.trans h.size
  have hrest := rest_iff.mp h.rest
  refine ⟨rest_iff.mpr hrest, hsize, fun i => ?_, fun {i sup'} => ?_⟩
  · rw [hclass, h.classDecl]
    by_cases hci : c = i
    · subst hci
      by_cases hcl : c ∈ l <;> simp [hcl]
    · by_cases hil : i ∈ l <;> simp [hil, hci, Ne.symm hci]
  · simp only [Program.adopt, Program.modifyClass, Program.link, Hierarchy.mem_parents_insert,
      h.parents, List.mem_cons]
    tauto

theorem pushField (f : FieldDecl) (hc : p.classes.Holds f.cls) :
    Adopted root l (p.pushField f) (q.pushField f) := by
  have hfield := h.map (f := fun p =>
    { p with counters.fields := p.counters.fields.succ, fields := p.fields.push f })
    fun _ _ _ => rfl
  exact hfield.modifyClass hc fun _ _ => rfl

theorem pushMethod (m : MethodDecl) (hc : p.classes.Holds m.cls) :
    Adopted root l (p.pushMethod m) (q.pushMethod m) := by
  have hmethod := h.map (f := fun p =>
    { p with counters.methods := p.counters.methods.succ, methods := p.methods.push m })
    fun _ _ _ => rfl
  exact hmethod.modifyClass hc fun _ _ => rfl

theorem pushStmt (m : MethodId) (stmt : Stmt) :
    Adopted root l (p.pushStmt m stmt) (q.pushStmt m stmt) := by
  apply h.map
  intro p classes hierarchy
  rw [pushStmt_eq, pushStmt_eq]
  rfl

variable (hl : ∀ c ∈ l, p.classes.Holds c)
include hl

theorem mention (name : String) : Adopted root l (p.mention name) (q.mention name) := by
  have hsame := h.findClass?_eq name
  cases hf : p.findClass? name with
  | some c =>
    rw [mention_of_some hf, mention_of_some (hsame.trans hf)]
    exact h
  | none =>
    rw [mention_of_none hf, mention_of_none (hsame.trans hf), h.nextId_eq]
    let decl : ClassDecl := { id := p.classes.nextId, name, defined := false }
    have hclass (i : ClassId) :
        (p.pushClass decl).classDecl i = if i = p.classes.nextId then decl else p.classDecl i :=
      Table.get_push
    have hclass' (i : ClassId) :
        (q.pushClass decl).classDecl i = if i = p.classes.nextId then decl else q.classDecl i := by
      rw [← h.nextId_eq]
      exact Table.get_push
    have hparents (r : Program) (c : ClassId) :
        (r.pushClass decl).hierarchy.parents c = r.hierarchy.parents c := by
      rw [Hierarchy.parents, Program.pushClass, Hierarchy.links_insertNode]
      rfl
    obtain ⟨hcounters, hfields, hmethods, hvars, hstmts, hplaces, hids, hentry⟩ :=
      rest_iff.mp h.rest
    refine ⟨rest_iff.mpr ⟨?_, hfields, hmethods, hvars, hstmts, hplaces, ?_, hentry⟩, ?_,
      fun i => ?_, fun {i sup} => ?_⟩
    · rw [Program.pushClass, Program.pushClass, hcounters]
    · rw [Program.pushClass, Program.pushClass, hids]
    · rw [Program.pushClass, Program.pushClass, Table.size_push, Table.size_push, h.size]
    · rw [hclass, hclass', h.classDecl]
      by_cases hi : i = p.classes.nextId
      · have hil : i ∉ l := fun hil => Table.not_holds_nextId (hi ▸ hl i hil)
        simp only [if_pos hi, if_neg hil]
      · simp only [if_neg hi]
    · rw [hparents, hparents]
      exact h.parents

theorem mention? (name : Option String) : Adopted root l (p.mention? name) (q.mention? name) := by
  cases name with
  | none => exact h
  | some name => exact h.mention hl name

end Adopted

namespace Adopted

variable (h : Adopted root l p q) (hnone : ∀ c ∈ l, (p.classDecl c).superclass = none)
include h hnone

/-- A walk in the second program goes where the walk in the first one goes, and possibly on. -/
theorem exists_superclassesWithin (fuel : Nat) (c? : Option ClassId) :
    ∃ more, q.superclassesWithin fuel c? = p.superclassesWithin fuel c? ++ more := by
  induction fuel generalizing c? with
  | zero => exact ⟨[], rfl⟩
  | succ fuel ih =>
    cases c? with
    | none => exact ⟨[], rfl⟩
    | some c =>
      rw [superclassesWithin, superclassesWithin, h.classDecl]
      by_cases hcl : c ∈ l
      · rw [if_pos hcl, hnone c hcl, superclassesWithin_none]
        exact ⟨_, rfl⟩
      · rw [if_neg hcl]
        obtain ⟨more, hmore⟩ := ih (p.classDecl c).superclass
        exact ⟨more, by rw [hmore, List.cons_append]⟩

theorem findField?_of_some {className name : String} {f : FieldId}
    (hf : p.findField? className name = some f) : q.findField? className name = some f := by
  obtain ⟨c, hc, hchain⟩ := Option.bind_eq_some_iff.mp hf
  have hdeclared : (fun c => q.declaredField? c name) = fun c => p.declaredField? c name :=
    funext fun c => h.declaredField?_eq c name
  obtain ⟨more, hmore⟩ := h.exists_superclassesWithin hnone q.classes.size (some c)
  rw [findField?, h.findClass?_eq, hc, Option.bind_some, superclassChain, hmore, hdeclared, h.size,
    List.findSome?_append]
  change ((p.superclassChain c).findSome? _).or _ = _
  rw [hchain, Option.some_or]

theorem readField?_of_some {reference : String} {f : FieldId}
    (hf : p.readField? reference = some f) : q.readField? reference = some f := by
  obtain ⟨r, hr, hfield⟩ := Option.bind_eq_some_iff.mp hf
  rw [readField?, hr]
  exact h.findField?_of_some hnone hfield

end Adopted

/-- Subtypes are found by the links, in whatever order they are. -/
theorem isSubtype_congr (hp : p.Registered) (hq : q.Registered)
    (h : ∀ c sup, sup ∈ q.hierarchy.parents c ↔ sup ∈ p.hierarchy.parents c)
    (c sup : ClassId) : q.isSubtype c sup = p.isSubtype c sup := by
  have hfollows : Follows q.hierarchy.parents = Follows p.hierarchy.parents := by
    funext c sup
    exact propext (h c sup)
  rw [Bool.eq_iff_iff, hq.isSubtype_iff, hp.isSubtype_iff, hfollows]

/-- Two programs with the same classes and members, and with the same links in whatever order. -/
structure SameButOrder (p q : Program) : Prop where
  rest : q = { p with hierarchy := q.hierarchy }
  parents (c sup : ClassId) : sup ∈ q.hierarchy.parents c ↔ sup ∈ p.hierarchy.parents c

section Completed

variable (h : Adopted root l p q) (hp : p.Registered) (hq : q.Registered)
include h hp hq

/-- The second program lacks the superclasses that the first one lacks and that it was not given. -/
theorem Adopted.mem_orphans_iff : c ∈ q.orphans root ↔ c ∈ p.orphans root ∧ c ∉ l := by
  rw [mem_orphans hq, mem_orphans hp, h.holds_iff, h.classDecl]
  by_cases hcl : c ∈ l
  · simp [hcl]
  · simp [hcl]

/-- When the hierarchies are completed the programs do not differ any more. -/
theorem Adopted.sameButOrder_rooted (hl : ∀ c ∈ l, c ∈ p.orphans root) :
    SameButOrder (p.rooted root) (q.rooted root) := by
  have hp' := adopted_rooted hp root
  have hq' := adopted_rooted hq root
  have hclass (c : ClassId) : (q.rooted root).classDecl c = (p.rooted root).classDecl c := by
    rw [hp'.classDecl, hq'.classDecl, h.classDecl]
    by_cases hcl : c ∈ l
    · have hcq : c ∉ q.orphans root := fun hc => ((h.mem_orphans_iff hp hq).mp hc).2 hcl
      rw [if_pos hcl, if_neg hcq, if_pos (hl c hcl)]
    · have hiff : c ∈ q.orphans root ↔ c ∈ p.orphans root := by
        rw [h.mem_orphans_iff hp hq, and_iff_left hcl]
      simp only [if_neg hcl, hiff]
  have hclasses : (q.rooted root).classes = (p.rooted root).classes := by
    apply Table.ext_get _ hclass
    rw [hp'.size, hq'.size, h.size]
  constructor
  · obtain ⟨hcounters, hfields, hmethods, hvars, hstmts, hplaces, hids, hentry⟩ :=
      rest_iff.mp h.rest
    rw [hq'.rest, hclasses, hcounters, hfields, hmethods, hvars, hstmts, hplaces, hids, hentry,
      hp'.rest]
  · intro c sup
    rw [hq'.parents, h.parents, hp'.parents, h.mem_orphans_iff hp hq]
    constructor
    · rintro ((hsup | ⟨hcl, rfl⟩) | ⟨⟨hc, -⟩, rfl⟩)
      · exact .inl hsup
      · exact .inr ⟨hl c hcl, rfl⟩
      · exact .inr ⟨hc, rfl⟩
    · rintro (hsup | ⟨hc, rfl⟩)
      · exact .inl (.inl hsup)
      · by_cases hcl : c ∈ l
        · exact .inl (.inr ⟨hcl, rfl⟩)
        · exact .inr ⟨⟨hc, hcl⟩, rfl⟩

end Completed

end Program

namespace Description.Stmt

open Program

variable {p q : Program} {root : ClassId} {l : List ClassId} {m : MethodId} {s : Stmt}

/-- The reference to a field in a statement. -/
def reference? : Stmt → Option String
  | load _ _ f | store _ f _ => some f
  | _ => none

theorem isSome_readField?_of_read? {lookup : String → Option ClassId} {stmt : PointsTo.Stmt}
    (hread : s.read? p m lookup = some stmt) {reference : String}
    (href : s.reference? = some reference) : (p.readField? reference).isSome := by
  cases s with
  | load target base f =>
    cases href
    simp only [read?, Option.bind_eq_bind, Option.bind_eq_some_iff] at hread
    obtain ⟨x, -, b, -, g, hg, -⟩ := hread
    rw [hg]
    rfl
  | store base f source =>
    cases href
    simp only [read?, Option.bind_eq_bind, Option.bind_eq_some_iff] at hread
    obtain ⟨b, -, g, hg, -⟩ := hread
    rw [hg]
    rfl
  | _ => cases href

section Adopted

variable (h : Adopted root l p q) (hnone : ∀ c ∈ l, (p.classDecl c).superclass = none)
  (hfields : ∀ reference ∈ s.reference?, (p.readField? reference).isSome)
include h hnone hfields

/-- A statement whose fields are found in the first program is read in the same way in both. -/
theorem read?_adopted (m : MethodId) (lookup : String → Option ClassId) :
    s.read? q m lookup = s.read? p m lookup := by
  have hvar : q.findVar? m = p.findVar? m := funext (h.findVar?_eq m)
  have hfield : ∀ reference ∈ s.reference?, q.readField? reference = p.readField? reference := by
    intro reference href
    obtain ⟨f, hf⟩ := Option.isSome_iff_exists.mp (hfields reference href)
    rw [hf, h.readField?_of_some hnone hf]
  cases s with
  | load target base f => simp only [read?, hvar, hfield f rfl]
  | store base f source => simp only [read?, hvar, hfield f rfl]
  | _ => simp only [read?, hvar]

theorem accepts_adopted (m : MethodId) : s.Accepts q m ↔ s.Accepts p m := by
  simp only [Accepts, read?_adopted h hnone hfields, h.checkStmt_eq]

end Adopted

end Description.Stmt

end PointsTo
