import PointsTo.Proofs.Members

namespace PointsTo.Program

variable {p q : Program}

/-- Names stand for classes one to one, each class is in the hierarchy, links lead to classes, and
all is counted. -/
structure Registered (p : Program) : Prop where
  counted : p.Counted
  name {n c} : p.findClass? n = some c ↔ p.classes.Holds c ∧ (p.classDecl c).name = n
  id {c} (h : p.classes.Holds c) : (p.classDecl c).id = c
  link {l} (h : l ∈ p.hierarchy.links) : p.classes.Holds l.sub ∧ p.classes.Holds l.sup
  nodes : p.NodesMatch

theorem registered_empty : Registered {} where
  counted := counted_empty
  name := by
    intro n c
    constructor
    · intro h
      simp [findClass?] at h
    · intro h
      cases h.1
  id h := by cases h
  link h := (Array.not_mem_empty _ h).elim
  nodes := ready_empty.nodes

namespace Registered

variable (h : p.Registered)
include h

theorem ready : p.Ready where
  counted := h.counted
  names n c hc := (h.name.mp hc).1
  ids c hc := by
    obtain ⟨i, hi⟩ := Table.mem_toList.mp hc
    have hc := h.id (Table.holds_of_get? hi)
    rw [classDecl, Table.get_of_get? hi] at hc
    rw [hc]
    exact Table.holds_of_get? hi
  nodes := h.nodes

theorem pushClass {c : ClassDecl} (hid : c.id = p.classes.nextId)
    (hnew : p.findClass? c.name = none) : (p.pushClass c).Registered := by
  have hclass (i : ClassId) :
      (p.pushClass c).classDecl i = if i = p.classes.nextId then c else p.classDecl i :=
    Table.get_push
  have hholds (i : ClassId) :
      (p.pushClass c).classes.Holds i ↔ p.classes.Holds i ∨ i = p.classes.nextId :=
    Table.holds_push
  refine { counted := h.counted.pushClass c, name := ?_, id := ?_, link := ?_
           nodes := h.nodes.pushClass hid }
  · intro n i
    rw [findClass?_pushClass, hclass, hholds]
    by_cases hi : i = p.classes.nextId
    · have hn : p.findClass? n ≠ some i := fun hf =>
        Table.not_holds_nextId (hi ▸ (h.name.mp hf).1)
      by_cases hc : c.name = n <;> simp [hi, hc, hid]
      rwa [← hi]
    · have hne : c.id ≠ i := fun he => hi (he.symm.trans hid)
      by_cases hc : c.name = n
      · have hold : ¬(p.classes.Holds i ∧ (p.classDecl i).name = n) := by
          rw [← h.name, ← hc, hnew]
          simp
        simpa [hi, hc, hne] using hold
      · simp [hi, hc, h.name]
  · intro i hi
    rw [hclass]
    split
    · next hn => rw [hid, hn]
    · next hn => exact h.id (((hholds i).mp hi).resolve_right hn)
  · intro l hl
    have hold := h.link (Hierarchy.links_insertNode (c := c.id) ▸ hl)
    exact ⟨(hholds _).mpr (.inl hold.1), (hholds _).mpr (.inl hold.2)⟩

/-- Only what makes a class known matters. -/
theorem congr (hq : q.Counted) (hids : q.classIds = p.classIds)
    (hsize : q.classes.size = p.classes.size) (hnodes : q.hierarchy.nodes = p.hierarchy.nodes)
    (hname : ∀ c, (q.classDecl c).id = (p.classDecl c).id ∧
      (q.classDecl c).name = (p.classDecl c).name)
    (hlink : ∀ l ∈ q.hierarchy.links, l ∈ p.hierarchy.links ∨
      p.classes.Holds l.sub ∧ p.classes.Holds l.sup) : q.Registered := by
  have hholds (c : ClassId) : q.classes.Holds c ↔ p.classes.Holds c := by
    rw [Table.Holds, Table.Holds, hsize]
  refine { counted := hq, name := ?_, id := ?_, link := ?_, nodes := ?_ }
  · intro n c
    rw [findClass?, hids, hholds, (hname c).2]
    exact h.name
  · intro c hc
    rw [(hname c).1]
    exact h.id ((hholds c).mp hc)
  · intro l hl
    rw [hholds, hholds]
    exact (hlink l hl).elim h.link fun hends => hends
  · have hold := h.nodes
    unfold NodesMatch at hold ⊢
    rw [hnodes, hold, Table.ids, Table.ids, hsize]

theorem modifyClass {c : ClassId} {f : ClassDecl → ClassDecl}
    (hf : ∀ d, (f d).id = d.id ∧ (f d).name = d.name) : (p.modifyClass c f).Registered := by
  refine h.congr (h.counted.modifyClass c f) rfl Table.size_modify rfl (fun i => ?_)
    fun l hl => .inl hl
  rcases classDecl_modifyClass (p := p) c f i with hi | hi <;> rw [hi]
  · exact ⟨rfl, rfl⟩
  · exact hf _

end Registered

theorem mem_insert_links {h : Hierarchy} {sub sup : ClassId} {kind : Inheritance} {l : Link}
    (hl : l ∈ (h.insert sub sup kind).links) : l ∈ h.links ∨ l = ⟨sub, sup, kind⟩ := by
  rw [Hierarchy.insert] at hl
  split at hl
  · exact .inl hl
  · exact Array.mem_push.mp hl

/-- Every change keeps the classes known by their names. -/
theorem Edit.registered (he : Edit p q) (h : p.Registered) : q.Registered := by
  have hq : q.Counted := he.counted h.counted
  cases he with
  | pushClass c hid hnew => exact h.pushClass hid hnew
  | modifyClass c f hdecl hsup hinterfaces hname => exact h.modifyClass hname
  | link sub sup kind hkind hsub hsup =>
    refine h.congr hq rfl rfl Hierarchy.nodes_insert (fun _ => ⟨rfl, rfl⟩) fun l hl => ?_
    rcases mem_insert_links hl with hl | rfl
    · exact .inl hl
    · exact .inr ⟨hsub, hsup⟩
  | pushField | pushMethod =>
    refine h.congr hq rfl Table.size_modify rfl (fun i => ?_) fun l hl => .inl hl
    exact Prod.mk.inj (Table.apply_get_modify (g := fun d : ClassDecl => (d.id, d.name))
      fun _ => rfl)
  | pushStmt m stmt =>
    rw [pushStmt_eq] at hq ⊢
    exact h.congr hq rfl rfl rfl (fun _ => ⟨rfl, rfl⟩) fun l hl => .inl hl
  | pushThis | pushParam | pushLocal | startAt =>
    exact h.congr hq rfl rfl rfl (fun _ => ⟨rfl, rfl⟩) fun l hl => .inl hl

theorem Edits.registered (he : Edits p q) (h : p.Registered) : q.Registered :=
  he.invariant (fun _ _ he => he.registered) h

theorem Finished.registered (h : p.Finished) : p.Registered := h.edits.1.registered registered_empty

/-- The program after a class is mentioned by name. -/
def mention (p : Program) (name : String) : Program :=
  match p.findClass? name with
  | some _ => p
  | none => p.pushClass { id := p.classes.nextId, name, defined := false }

theorem mention_of_some {name : String} {c : ClassId} (h : p.findClass? name = some c) :
    p.mention name = p := by
  rw [mention, h]

theorem mention_of_none {name : String} (h : p.findClass? name = none) :
    p.mention name = p.pushClass { id := p.classes.nextId, name, defined := false } := by
  rw [mention, h]

theorem Ready.mention (h : p.Ready) (name : String) : (p.mention name).Ready := by
  cases hf : p.findClass? name with
  | some c =>
    rw [mention_of_some hf]
    exact h
  | none =>
    rw [mention_of_none hf]
    exact (Edit.pushClass _ rfl hf rfl ⟨rfl, rfl⟩ rfl).edits.ready h

theorem Registered.mention (h : p.Registered) (name : String) : (p.mention name).Registered := by
  cases hf : p.findClass? name with
  | some c =>
    rw [mention_of_some hf]
    exact h
  | none =>
    rw [mention_of_none hf]
    exact h.pushClass rfl hf

/-- Only classes can be added, with their names and nodes. -/
theorem mention_eq (p : Program) (name : String) : p.mention name =
    { p with
      counters.classes := (p.mention name).counters.classes
      classes := (p.mention name).classes
      classIds := (p.mention name).classIds
      hierarchy := (p.mention name).hierarchy } := by
  cases hf : p.findClass? name with
  | some c => rw [mention_of_some hf]
  | none =>
    rw [mention_of_none hf]
    rfl

/-- All names that were known stand for the same classes, and the one that is mentioned is known. -/
theorem findClass?_mention (p : Program) (name n : String) :
    (p.mention name).findClass? n =
      if n = name then some ((p.findClass? name).getD p.classes.nextId) else p.findClass? n := by
  cases hf : p.findClass? name with
  | some c =>
    rw [mention_of_some hf]
    split
    · next hn => rw [hn, hf, Option.getD_some]
    · rfl
  | none =>
    rw [mention_of_none hf, findClass?_pushClass]
    by_cases hn : n = name
    · simp [hn]
    · simp [hn, Ne.symm hn]

theorem findClass?_mention_of_some {n : String} {c : ClassId} (h : p.findClass? n = some c)
    (name : String) : (p.mention name).findClass? n = some c := by
  rw [findClass?_mention]
  split
  · next hn => rw [← hn, h, Option.getD_some]
  · exact h

theorem isSome_findClass?_mention (p : Program) (name n : String) :
    ((p.mention name).findClass? n).isSome ↔ (p.findClass? n).isSome ∨ n = name := by
  rw [findClass?_mention]
  split
  · next hn => simp [hn]
  · next hn => simp [hn]

end PointsTo.Program

namespace PointsTo.Draft

variable {d : Draft}

theorem exec_mentionClass_eq (d : Draft) (hd : d.program.Ready) (name : String) :
    ∃ c d', exec (mentionClass name) d = (.ok c, d') ∧ d'.program = d.program.mention name ∧
      d'.program.findClass? name = some c := by
  cases hf : d.program.findClass? name with
  | some c =>
    exact ⟨c, d, by rw [exec_mentionClass hd, hf], (Program.mention_of_some hf).symm, hf⟩
  | none =>
    refine ⟨d.program.classes.nextId,
      ⟨d.program.mention name, d.events.push (.registering name)⟩, ?_, rfl, ?_⟩
    · rw [exec_mentionClass hd, hf, Program.mention_of_none hf]
    · rw [Program.findClass?_mention, if_pos rfl, hf, Option.getD_none]

end PointsTo.Draft
