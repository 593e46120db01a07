import PointsTo.Proofs.WellFormed

namespace PointsTo.Program

variable {p q : Program}

/-- The lists of a program agree with its tables and links. -/
structure Listed (p : Program) : Prop where
  calls {m s} : s ∈ (p.methodDecl m).calls ↔ (p.stmt s).call?.isSome ∧ p.container s = m
  signature {c g m} (h : (g, m) ∈ (p.classDecl c).declared) : (p.methodDecl m).signature = g
  implements {l} (h : l ∈ p.hierarchy.links) (hk : l.kind = .implements) :
    l.sup ∈ (p.classDecl l.sub).interfaces

theorem listed_empty : Listed {} where
  calls := placed_empty.mem_calls
  signature h := by cases h
  implements h := (Array.not_mem_empty _ h).elim

/-- A method keeps its signature. -/
theorem Edit.signature_eq (he : Edit p q) {m : MethodId} (hm : p.methods.Holds m) :
    (q.methodDecl m).signature = (p.methodDecl m).signature := by
  have hkeep {i : MethodId} (hi : p.methods.Holds i) {f : MethodDecl → MethodDecl}
      (hf : ∀ d, (f d).signature = d.signature) :
      ((p.modifyMethod i f).methodDecl m).signature = (p.methodDecl m).signature := by
    rw [methodDecl_modifyMethod hi]
    split
    · exact hf _
    · rfl
  cases he with
  | pushMethod decl =>
    have hne : m ≠ p.methods.nextId := fun h => Table.not_holds_nextId (h ▸ hm)
    have hmethod : (p.pushMethod decl).methodDecl m =
        if m = p.methods.nextId then decl else p.methodDecl m := Table.get_push
    rw [hmethod, if_neg hne]
  | pushStmt i stmt hp hi =>
    rw [methodDecl_pushStmt hp hi]
    split
    · rfl
    · rfl
  | pushThis i className hp hi =>
    rw [pushThis_eq]
    exact hkeep hi fun _ => rfl
  | pushParam i name type hp hi =>
    rw [pushParam_eq]
    exact hkeep hi fun _ => rfl
  | pushLocal i name type hp hi => exact hkeep hi fun _ => rfl
  | pushClass | modifyClass | link | pushField | startAt => rfl

/-- What a class declares was declared before, or it is the method that is being added. -/
theorem Edit.declared_cases (he : Edit p q) {c : ClassId} {g : Signature} {m : MethodId}
    (h : (g, m) ∈ (q.classDecl c).declared) :
    (g, m) ∈ (p.classDecl c).declared ∨
      (q.methodDecl m).signature = g ∧ ¬p.methods.Holds m := by
  cases he with
  | pushClass d hid hnew hsup hdecl =>
    have hclass : (p.pushClass d).classDecl c =
        if c = p.classes.nextId then d else p.classDecl c := Table.get_push
    rw [hclass] at h
    split at h
    · rw [hdecl.1] at h
      cases h
    · exact .inl h
  | modifyClass i f hdecl =>
    rcases classDecl_modifyClass (p := p) i f c with hc | hc
    · rw [hc] at h
      exact .inl h
    · rw [hc, (hdecl _).1] at h
      exact .inl h
  | pushField f =>
    rw [Program.pushField] at h
    rcases classDecl_modifyClass f.cls (fun d => { d with fields := d.fields.push f.id }) c
      with hc | hc <;> rw [hc] at h <;> exact .inl h
  | pushMethod decl hid =>
    rw [Program.pushMethod] at h
    rcases classDecl_modifyClass decl.cls (fun d => { d with
      methods := d.methods.push decl.id
      declared := d.declared ++ [(decl.signature, decl.id)] }) c with hc | hc <;> rw [hc] at h
    · exact .inl h
    · rcases List.mem_append.mp h with h | h
      · exact .inl h
      · obtain ⟨rfl, rfl⟩ := Prod.mk.inj (List.mem_singleton.mp h)
        have hmethod : (p.pushMethod decl).methodDecl decl.id =
            if decl.id = p.methods.nextId then decl else p.methodDecl decl.id := Table.get_push
        rw [hmethod, if_pos hid, hid]
        exact .inr ⟨rfl, Table.not_holds_nextId⟩
  | pushStmt i stmt =>
    rw [classDecl_pushStmt] at h
    exact .inl h
  | pushThis | pushParam | pushLocal | link | startAt => exact .inl h

/-- A class keeps its interfaces. -/
theorem Edit.mem_interfaces (he : Edit p q) {c i : ClassId} (h : i ∈ (p.classDecl c).interfaces) :
    i ∈ (q.classDecl c).interfaces := by
  have hkeep {r : Program} (hr : r.classes = p.classes) (j : ClassId) (f : ClassDecl → ClassDecl)
      (hf : ∀ d i, i ∈ d.interfaces → i ∈ (f d).interfaces) :
      i ∈ ((r.modifyClass j f).classDecl c).interfaces := by
    have hc : r.classDecl c = p.classDecl c := by rw [classDecl, classDecl, hr]
    rcases classDecl_modifyClass (p := r) j f c with h' | h'
    · rw [h', hc]
      exact h
    · rw [h', hc]
      exact hf _ _ h
  cases he with
  | pushClass d =>
    have hclass : (p.pushClass d).classDecl c =
        if c = p.classes.nextId then d else p.classDecl c := Table.get_push
    rw [hclass]
    split
    · next hc =>
      rw [hc, classDecl, Table.get_of_not_holds Table.not_holds_nextId] at h
      exact (Array.not_mem_empty _ h).elim
    · exact h
  | modifyClass j f hdecl hsup hinterfaces => exact hkeep rfl j f hinterfaces
  | pushField f => exact hkeep rfl f.cls _ fun _ _ h => h
  | pushMethod decl => exact hkeep rfl decl.cls _ fun _ _ h => h
  | pushStmt m stmt =>
    rw [classDecl_pushStmt]
    exact h
  | pushThis | pushParam | pushLocal | link | startAt => exact h

/-- A link was there before, or it is the one that is being made. -/
theorem Edit.links_cases (he : Edit p q) {l : Link} (h : l ∈ q.hierarchy.links) :
    l ∈ p.hierarchy.links ∨ (l.kind = .implements → l.sup ∈ (q.classDecl l.sub).interfaces) := by
  cases he with
  | pushClass c =>
    left
    rw [← Hierarchy.links_insertNode (c := c.id)]
    exact h
  | link sub sup kind hkind =>
    change l ∈ (p.hierarchy.insert sub sup kind).links at h
    rw [Hierarchy.insert] at h
    split at h
    · exact .inl h
    · rcases Array.mem_push.mp h with h | rfl
      · exact .inl h
      · exact .inr hkind
  | pushStmt m stmt =>
    rw [hierarchy_pushStmt] at h
    exact .inl h
  | _ => exact .inl h

/-- Every change keeps the lists in agreement. -/
theorem Edit.listed (he : Edit p q) (hplaced : p.Placed) (hwf : p.WellFormed) (h : p.Listed) :
    q.Listed where
  calls := (he.placed hplaced).mem_calls
  signature {c g m} hm := by
    rcases he.declared_cases hm with hm | hm
    · rw [he.signature_eq (hwf.declared hm)]
      exact h.signature hm
    · exact hm.1
  implements hl hk := by
    rcases he.links_cases hl with hl | hl
    · exact he.mem_interfaces (h.implements hl hk)
    · exact hl hk

theorem Finished.listed (h : p.Finished) : p.Listed := by
  have hall := h.edits.1.invariant (I := fun q => q.Placed ∧ q.WellFormed ∧ q.Listed)
    (fun _ _ he hq => ⟨he.placed hq.1, he.wellFormed hq.1 hq.2.1, he.listed hq.1 hq.2.1 hq.2.2⟩)
    ⟨placed_empty, .empty, listed_empty⟩
  exact hall.2.2

end PointsTo.Program
