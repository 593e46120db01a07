import PointsTo.Proofs.Registry
import PointsTo.Proofs.Walks

namespace PointsTo

section Search

variable {α : Type} [DecidableEq α] {next : α → List α} {queue seen : List α} {root x : α}
  {fuel : Nat}

/-- One node follows another in a search. -/
def Follows (next : α → List α) (x y : α) : Prop := y ∈ next x

/-- A search finds nothing but what can be reached from what it has seen. -/
theorem reachable_of_mem_searchFrom (hqueue : queue ⊆ seen)
    (hseen : ∀ y ∈ seen, Relation.ReflTransGen (Follows next) root y)
    (h : x ∈ searchFrom next fuel queue seen) : Relation.ReflTransGen (Follows next) root x := by
  induction fuel generalizing queue seen with
  | zero => exact hseen x h
  | succ fuel ih =>
    cases queue with
    | nil => exact hseen x h
    | cons y queue =>
      rw [searchFrom] at h
      have hy := hseen y (hqueue List.mem_cons_self)
      refine ih (fun z hz => ?_) (fun z hz => ?_) h
      · rcases List.mem_append.mp hz with hz | hz
        · exact List.mem_append_left _ (hqueue (List.mem_cons_of_mem y hz))
        · exact List.mem_append_right _ hz
      · rcases List.mem_append.mp hz with hz | hz
        · exact hseen z hz
        · exact hy.tail (List.mem_eraseDups.mp (List.mem_of_mem_filter hz))

/-- With fuel enough a search ends with a set of nodes that nothing leads out of. -/
theorem searchFrom_closed {nodes : List α} (hnext : ∀ x y, y ∈ next x → y ∈ nodes)
    (h : Provided nodes queue seen fuel)
    (hdone : ∀ y ∈ seen, y ∉ queue → ∀ z ∈ next y, z ∈ seen) :
    seen ⊆ searchFrom next fuel queue seen ∧
      ∀ y ∈ searchFrom next fuel queue seen, ∀ z ∈ next y,
        z ∈ searchFrom next fuel queue seen := by
  have hnil {seen : List α} (hdone : ∀ y ∈ seen, y ∉ [] → ∀ z ∈ next y, z ∈ seen) :
      seen ⊆ seen ∧ ∀ y ∈ seen, ∀ z ∈ next y, z ∈ seen :=
    ⟨List.Subset.refl seen, fun y hy => hdone y hy List.not_mem_nil⟩
  induction fuel generalizing queue seen with
  | zero =>
    rw [h.queue_eq_nil] at hdone ⊢
    exact hnil hdone
  | succ fuel ih =>
    cases queue with
    | nil => exact hnil hdone
    | cons x queue =>
      rw [searchFrom]
      generalize hfresh : (next x).eraseDups.filter (· ∉ seen) = fresh
      have hexpanded := h.expand hnext
      rw [hfresh] at hexpanded
      have hdone' : ∀ y ∈ seen ++ fresh, y ∉ queue ++ fresh → ∀ z ∈ next y, z ∈ seen ++ fresh := by
        intro y hy hn z hz
        obtain ⟨hnq, hnf⟩ := not_or.mp (mt List.mem_append.mpr hn)
        have hy := (List.mem_append.mp hy).resolve_right hnf
        apply List.mem_append.mpr
        by_cases hyx : y = x
        · by_cases hzs : z ∈ seen
          · exact .inl hzs
          · right
            rw [← hfresh, ← hyx]
            exact List.mem_filter.mpr ⟨List.mem_eraseDups.mpr hz, by simp [hzs]⟩
        · left
          apply hdone y hy _ z hz
          intro hmem
          exact (List.mem_cons.mp hmem).elim hyx hnq
      obtain ⟨hsub, hclosed⟩ := ih hexpanded hdone'
      exact ⟨fun y hy => hsub (List.mem_append_left fresh hy), hclosed⟩

/-- A search that has fuel enough finds exactly the nodes that can be reached. -/
theorem mem_breadthFirst_iff (nodes : List α) (hnext : ∀ x y, y ∈ next x → y ∈ nodes)
    (hfuel : nodes.length + 1 ≤ fuel) :
    x ∈ breadthFirst next fuel root ↔ Relation.ReflTransGen (Follows next) root x := by
  constructor
  · intro h
    refine reachable_of_mem_searchFrom (List.Subset.refl _) (fun y hy => ?_) h
    rw [List.mem_singleton.mp hy]
  · intro h
    have hnext' (x y : α) (hy : y ∈ next x) : y ∈ root :: nodes := .tail _ (hnext x y hy)
    obtain ⟨hseen, hclosed⟩ := searchFrom_closed hnext' (.root nodes root hfuel)
      fun y hy hn => (hn hy).elim
    induction h with
    | refl => exact hseen List.mem_cons_self
    | tail _ hxy ih => exact hclosed _ ih _ hxy

end Search

namespace Program

variable {p : Program} {c sub sup root : ClassId}

/-- The interfaces that classes implement are flagged as interfaces. -/
def InterfacesFlagged (p : Program) : Prop :=
  ∀ c, ∀ i ∈ (p.classDecl c).interfaces, (p.classDecl i).isInterface

theorem interfacesFlagged_of_all
    (h : p.classes.ids.all fun c => (p.classDecl c).interfaces.all fun i =>
      (p.classDecl i).isInterface) : p.InterfacesFlagged := by
  intro c i hi
  have hc : p.classes.Holds c := by
    by_contra hn
    rw [classDecl, Table.get_of_not_holds hn] at hi
    exact Array.not_mem_empty _ hi
  exact Array.all_eq_true'.mp (List.all_eq_true.mp h c (Table.mem_ids.mpr hc)) i hi

theorem mem_parents {h : Hierarchy} :
    sup ∈ h.parents sub ↔ ∃ l ∈ h.links, l.sub = sub ∧ l.sup = sup := by
  simp [Hierarchy.parents, and_assoc]

theorem mem_directSubtypes {h : Hierarchy} {kind : Inheritance} :
    sub ∈ h.directSubtypes kind sup ↔ ∃ l ∈ h.links, l.sup = sup ∧ l.kind = kind ∧ l.sub = sub := by
  simp [Hierarchy.directSubtypes, Id.sort, and_assoc]

/-- All direct subtypes of a class are linked to it. -/
theorem exists_link_of_mem_directSubtypes (h : sub ∈ p.directSubtypes sup) :
    ∃ l ∈ p.hierarchy.links, l.sub = sub := by
  have hlink {kind : Inheritance} (h : sub ∈ p.hierarchy.directSubtypes kind sup) :
      ∃ l ∈ p.hierarchy.links, l.sub = sub := by
    obtain ⟨l, hl, -, -, hsub⟩ := mem_directSubtypes.mp h
    exact ⟨l, hl, hsub⟩
  rw [directSubtypes] at h
  split at h
  · rcases List.mem_append.mp h with h | h
    · exact hlink h
    · exact hlink h
  · exact hlink h

/-- A link up is a link down again. -/
theorem Listed.mem_directSubtypes (hp : p.Listed) (hflags : p.InterfacesFlagged)
    (h : sup ∈ p.hierarchy.parents sub) : sub ∈ p.directSubtypes sup := by
  obtain ⟨l, hl, hsub, hsup⟩ := mem_parents.mp h
  rw [directSubtypes]
  cases hk : l.kind with
  | «extends» =>
    have hmem : sub ∈ p.hierarchy.directSubtypes .extends sup :=
      Program.mem_directSubtypes.mpr ⟨l, hl, hsup, hk, hsub⟩
    split
    · exact List.mem_append_right _ hmem
    · exact hmem
  | implements =>
    have hinterface : (p.classDecl sup).isInterface := by
      rw [← hsup]
      exact hflags _ _ (hp.implements hl hk)
    rw [if_pos hinterface]
    exact List.mem_append_left _ (Program.mem_directSubtypes.mpr ⟨l, hl, hsup, hk, hsub⟩)

theorem mem_walk_iff : sup ∈ breadthFirst p.hierarchy.parents (p.hierarchy.links.size + 1) c ↔
    Relation.ReflTransGen (Follows p.hierarchy.parents) c sup := by
  refine mem_breadthFirst_iff (p.hierarchy.links.toList.map Link.sup) (fun x y hy => ?_) ?_
  · obtain ⟨l, hl, -, rfl⟩ := mem_parents.mp hy
    exact List.mem_map_of_mem (Array.mem_toList_iff.mpr hl)
  · rw [List.length_map, Array.length_toList]

theorem mem_supertypes_iff : sup ∈ p.hierarchy.supertypes c ↔
    c ∈ p.hierarchy.nodes ∧ Relation.ReflTransGen (Follows p.hierarchy.parents) c sup := by
  rw [Hierarchy.supertypes, ← mem_walk_iff]
  by_cases hc : c ∈ p.hierarchy.nodes <;> simp [hc, Id.sort]

theorem reachable_of_isSubtype (h : p.isSubtype sub sup) :
    Relation.ReflTransGen (Follows p.hierarchy.parents) sub sup := by
  rw [isSubtype, Hierarchy.isSubtype, Bool.or_eq_true, decide_eq_true_eq, decide_eq_true_eq] at h
  rcases h with rfl | h
  · exact .refl
  · exact (mem_supertypes_iff.mp h).2

theorem Registered.mem_supertypes_iff (h : p.Registered) : sup ∈ p.hierarchy.supertypes c ↔
    p.classes.Holds c ∧ Relation.ReflTransGen (Follows p.hierarchy.parents) c sup := by
  rw [Program.mem_supertypes_iff, h.nodes.mem_nodes]

/-- A class that is not in the hierarchy is linked to no other. -/
theorem Registered.isSubtype_iff (h : p.Registered) :
    p.isSubtype sub sup ↔ Relation.ReflTransGen (Follows p.hierarchy.parents) sub sup := by
  refine ⟨reachable_of_isSubtype, fun hsup => ?_⟩
  rw [isSubtype, Hierarchy.isSubtype, Bool.or_eq_true, decide_eq_true_eq, decide_eq_true_eq,
    h.mem_supertypes_iff]
  rcases Relation.ReflTransGen.cases_head hsup with rfl | ⟨_, hlink, -⟩
  · exact .inl rfl
  · obtain ⟨l, hl, rfl, -⟩ := mem_parents.mp hlink
    exact .inr ⟨(h.link hl).1, hsup⟩

theorem mem_possibleClasses_iff : c ∈ p.possibleClasses root ↔
    Relation.ReflTransGen (Follows p.directSubtypes) root c := by
  refine mem_breadthFirst_iff (p.hierarchy.links.toList.map Link.sub) (fun x y hy => ?_) ?_
  · obtain ⟨l, hl, rfl⟩ := exists_link_of_mem_directSubtypes hy
    exact List.mem_map_of_mem (Array.mem_toList_iff.mpr hl)
  · rw [List.length_map, Array.length_toList]

/-- The subtypes of a class are among the classes that its objects can have. -/
theorem Listed.mem_possibleClasses (hp : p.Listed) (hflags : p.InterfacesFlagged)
    (h : p.isSubtype c root) : c ∈ p.possibleClasses root := by
  rw [mem_possibleClasses_iff]
  have hdown : Relation.ReflTransGen (Function.swap (Follows p.directSubtypes)) c root :=
    (reachable_of_isSubtype h).lift id fun _ _ hsup => hp.mem_directSubtypes hflags hsup
  exact Relation.reflTransGen_swap.mp hdown

end Program

end PointsTo
