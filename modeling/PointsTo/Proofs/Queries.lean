import PointsTo.Proofs.Closure

namespace PointsTo

/-- Whether a pointer is a variable in some context. -/
def Pointer.isOf (v : VarId) : Pointer → Bool
  | var w => w.id = v
  | _ => false

namespace Solution

variable {p : Program} {π : Policy} {r : Solution}

/-- The identifiers of a solution are in use. -/
def Valid (p : Program) (r : Solution) : Prop :=
  ∃ s : Propagation.State, s.Valid p ∧ r = ⟨p, s.store, s.flow, s.calls⟩

theorem valid_of_analyze (h : (analyze p π).1 = .ok r) : r.Valid p := by
  obtain ⟨entry, s, -, hmoves, -, -, hr⟩ := Propagation.idle_of_analyze h
  exact ⟨s, hmoves.valid, hr⟩

/-- The plain call graph has a method if it is reachable in some context, and an edge if there is
one between some contexts. -/
theorem plainCalls_spec (r : Solution) :
    (∀ m, m ∈ r.plainCalls.reachable ↔ ∃ c, .reach c m ∈ r.facts) ∧
      ∀ k s m, ⟨k, s, m⟩ ∈ r.plainCalls.edges ↔ ∃ c d, .call k c s d m ∈ r.facts := by
  obtain ⟨entries, h₁⟩ := CallGraph.foldl_insertEntry r.calls.entries.toList
    (fun m : CtxMethod => m.id) ({} : CallGraph StmtId MethodId)
  let g₁ : CallGraph StmtId MethodId := { entries }
  let g₂ := r.calls.reachable.toList.foldl (fun g m =>
    (g.insertMethod m.id (r.program.methodDecl m.id).calls.toList).2) g₁
  let g₃ := r.calls.edgeList.foldl (fun g e =>
    (g.insertEdge ⟨e.kind, e.site.id, e.callee.id⟩).2) g₂
  have hplain : r.plainCalls = g₃ := by
    rw [plainCalls, ← Array.foldl_toList, ← Array.foldl_toList, h₁]
  have hg₁ : g₁.Consistent := CallGraph.consistent_entries entries
  obtain ⟨hedges₂, hreach₂⟩ := CallGraph.foldl_insertMethod r.calls.reachable.toList
    (fun m : CtxMethod => m.id) (fun m => (r.program.methodDecl m.id).calls.toList) hg₁
  obtain ⟨hreach₃, hedges₃⟩ := CallGraph.foldl_insertEdge r.calls.edgeList
    (fun e : Edge CtxSite CtxMethod => ⟨e.kind, e.site.id, e.callee.id⟩) g₂
  rw [hplain]
  constructor
  · intro m
    rw [hreach₃, hreach₂]
    constructor
    · rintro (h | ⟨q, hq, rfl⟩)
      · exact (Array.not_mem_empty m h).elim
      · exact ⟨_, q, Array.mem_toList_iff.mp hq, rfl, rfl⟩
    · rintro ⟨c, q, hq, -, rfl⟩
      exact .inr ⟨q, Array.mem_toList_iff.mpr hq, rfl⟩
  · intro k s m
    rw [hedges₃, hedges₂]
    constructor
    · rintro (h | ⟨e, he, h⟩)
      · exact (Std.TreeSet.not_mem_emptyc h).elim
      · cases h
        exact ⟨_, _, e, Std.TreeSet.mem_toList.mp he, rfl, rfl, rfl, rfl, rfl⟩
    · rintro ⟨c, d, e, he, rfl, -, rfl, -, rfl⟩
      exact .inr ⟨e, Std.TreeSet.mem_toList.mpr he, rfl⟩

theorem mem_project {pointers : List PointerId} {i : ObjId} :
    i ∈ r.project pointers ↔
      ∃ x ∈ pointers, ∃ u, (r.store.pointees x).contains u ∧ (r.store.ctxObject u).id = i := by
  simp only [project, Id.sort, List.mem_mergeSort, List.mem_eraseDups, List.mem_map,
    List.mem_flatMap, ObjSet.mem_toList]
  constructor
  · rintro ⟨u, ⟨x, hx, hu⟩, rfl⟩
    exact ⟨x, hx, u, hu, rfl⟩
  · rintro ⟨x, hx, u, hu, rfl⟩
    exact ⟨u, ⟨x, hx, hu⟩, rfl⟩

theorem mem_pointerIds {x : PointerId} : x ∈ r.pointerIds ↔ r.store.pointers.values.Holds x :=
  Table.mem_ids

/-- A pointer with an object is one that is in use. -/
theorem Valid.mem_pointerIds (hr : r.Valid p) {x : PointerId} {u : CtxObjId}
    (h : (r.store.pointees x).contains u) : x ∈ r.pointerIds := by
  obtain ⟨s, hs, rfl⟩ := hr
  exact Solution.mem_pointerIds.mpr (hs.holds_of_pointee h)

theorem Valid.holds_of_field (hr : r.Valid p) {x : PointerId} {u w : CtxObjId} {f : FieldId}
    (h : (r.store.pointees x).contains u) (hx : r.store.pointer x = .field w f) :
    r.store.ctxObjects.values.Holds w := by
  obtain ⟨s, hs, rfl⟩ := hr
  have hp := hs.store.pointer (Table.get?_of_holds (hs.holds_of_pointee h))
  change s.store.HasPointer (s.store.pointer x) at hp
  have hx : s.store.pointer x = .field w f := hx
  rwa [hx] at hp

theorem place_eq_static {A : AbstractStore} {x : PointerId} {f : FieldId}
    (h : A.place x = .static f) : A.pointer x = .static f := by
  rw [AbstractStore.place] at h
  cases hx : A.pointer x <;> rw [hx] at h <;> cases h
  rfl

theorem place_eq_field {A : AbstractStore} {x : PointerId} {o : HeapObj} {f : FieldId}
    (h : A.place x = .field o f) : ∃ w, A.pointer x = .field w f ∧ A.heapObj w = o := by
  rw [AbstractStore.place] at h
  cases hx : A.pointer x <;> rw [hx] at h <;> cases h
  exact ⟨_, rfl, rfl⟩

theorem place_eq_array {A : AbstractStore} {x : PointerId} {o : HeapObj}
    (h : A.place x = .array o) : ∃ w, A.pointer x = .array w ∧ A.heapObj w = o := by
  rw [AbstractStore.place] at h
  cases hx : A.pointer x <;> rw [hx] at h <;> cases h
  exact ⟨_, rfl, rfl⟩

theorem getD_listVar (index : Std.TreeMap VarId (Array PointerId)) (x : PointerId) (v : VarId) :
    ((r.listVar index x).getD v #[]).toList =
      (index.getD v #[]).toList ++ [x].filter fun x => (r.store.pointer x).isOf v := by
  rw [listVar, List.filter_singleton]
  cases r.store.pointer x with
  | var w =>
    rw [Std.TreeMap.getD_insert, Pointer.isOf]
    by_cases hv : w.id = v <;> simp [hv]
  | _ => simp [Pointer.isOf]

/-- The index lists the pointers of a variable in the order in which they are numbered. -/
theorem pointersOfVar_eq (v : VarId) :
    r.pointersOfVar v = r.pointerIds.filter fun x => (r.store.pointer x).isOf v := by
  have hfold (l : List PointerId) (index : Std.TreeMap VarId (Array PointerId)) :
      ((l.foldl r.listVar index).getD v #[]).toList =
        (index.getD v #[]).toList ++ l.filter fun x => (r.store.pointer x).isOf v := by
    induction l generalizing index with
    | nil => simp
    | cons x l ih =>
      rw [List.foldl_cons, ih, getD_listVar, List.append_assoc, ← List.filter_append]
      rfl
  rw [pointersOfVar, varPointers, hfold]
  simp

theorem mem_pointersOfVar {v : VarId} {x : PointerId} :
    x ∈ r.pointersOfVar v ↔ x ∈ r.pointerIds ∧ ∃ c, r.store.place x = .var c v := by
  rw [pointersOfVar_eq, List.mem_filter, AbstractStore.place]
  refine and_congr_right fun _ => ?_
  cases r.store.pointer x <;> simp [AbstractStore.location, Pointer.isOf]

/-- The objects of a variable are those that it points to in some context. -/
theorem mem_varPointees (hr : r.Valid p) {v : VarId} {obj : Obj} :
    (∃ i ∈ r.varPointees v, r.store.object i = obj) ↔
      ∃ c o, .pts (.var c v) o ∈ r.facts ∧ o.obj = obj := by
  simp only [varPointees, mem_project, mem_pointersOfVar]
  constructor
  · intro h
    obtain ⟨i, ⟨x, ⟨-, c, hc⟩, u, hu, rfl⟩, hobj⟩ := h
    exact ⟨c, r.store.heapObj u, ⟨x, u, hu, hc, rfl⟩, hobj⟩
  · intro h
    obtain ⟨c, o, ⟨x, u, hu, hc, rfl⟩, hobj⟩ := h
    exact ⟨_, ⟨x, ⟨hr.mem_pointerIds hu, c, hc⟩, u, hu, rfl⟩, hobj⟩

/-- What is pointed to is the object of an allocation site. -/
theorem Valid.objectAt_of_pts (hr : r.Valid p) {x : Location} {o : HeapObj}
    (h : .pts x o ∈ r.facts) : p.objectAt o.obj.site = .ok o.obj := by
  obtain ⟨i, u, hu, -, rfl⟩ := h
  obtain ⟨s, hs, rfl⟩ := hr
  have hid := (hs.store.ctxObject (Table.get?_of_holds (hs.store.member hu))).2
  exact hs.store.object (Table.get?_of_holds hid)

/-- The sites of a variable are those of the objects that it points to in some context. -/
theorem mem_varSites (hr : r.Valid p) {v : VarId} {s : StmtId} :
    s ∈ r.varSites v ↔ ∃ c o, .pts (.var c v) o ∈ r.facts ∧ o.obj.site = s := by
  simp only [varSites, Id.sort, List.mem_mergeSort, List.mem_eraseDups, List.mem_map]
  constructor
  · intro h
    obtain ⟨i, hi, hsite⟩ := h
    obtain ⟨c, o, ho, hobj⟩ := (mem_varPointees hr).mp ⟨i, hi, rfl⟩
    exact ⟨c, o, ho, by rw [hobj, hsite]⟩
  · intro h
    obtain ⟨c, o, ho, hsite⟩ := h
    obtain ⟨i, hi, hobj⟩ := (mem_varPointees hr).mpr ⟨c, o, ho, rfl⟩
    exact ⟨i, hi, by rw [hobj, hsite]⟩

/-- The objects of a static field are those that it points to. -/
theorem mem_staticPointees (hr : r.Valid p) {f : FieldId} {s : StmtId} :
    (∃ i ∈ r.staticPointees f, (r.store.object i).site = s) ↔
      ∃ o, .pts (.static f) o ∈ r.facts ∧ o.obj.site = s := by
  simp only [staticPointees, mem_project, Option.mem_toList, AbstractStore.findPointer?_eq_some]
  constructor
  · rintro ⟨i, ⟨x, hx, u, hu, rfl⟩, rfl⟩
    have hplace : r.store.place x = .static f := by
      rw [AbstractStore.place, AbstractStore.pointer, Interner.get, Table.get_of_get? hx]
      rfl
    exact ⟨r.store.heapObj u, ⟨x, u, hu, hplace, rfl⟩, rfl⟩
  · rintro ⟨o, ⟨x, u, hu, hplace, rfl⟩, rfl⟩
    refine ⟨_, ⟨x, ?_, u, hu, rfl⟩, rfl⟩
    have hx := Table.get?_of_holds (mem_pointerIds.mp (hr.mem_pointerIds hu))
    exact hx.trans (congrArg some (place_eq_static hplace))

theorem mem_fieldPointees_iff {base i : ObjId} {f : FieldId} :
    i ∈ r.fieldPointees base f ↔ ∃ x ∈ r.pointerIds, ∃ w, r.store.pointer x = .field w f ∧
      (r.store.ctxObject w).id = base ∧
      ∃ u, (r.store.pointees x).contains u ∧ (r.store.ctxObject u).id = i := by
  rw [fieldPointees, mem_project]
  constructor
  · rintro ⟨x, hx, u, hu, rfl⟩
    obtain ⟨hmem, hfield⟩ := List.mem_filter.mp hx
    cases hp : r.store.pointer x with
    | field w g =>
      simp only [hp, decide_eq_true_eq] at hfield
      obtain ⟨rfl, hbase⟩ := hfield
      exact ⟨x, hmem, w, hp, hbase, u, hu, rfl⟩
    | _ => simp [hp] at hfield
  · rintro ⟨x, hx, w, hp, hbase, u, hu, rfl⟩
    refine ⟨x, List.mem_filter.mpr ⟨hx, ?_⟩, u, hu, rfl⟩
    simp [hp, hbase]

theorem Valid.holds_context (hr : r.Valid p) {q : CtxMethod} (hq : q ∈ r.calls.reachable) :
    r.store.contexts.values.Holds q.context := by
  obtain ⟨s, hs, rfl⟩ := hr
  exact hs.reachable hq

/-- What a variable points to in a context can be asked for. -/
theorem Valid.varPointeesIn (hr : r.Valid p) {c : ContextId}
    (hc : r.store.contexts.values.Holds c) {v : VarId} {o : HeapObj}
    (h : .pts (.var (r.store.context c) v) o ∈ r.facts) :
    ∃ set u, r.varPointeesIn c v = some set ∧ set.contains u ∧ r.store.heapObj u = o := by
  obtain ⟨i, u, hu, hplace, ho⟩ := h
  have hi := Table.get?_of_holds (Solution.mem_pointerIds.mp (hr.mem_pointerIds hu))
  obtain ⟨s, hs, rfl⟩ := hr
  refine ⟨s.store.pointees i, u, ?_, hu, ho⟩
  cases hx : s.store.pointer i with
  | var w =>
    have hw := hs.store.pointer hi
    change s.store.HasPointer (s.store.pointer i) at hw
    rw [hx] at hw
    rw [AbstractStore.place, hx] at hplace
    obtain ⟨hcontext, hv⟩ := Location.var.inj hplace
    have hwc : w = ⟨c, v⟩ :=
      Qualified.ext (AbstractStore.Valid.context_injective hw hc hcontext) hv
    have hfind := AbstractStore.findPointer?_eq_some.mpr
      (hi.trans (congrArg some (hx.trans (by rw [hwc]))))
    exact congrArg (Option.map s.store.pointees) hfind
  | _ =>
    rw [AbstractStore.place, hx] at hplace
    cases hplace

/-- The identifier of an abstract object is known from the object. -/
theorem Valid.eq_of_object (hr : r.Valid p) {w : CtxObjId} {base : ObjId}
    (hw : r.store.ctxObjects.values.Holds w) (hbase : r.store.objects.values.Holds base)
    (h : r.store.objectOf w = r.store.object base) : (r.store.ctxObject w).id = base := by
  obtain ⟨s, hs, rfl⟩ := hr
  have hid := (hs.store.ctxObject (Table.get?_of_holds hw)).2
  exact Interner.eq_of_key_eq (Table.get?_of_holds hid) (Table.get?_of_holds hbase)
    (congrArg Obj.key h)

/-- An object with a field that points somewhere is one that has an identifier. -/
theorem Valid.exists_base (hr : r.Valid p) {o u : HeapObj} {f : FieldId}
    (h : .pts (.field o f) u ∈ r.facts) :
    ∃ base, r.store.objects.values.Holds base ∧ r.store.object base = o.obj := by
  obtain ⟨x, w, hw, hplace, -⟩ := h
  obtain ⟨v, hx, rfl⟩ := place_eq_field hplace
  have hv := hr.holds_of_field hw hx
  obtain ⟨s, hs, rfl⟩ := hr
  exact ⟨_, (hs.store.ctxObject (Table.get?_of_holds hv)).2, rfl⟩

/-- The objects of a field of an abstract object are those that it points to in some heap
context. -/
theorem mem_fieldPointees (hr : r.Valid p) {base : ObjId} {f : FieldId} {s : StmtId}
    (hbase : r.store.objects.values.Holds base) :
    (∃ i ∈ r.fieldPointees base f, (r.store.object i).site = s) ↔
      ∃ h o, .pts (.field ⟨h, r.store.object base⟩ f) o ∈ r.facts ∧ o.obj.site = s := by
  simp only [mem_fieldPointees_iff]
  constructor
  · rintro ⟨i, ⟨x, -, w, hx, rfl, u, hu, rfl⟩, rfl⟩
    have hplace : r.store.place x = .field (r.store.heapObj w) f := by
      rw [AbstractStore.place, hx]
      rfl
    exact ⟨_, r.store.heapObj u, ⟨x, u, hu, hplace, rfl⟩, rfl⟩
  · rintro ⟨h, o, ⟨x, u, hu, hplace, rfl⟩, rfl⟩
    obtain ⟨w, hx, hw⟩ := place_eq_field hplace
    have hid := hr.eq_of_object (hr.holds_of_field hu hx) hbase (congrArg HeapObj.obj hw)
    exact ⟨_, ⟨x, hr.mem_pointerIds hu, w, hx, hid, u, hu, rfl⟩, rfl⟩

end Solution

end PointsTo
