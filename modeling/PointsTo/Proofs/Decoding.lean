import PointsTo.Proofs.Interning
import PointsTo.Proofs.Rules

/-!
What the identifiers of a store stand for. In a valid store every identifier leads to values of the
same store, different identifiers stand for different values, and new entries change nothing for
the identifiers that are already in use.
-/
namespace PointsTo.AbstractStore

variable {p : Program} {A B C : AbstractStore}

theorem findPointer?_eq_some {x : Pointer} {i : PointerId} :
    A.findPointer? x = some i ↔ A.pointers.values.get? i = some x :=
  (Interner.apart_of_injective Pointer.key_injective).find?_eq_some

/-- The identifiers in a pointer are in use. -/
def HasPointer (A : AbstractStore) : Pointer → Prop
  | .var v => A.contexts.values.Holds v.context
  | .static _ => True
  | .field o _ | .array o => A.ctxObjects.values.Holds o

/-- The entries of a store refer to each other, and its objects are those of the program. -/
structure Valid (p : Program) (A : AbstractStore) : Prop where
  object {i o} (h : A.objects.values.get? i = some o) : p.objectAt o.site = .ok o
  ctxObject {i q} (h : A.ctxObjects.values.get? i = some q) :
    A.contexts.values.Holds q.context ∧ A.objects.values.Holds q.id
  pointer {i x} (h : A.pointers.values.get? i = some x) : A.HasPointer x
  sets : A.sets.size = A.pointers.values.size
  member {i o} (h : (A.pointees i).contains o) : A.ctxObjects.values.Holds o

/-- Every identifier of `A` stands for the same value in `B`. -/
structure Extends (B A : AbstractStore) : Prop where
  contexts : B.contexts.values.Extends A.contexts.values
  objects : B.objects.values.Extends A.objects.values
  ctxObjects : B.ctxObjects.values.Extends A.ctxObjects.values
  pointers : B.pointers.values.Extends A.pointers.values

namespace Extends

theorem refl (A : AbstractStore) : A.Extends A :=
  ⟨.refl _, .refl _, .refl _, .refl _⟩

theorem trans (h₁ : C.Extends B) (h₂ : B.Extends A) : C.Extends A :=
  ⟨h₁.contexts.trans h₂.contexts, h₁.objects.trans h₂.objects,
    h₁.ctxObjects.trans h₂.ctxObjects, h₁.pointers.trans h₂.pointers⟩

variable (hE : B.Extends A)
include hE

theorem context {c : ContextId} (hc : A.contexts.values.Holds c) : B.context c = A.context c :=
  hE.contexts.get hc

theorem hasPointer {x : Pointer} (hx : A.HasPointer x) : B.HasPointer x := by
  cases x with
  | var v => exact hE.contexts.holds hx
  | static f => trivial
  | field o f => exact hE.ctxObjects.holds hx
  | array o => exact hE.ctxObjects.holds hx

theorem heapObj (hA : A.Valid p) {o : CtxObjId} (ho : A.ctxObjects.values.Holds o) :
    B.heapObj o = A.heapObj o := by
  obtain ⟨hc, hi⟩ := hA.ctxObject (Table.get?_of_holds ho)
  have hq : B.ctxObject o = A.ctxObject o := hE.ctxObjects.get ho
  have hheap : B.context (A.ctxObject o).context = A.context (A.ctxObject o).context :=
    hE.contexts.get hc
  have hobj : B.object (A.ctxObject o).id = A.object (A.ctxObject o).id := hE.objects.get hi
  simp only [AbstractStore.heapObj, heapContextOf, objectOf, hq, hheap, hobj]

theorem location (hA : A.Valid p) {x : Pointer} (hx : A.HasPointer x) :
    B.location x = A.location x := by
  cases x with
  | var v => simp only [AbstractStore.location, hE.context hx]
  | static f => rfl
  | field o f => simp only [AbstractStore.location, hE.heapObj hA hx]
  | array o => simp only [AbstractStore.location, hE.heapObj hA hx]

theorem place (hA : A.Valid p) {i : PointerId} (hi : A.pointers.values.Holds i) :
    B.place i = A.place i := by
  have hx : B.pointer i = A.pointer i := hE.pointers.get hi
  rw [AbstractStore.place, hx]
  exact hE.location hA (hA.pointer (Table.get?_of_holds hi))

end Extends

namespace Valid

theorem context_injective {c d : ContextId} (hc : A.contexts.values.Holds c)
    (hd : A.contexts.values.Holds d) (h : A.context c = A.context d) : c = d :=
  Interner.eq_of_key_eq (Table.get?_of_holds hc) (Table.get?_of_holds hd)
    (congrArg Context.key h)

variable (hA : A.Valid p)
include hA

theorem heapObj_injective {o u : CtxObjId} (ho : A.ctxObjects.values.Holds o)
    (hu : A.ctxObjects.values.Holds u) (h : A.heapObj o = A.heapObj u) : o = u := by
  have ho' := hA.ctxObject (Table.get?_of_holds ho)
  have hu' := hA.ctxObject (Table.get?_of_holds hu)
  have hheap : A.context (A.ctxObject o).context = A.context (A.ctxObject u).context :=
    congrArg HeapObj.heap h
  have hobj : A.object (A.ctxObject o).id = A.object (A.ctxObject u).id := congrArg HeapObj.obj h
  have hid := Interner.eq_of_key_eq (Table.get?_of_holds ho'.2) (Table.get?_of_holds hu'.2)
    (congrArg Obj.key hobj)
  have hctx := context_injective ho'.1 hu'.1 hheap
  have hq : A.ctxObject o = A.ctxObject u := Qualified.ext hctx hid
  exact Interner.eq_of_key_eq (Table.get?_of_holds ho) (Table.get?_of_holds hu)
    (congrArg Qualified.key hq)

theorem location_injective {x y : Pointer} (hx : A.HasPointer x) (hy : A.HasPointer y)
    (h : A.location x = A.location y) : x = y := by
  cases x <;> cases y <;> simp only [location, Location.var.injEq, Location.static.injEq,
    Location.field.injEq, Location.array.injEq, reduceCtorEq] at h
  case var.var v w => exact congrArg Pointer.var (Qualified.ext (context_injective hx hy h.1) h.2)
  case static.static f g => rw [h]
  case field.field o f u g => rw [hA.heapObj_injective hx hy h.1, h.2]
  case array.array o u => rw [hA.heapObj_injective hx hy h]

theorem place_injective {i j : PointerId} (hi : A.pointers.values.Holds i)
    (hj : A.pointers.values.Holds j) (h : A.place i = A.place j) : i = j := by
  have hx := hA.pointer (Table.get?_of_holds hi)
  have hy := hA.pointer (Table.get?_of_holds hj)
  have hxy : A.pointer i = A.pointer j := hA.location_injective hx hy h
  exact Interner.eq_of_key_eq (Table.get?_of_holds hi) (Table.get?_of_holds hj)
    (congrArg Pointer.key hxy)

end Valid

theorem valid_empty : Valid p {} where
  object h := by simp [Interner.empty, Table.get?] at h
  ctxObject h := by simp [Interner.empty, Table.get?] at h
  pointer h := by simp [Interner.empty, Table.get?] at h
  sets := rfl
  member {i o} h := by simp [pointees, Table.get, Table.get?, default] at h

/-- `B` is `A` with new entries, none of which points to anything. -/
structure Grows (p : Program) (B A : AbstractStore) : Prop extends B.Extends A where
  valid : B.Valid p
  pointees : ∀ i, B.pointees i = A.pointees i

theorem Grows.refl (hA : A.Valid p) : Grows p A A := ⟨.refl A, hA, fun _ => rfl⟩

theorem Grows.trans (h₁ : Grows p C B) (h₂ : Grows p B A) : Grows p C A :=
  ⟨h₁.toExtends.trans h₂.toExtends, h₁.valid, fun i => (h₁.pointees i).trans (h₂.pointees i)⟩

theorem sets_internPointer_of_none {x : Pointer} (h : A.findPointer? x = none) :
    (A.internPointer x).2.sets = A.sets.push .empty := by
  have hx : A.pointers.find? x = none := h
  simp only [internPointer, hx, Option.isSome_none, Bool.false_eq_true, if_false]

theorem sets_internPointer_of_some {x : Pointer} {i : PointerId} (h : A.findPointer? x = some i) :
    (A.internPointer x).2.sets = A.sets := by
  have hx : A.pointers.find? x = some i := h
  simp only [internPointer, hx, Option.isSome_some, if_true]

section Intern

variable (hA : A.Valid p)
include hA

theorem internContext_grows (c : Context) : Grows p (A.internContext c).2 A := by
  have hE : (A.internContext c).2.Extends A :=
    ⟨Interner.intern_extends _ _, .refl _, .refl _, .refl _⟩
  refine ⟨hE, ⟨hA.object, ?_, ?_, hA.sets, hA.member⟩, fun _ => rfl⟩
  · intro i q hq
    obtain ⟨hc, ho⟩ := hA.ctxObject hq
    exact ⟨hE.contexts.holds hc, ho⟩
  · intro i x hx
    exact hE.hasPointer (hA.pointer hx)

theorem internObject_grows {o : Obj} (ho : p.objectAt o.site = .ok o) :
    Grows p (A.internObject o).2 A := by
  have hE : (A.internObject o).2.Extends A :=
    ⟨.refl _, Interner.intern_extends _ _, .refl _, .refl _⟩
  refine ⟨hE, ⟨?_, ?_, ?_, hA.sets, hA.member⟩, fun _ => rfl⟩
  · intro i o' hi
    rcases Interner.get?_of_intern hi with hi | ⟨-, -, rfl⟩
    · exact hA.object hi
    · exact ho
  · intro i q hq
    obtain ⟨hc, ho⟩ := hA.ctxObject hq
    exact ⟨hc, hE.objects.holds ho⟩
  · intro i x hx
    exact hE.hasPointer (hA.pointer hx)

/-- The identifier of an object stands for this very object: the program has one object for each
allocation site. -/
theorem object_internObject {o : Obj} (ho : p.objectAt o.site = .ok o) :
    (A.internObject o).2.objects.values.get? (A.internObject o).1 = some o := by
  obtain ⟨o', hi, hkey⟩ := Option.map_eq_some_iff.mp (Interner.key_intern A.objects o)
  have hsite : o'.site = o.site := by
    simp only [Obj.key, List.cons.injEq, and_true] at hkey
    exact Id.ext hkey
  have ho' := (internObject_grows hA ho).valid.object hi
  rw [hsite, ho] at ho'
  cases ho'
  exact hi

theorem internCtxObject_grows {q : CtxObj} (hc : A.contexts.values.Holds q.context)
    (ho : A.objects.values.Holds q.id) : Grows p (A.internCtxObject q).2 A := by
  have hE : (A.internCtxObject q).2.Extends A :=
    ⟨.refl _, .refl _, Interner.intern_extends _ _, .refl _⟩
  refine ⟨hE, ⟨hA.object, ?_, ?_, hA.sets, fun h => hE.ctxObjects.holds (hA.member h)⟩,
    fun _ => rfl⟩
  · intro i q' hi
    rcases Interner.get?_of_intern hi with hi | ⟨-, -, rfl⟩
    · exact hA.ctxObject hi
    · exact ⟨hc, ho⟩
  · intro i x hx
    exact hE.hasPointer (hA.pointer hx)

theorem internPointer_grows {x : Pointer} (hx : A.HasPointer x) :
    Grows p (A.internPointer x).2 A := by
  have hE : (A.internPointer x).2.Extends A :=
    ⟨.refl _, .refl _, .refl _, Interner.intern_extends _ _⟩
  have hsets (i : PointerId) : (A.internPointer x).2.pointees i = A.pointees i := by
    cases hf : A.findPointer? x with
    | some j => rw [pointees, sets_internPointer_of_some hf, pointees]
    | none =>
      rw [pointees, sets_internPointer_of_none hf, Table.get_push, pointees]
      split
      · next hi => rw [hi, Table.get_of_not_holds Table.not_holds_nextId]; rfl
      · rfl
  refine ⟨hE, ⟨hA.object, hA.ctxObject, ?_, ?_, ?_⟩, hsets⟩
  · intro i y hy
    rcases Interner.get?_of_intern hy with hy | ⟨-, -, rfl⟩
    · exact hE.hasPointer (hA.pointer hy)
    · exact hE.hasPointer hx
  · cases hf : A.pointers.find? x with
    | some j => simp [internPointer, hf, Interner.intern_of_find? hf, hA.sets]
    | none =>
      simp [internPointer, hf, Interner.intern_of_fresh hf, Interner.push, Table.size_push, hA.sets]
  · intro i o ho
    rw [hsets] at ho
    exact hA.member ho

end Intern

theorem context_internContext (c : Context) :
    (A.internContext c).2.context (A.internContext c).1 = c :=
  Table.get_of_get? (Interner.get?_intern Context.key_injective _ _)

theorem holds_internContext (c : Context) :
    (A.internContext c).2.contexts.values.Holds (A.internContext c).1 :=
  Interner.holds_intern _ _

theorem ctxObject_internCtxObject (q : CtxObj) :
    (A.internCtxObject q).2.ctxObject (A.internCtxObject q).1 = q :=
  Table.get_of_get? (Interner.get?_intern Qualified.key_injective _ _)

theorem holds_internCtxObject (q : CtxObj) :
    (A.internCtxObject q).2.ctxObjects.values.Holds (A.internCtxObject q).1 :=
  Interner.holds_intern _ _

theorem pointer_internPointer (x : Pointer) :
    (A.internPointer x).2.pointer (A.internPointer x).1 = x :=
  Table.get_of_get? (Interner.get?_intern Pointer.key_injective _ _)

theorem place_internPointer (hA : A.Valid p) {x : Pointer} (hx : A.HasPointer x) :
    (A.internPointer x).2.place (A.internPointer x).1 = A.location x := by
  rw [place, pointer_internPointer]
  exact (internPointer_grows hA hx).location hA hx

theorem holds_internPointer (x : Pointer) :
    (A.internPointer x).2.pointers.values.Holds (A.internPointer x).1 :=
  Interner.holds_intern _ _

theorem Valid.holds_sets (hA : A.Valid p) {i : PointerId} :
    A.sets.Holds i ↔ A.pointers.values.Holds i := by
  rw [Table.Holds, Table.Holds, hA.sets]

theorem pointees_setPointees (hA : A.Valid p) {i : PointerId} (hi : A.pointers.values.Holds i)
    (t : ObjSet) (j : PointerId) :
    (A.setPointees i t).pointees j = if i = j then t else A.pointees j :=
  Table.get_modify (hA.holds_sets.mpr hi)

theorem Valid.setPointees (hA : A.Valid p) {i : PointerId} (hi : A.pointers.values.Holds i)
    {t : ObjSet} (ht : ∀ u, t.contains u → A.ctxObjects.values.Holds u) :
    (A.setPointees i t).Valid p := by
  refine ⟨hA.object, hA.ctxObject, hA.pointer, Table.size_modify.trans hA.sets, ?_⟩
  intro j u hu
  rw [pointees_setPointees hA hi] at hu
  split at hu
  · exact ht u hu
  · exact hA.member hu

end PointsTo.AbstractStore
