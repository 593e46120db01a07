import Mathlib.Data.List.Forall2
import Mathlib.Data.List.Induction
import PointsTo.Proofs.Decoding
import PointsTo.Proofs.Listing
import PointsTo.Proofs.Precision
import PointsTo.Proofs.Walks

namespace PointsTo

/-- What a store numbers. -/
inductive Element where
  | context (c : Context)
  | object (o : Obj)
  | ctxObject (q : CtxObj)
  | pointer (x : Pointer)
deriving DecidableEq

/-- An identifier of an element. -/
inductive ElementId where
  | context (i : ContextId)
  | object (i : ObjId)
  | ctxObject (i : CtxObjId)
  | pointer (i : PointerId)
deriving DecidableEq

def Element.kind : Element → Entity
  | context _ => .context
  | object _ => .obj
  | ctxObject _ => .ctxObj
  | pointer _ => .pointer

namespace ElementId

def kind : ElementId → Entity
  | context _ => .context
  | object _ => .obj
  | ctxObject _ => .ctxObj
  | pointer _ => .pointer

def number : ElementId → Nat
  | context i => i.number
  | object i => i.number
  | ctxObject i => i.number
  | pointer i => i.number

theorem ext_number {i j : ElementId} (hk : i.kind = j.kind) (hn : i.number = j.number) : i = j := by
  cases i <;> cases j <;> simp_all [kind, number, Id.number, Id.ext_iff]

end ElementId

/-- The elements of a kind, each where it is used for the first time. -/
def Element.firstUses (es : List Element) (k : Entity) : List Element :=
  (es.filter (·.kind = k)).eraseDups

namespace Element

variable {es : List Element} {e : Element} {k : Entity}

theorem mem_firstUses : e ∈ firstUses es k ↔ e ∈ es ∧ e.kind = k := by
  rw [firstUses, List.mem_eraseDups, List.mem_filter, decide_eq_true_iff]

theorem nodup_firstUses (es : List Element) (k : Entity) : (firstUses es k).Nodup :=
  nodup_eraseDups _

theorem firstUses_concat_self : firstUses (es ++ [e]) e.kind =
    if e ∈ firstUses es e.kind then firstUses es e.kind else firstUses es e.kind ++ [e] := by
  have hfilter : (es ++ [e]).filter (·.kind = e.kind) = es.filter (·.kind = e.kind) ++ [e] := by
    simp
  have hmem : e ∈ es.filter (·.kind = e.kind) ↔ e ∈ firstUses es e.kind := List.mem_eraseDups.symm
  rw [firstUses, hfilter, eraseDups_concat]
  simp only [hmem]
  rfl

theorem firstUses_concat_of_ne (h : e.kind ≠ k) : firstUses (es ++ [e]) k = firstUses es k := by
  rw [firstUses, List.filter_append, List.filter_cons_of_neg (by rw [decide_eq_true_iff]; exact h),
    List.filter_nil, List.append_nil, firstUses]

end Element

namespace AbstractStore

variable {A B : AbstractStore} {e : Element} {r : ElementId} {k : Entity}

/-- Numbers an element of any kind. -/
def intern (A : AbstractStore) : Element → ElementId × AbstractStore
  | .context c => (.context (A.internContext c).1, (A.internContext c).2)
  | .object o => (.object (A.internObject o).1, (A.internObject o).2)
  | .ctxObject q => (.ctxObject (A.internCtxObject q).1, (A.internCtxObject q).2)
  | .pointer x => (.pointer (A.internPointer x).1, (A.internPointer x).2)

/-- The element that an identifier stands for. -/
def decode? (A : AbstractStore) : ElementId → Option Element
  | .context i => (A.contexts.values.get? i).map .context
  | .object i => (A.objects.values.get? i).map .object
  | .ctxObject i => (A.ctxObjects.values.get? i).map .ctxObject
  | .pointer i => (A.pointers.values.get? i).map .pointer

/-- The elements of a kind in the order of their numbers. -/
def listed (A : AbstractStore) : Entity → List Element
  | .context => A.contexts.values.toList.map .context
  | .obj => A.objects.values.toList.map .object
  | .ctxObj => A.ctxObjects.values.toList.map .ctxObject
  | .pointer => A.pointers.values.toList.map .pointer
  | _ => []

theorem decode?_eq (A : AbstractStore) (r : ElementId) :
    A.decode? r = (A.listed r.kind)[r.number - 1]? := by
  cases r <;> simp [decode?, listed, ElementId.kind, ElementId.number, Id.number, Table.get?,
    Table.toList]

theorem kind_of_decode? (h : A.decode? r = some e) : r.kind = e.kind := by
  cases r <;> obtain ⟨a, -, rfl⟩ := Option.map_eq_some_iff.mp h <;> rfl

/-- No other object has the site of the element. -/
def Admits (A : AbstractStore) (e : Element) : Prop := ∀ o, e = .object o → A.objects.Apart o

theorem decode?_intern (h : A.Admits e) : (A.intern e).2.decode? (A.intern e).1 = some e := by
  cases e with
  | context c =>
    exact congrArg (Option.map Element.context) (Interner.get?_intern Context.key_injective _ c)
  | object o => exact congrArg (Option.map Element.object) (h o rfl).get?_intern
  | ctxObject q =>
    exact congrArg (Option.map Element.ctxObject) (Interner.get?_intern Qualified.key_injective _ q)
  | pointer x =>
    exact congrArg (Option.map Element.pointer) (Interner.get?_intern Pointer.key_injective _ x)

theorem map_toList_intern {κ : Entity} {α : Type} [DecidableEq α] {key : α → List Nat}
    {t : Interner κ α key} {a : α} (h : t.Apart a) {f : α → Element} (hf : Function.Injective f) :
    (t.intern a).2.values.toList.map f = if f a ∈ t.values.toList.map f then t.values.toList.map f
      else t.values.toList.map f ++ [f a] := by
  have hmem : f a ∈ t.values.toList.map f ↔ a ∈ t.values.toList := List.mem_map_of_injective hf
  rw [h.toList_intern]
  by_cases ha : a ∈ t.values.toList
  · rw [if_pos ha, if_pos (hmem.mpr ha)]
  · rw [if_neg ha, if_neg (mt hmem.mp ha), List.map_append, List.map_singleton]

theorem listed_intern_self (h : A.Admits e) : (A.intern e).2.listed e.kind =
    if e ∈ A.listed e.kind then A.listed e.kind else A.listed e.kind ++ [e] := by
  cases e with
  | context c =>
    exact map_toList_intern (Interner.apart_of_injective Context.key_injective)
      fun _ _ => Element.context.inj
  | object o => exact map_toList_intern (h o rfl) fun _ _ => Element.object.inj
  | ctxObject q =>
    exact map_toList_intern (Interner.apart_of_injective Qualified.key_injective)
      fun _ _ => Element.ctxObject.inj
  | pointer x =>
    exact map_toList_intern (Interner.apart_of_injective Pointer.key_injective)
      fun _ _ => Element.pointer.inj

theorem listed_intern_of_ne (h : e.kind ≠ k) : (A.intern e).2.listed k = A.listed k := by
  cases e with
  | context c =>
    cases k with
    | context => exact absurd rfl h
    | _ => rfl
  | object o =>
    cases k with
    | obj => exact absurd rfl h
    | _ => rfl
  | ctxObject q =>
    cases k with
    | ctxObj => exact absurd rfl h
    | _ => rfl
  | pointer x =>
    cases k with
    | pointer => exact absurd rfl h
    | _ => rfl

theorem Extends.decode? (h : B.Extends A) (hr : A.decode? r = some e) : B.decode? r = some e := by
  cases r <;> obtain ⟨a, ha, rfl⟩ := Option.map_eq_some_iff.mp hr
  case context i => exact congrArg (Option.map Element.context) (h.contexts i a ha)
  case object i => exact congrArg (Option.map Element.object) (h.objects i a ha)
  case ctxObject i => exact congrArg (Option.map Element.ctxObject) (h.ctxObjects i a ha)
  case pointer i => exact congrArg (Option.map Element.pointer) (h.pointers i a ha)

theorem extends_intern (A : AbstractStore) (e : Element) : (A.intern e).2.Extends A := by
  cases e with
  | context c => exact ⟨Interner.intern_extends _ c, .refl _, .refl _, .refl _⟩
  | object o => exact ⟨.refl _, Interner.intern_extends _ o, .refl _, .refl _⟩
  | ctxObject q => exact ⟨.refl _, .refl _, Interner.intern_extends _ q, .refl _⟩
  | pointer x => exact ⟨.refl _, .refl _, .refl _, Interner.intern_extends _ x⟩

theorem findPointer?_eq_some_iff {x : Pointer} {i : PointerId} :
    A.findPointer? x = some i ↔ A.decode? (.pointer i) = some (.pointer x) := by
  rw [findPointer?_eq_some, decode?, Option.map_eq_some_iff]
  simp only [Element.pointer.injEq, exists_eq_right]

theorem isSome_findPointer?_iff {x : Pointer} :
    (A.findPointer? x).isSome ↔ .pointer x ∈ A.listed .pointer := by
  have hfind : (A.findPointer? x).isSome ↔ x ∈ A.pointers.values.toList :=
    (Interner.apart_of_injective Pointer.key_injective).isSome_find?_iff
  rw [hfind, listed, List.mem_map_of_injective fun _ _ => Element.pointer.inj]

section Sets

/-- Every pointer has one set. -/
def Paired (A : AbstractStore) : Prop := A.sets.size = A.pointers.size

theorem paired_empty : Paired {} := rfl

theorem sets_intern_extends (A : AbstractStore) (e : Element) :
    (A.intern e).2.sets.Extends A.sets := by
  cases e with
  | context c => exact .refl _
  | object o => exact .refl _
  | ctxObject q => exact .refl _
  | pointer x =>
    change (A.internPointer x).2.sets.Extends A.sets
    cases hx : A.findPointer? x with
    | some i =>
      rw [sets_internPointer_of_some hx]
      exact .refl _
    | none =>
      rw [sets_internPointer_of_none hx]
      exact Table.extends_push

theorem Paired.intern (h : A.Paired) (e : Element) : (A.intern e).2.Paired := by
  cases e with
  | context c => exact h
  | object o => exact h
  | ctxObject q => exact h
  | pointer x =>
    change (A.internPointer x).2.sets.size = (A.pointers.intern x).2.values.size
    cases hx : A.findPointer? x with
    | some i =>
      rw [sets_internPointer_of_some hx, Interner.intern_of_find? hx]
      exact h
    | none =>
      rw [sets_internPointer_of_none hx, Interner.intern_of_fresh hx]
      change (A.sets.push .empty).size = (A.pointers.values.push x).size
      rw [Table.size_push, Table.size_push, h]
      rfl

/-- The set of a new pointer is the last one. -/
theorem Paired.get?_sets_internPointer (h : A.Paired) {x : Pointer} (hx : A.findPointer? x = none) :
    (A.internPointer x).2.sets.get? (A.internPointer x).1 = some .empty := by
  have hid : (A.internPointer x).1 = A.sets.nextId := by
    change (A.pointers.intern x).1 = _
    rw [Interner.intern_of_fresh hx]
    exact Id.ext h.symm
  rw [hid, sets_internPointer_of_none hx]
  exact Table.get?_push_self

end Sets

/-- What is done to a store: an element is numbered, or a pointer gets a new set. -/
inductive Action where
  | intern (e : Element)
  | assign (i : PointerId) (s : ObjSet)

def Action.element? : Action → Option Element
  | intern e => some e
  | assign .. => none

def act (A : AbstractStore) : Action → AbstractStore
  | .intern e => (A.intern e).2
  | .assign i s => A.setPointees i s

def run (A : AbstractStore) (actions : List Action) : AbstractStore := actions.foldl act A

/-- The elements that are numbered, in the order of the calls. -/
def interned (actions : List Action) : List Element := actions.filterMap Action.element?

/-- The identifiers that the calls give. -/
def answers (A : AbstractStore) : List Action → List ElementId
  | [] => []
  | .intern e :: actions => (A.intern e).1 :: answers (A.intern e).2 actions
  | .assign i s :: actions => answers (A.setPointees i s) actions

section Run

variable {p : Program} {actions : List Action}

theorem listed_setPointees (i : PointerId) (s : ObjSet) :
    (A.setPointees i s).listed k = A.listed k := by
  cases k <;> rfl

theorem extends_act (A : AbstractStore) (a : Action) : (A.act a).Extends A := by
  cases a with
  | intern e => exact extends_intern A e
  | assign i s => exact ⟨.refl _, .refl _, .refl _, .refl _⟩

theorem extends_run (A : AbstractStore) (actions : List Action) : (A.run actions).Extends A := by
  induction actions generalizing A with
  | nil => exact .refl A
  | cons a actions ih => exact (ih (A.act a)).trans (extends_act A a)

theorem Paired.act (h : A.Paired) (a : Action) : (A.act a).Paired := by
  cases a with
  | intern e => exact h.intern e
  | assign i s =>
    change (A.sets.modify i fun _ => s).size = A.pointers.size
    rw [Table.size_modify]
    exact h

theorem Paired.run (h : A.Paired) (actions : List Action) : (A.run actions).Paired :=
  List.foldlRecOn actions AbstractStore.act h fun _ hB a _ => hB.act a

/-- The objects of a list of elements are those of the program. -/
def Sited (p : Program) (es : List Element) : Prop :=
  ∀ o, .object o ∈ es → p.objectAt o.site = .ok o

/-- Two objects of the program with one site are equal. -/
theorem Sited.admits {es : List Element} (h : Sited p (es ++ [e]))
    (hA : A.listed .obj = Element.firstUses es .obj) : A.Admits e := by
  rintro o rfl i b hb hkey
  have hmem : Element.object b ∈ A.listed .obj :=
    List.mem_map_of_mem (Table.mem_toList.mpr ⟨i, hb⟩)
  rw [hA] at hmem
  have hb := h b (List.mem_append_left _ (Element.mem_firstUses.mp hmem).1)
  have ho := h o (List.mem_append_right _ (List.mem_singleton.mpr rfl))
  have hsite : b.site = o.site := Id.ext (List.cons.inj hkey).1
  rw [hsite, ho] at hb
  exact (Except.ok.inj hb).symm

theorem run_concat (A : AbstractStore) (actions : List Action) (a : Action) :
    A.run (actions ++ [a]) = (A.run actions).act a := by
  rw [run, List.foldl_append, List.foldl_cons, List.foldl_nil, run]

theorem interned_concat_intern : interned (actions ++ [.intern e]) = interned actions ++ [e] := by
  rw [interned, List.filterMap_append]
  rfl

theorem interned_concat_assign {i : PointerId} {s : ObjSet} :
    interned (actions ++ [.assign i s]) = interned actions := by
  rw [interned, List.filterMap_append]
  exact List.append_nil _

theorem answers_append (A : AbstractStore) (actions more : List Action) :
    A.answers (actions ++ more) = A.answers actions ++ (A.run actions).answers more := by
  induction actions generalizing A with
  | nil => rfl
  | cons a actions ih =>
    cases a with
    | intern e => exact congrArg (List.cons (A.intern e).1) (ih (A.intern e).2)
    | assign i s => exact ih (A.setPointees i s)

/-- The numbers of each kind follow the order of first use. -/
theorem listed_run (h : Sited p (interned actions)) (k : Entity) :
    (run {} actions).listed k = Element.firstUses (interned actions) k := by
  induction actions using List.reverseRecOn generalizing k with
  | nil => cases k <;> rfl
  | append_singleton actions a ih =>
    rw [run_concat]
    cases a with
    | assign i s =>
      rw [interned_concat_assign] at h ⊢
      rw [act, listed_setPointees, ih h]
    | intern e =>
      rw [interned_concat_intern] at h ⊢
      have hold := ih fun o ho => h o (List.mem_append_left _ ho)
      rw [act]
      by_cases hk : e.kind = k
      · rw [← hk, listed_intern_self (h.admits (hold .obj)), hold, Element.firstUses_concat_self]
      · rw [listed_intern_of_ne hk, hold, Element.firstUses_concat_of_ne hk]

/-- The answers stand for what was asked, also after all that is done later. -/
theorem decode?_answers (h : Sited p (interned actions)) :
    List.Forall₂ (fun r e => (run {} actions).decode? r = some e) (answers {} actions)
      (interned actions) := by
  induction actions using List.reverseRecOn with
  | nil => exact .nil
  | append_singleton actions a ih =>
    rw [run_concat, answers_append]
    cases a with
    | assign i s =>
      rw [interned_concat_assign] at h ⊢
      rw [answers, answers, List.append_nil]
      exact (ih h).imp fun r e => (extends_act _ (.assign i s)).decode?
    | intern e =>
      rw [interned_concat_intern] at h ⊢
      have hprefix : Sited p (interned actions) := fun o ho => h o (List.mem_append_left _ ho)
      rw [answers, answers]
      refine List.rel_append ((ih hprefix).imp fun r e' => (extends_act _ (.intern e)).decode?) ?_
      exact .cons (decode?_intern (h.admits (listed_run hprefix .obj))) .nil

/-- What an identifier stands for is the element at the place of its number. -/
theorem decode?_run_iff (h : Sited p (interned actions)) {r : ElementId} {e : Element} :
    (run {} actions).decode? r = some e ↔
      r.kind = e.kind ∧ (Element.firstUses (interned actions) e.kind)[r.number - 1]? = some e := by
  rw [← listed_run h]
  constructor
  · intro hr
    have hk := kind_of_decode? hr
    rw [decode?_eq, hk] at hr
    exact ⟨hk, hr⟩
  · intro hr
    rw [decode?_eq, hr.1]
    exact hr.2

theorem number_of_decode? (h : Sited p (interned actions)) {r : ElementId} {e : Element}
    (hr : (run {} actions).decode? r = some e) :
    r.number = (Element.firstUses (interned actions) e.kind).idxOf e + 1 := by
  have hplace := ((decode?_run_iff h).mp hr).2
  obtain ⟨hlt, hget⟩ := List.getElem?_eq_some_iff.mp hplace
  have hidx := (Element.nodup_firstUses (interned actions) e.kind).idxOf_getElem _ hlt
  rw [hget] at hidx
  rw [hidx]
  have hpos : 0 < r.number := by cases r <;> exact Nat.succ_pos _
  omega

end Run

/-- What a run makes of the elements that it is asked for: numbers from one in the order of first
use, which keep their meaning, and one set for each pointer. -/
structure Numbering (actions : List Action) : Prop where
  numbers : (answers {} actions).map (fun r => (r.kind, r.number)) = (interned actions).map
    fun e => (e.kind, (Element.firstUses (interned actions) e.kind).idxOf e + 1)
  decoded : (answers {} actions).map (run {} actions).decode? = (interned actions).map some
  injective (i j : Nat) : (answers {} actions)[i]? = (answers {} actions)[j]? ↔
    (interned actions)[i]? = (interned actions)[j]?
  decode {r : ElementId} {e : Element} : (run {} actions).decode? r = some e ↔
    r.kind = e.kind ∧ (Element.firstUses (interned actions) e.kind)[r.number - 1]? = some e
  stable (more : List Action) {r : ElementId} {e : Element}
    (h : (run {} actions).decode? r = some e) : (run {} (actions ++ more)).decode? r = some e
  known {x : Pointer} : ((run {} actions).findPointer? x).isSome ↔ .pointer x ∈ interned actions
  found {x : Pointer} {i : PointerId} : (run {} actions).findPointer? x = some i ↔
    (run {} actions).decode? (.pointer i) = some (.pointer x)
  size : (run {} actions).sets.size = (run {} actions).pointers.size
  fresh {x : Pointer} (h : (run {} actions).findPointer? x = none) :
    ((run {} actions).internPointer x).2.sets.get? ((run {} actions).internPointer x).1 =
      some .empty
  kept (e : Element) {i : PointerId} {s : ObjSet} (h : (run {} actions).sets.get? i = some s) :
    ((run {} actions).intern e).2.sets.get? i = some s

/-- Whatever is done to a store, the elements of a kind and their numbers determine each other. -/
theorem interning_stable_bijection {p : Program} {actions : List Action}
    (h : Sited p (interned actions)) : Numbering actions := by
  have hanswers := decode?_answers h
  have hpaired : (run {} actions).Paired := paired_empty.run actions
  have hnumbers : (answers {} actions).map (fun r => (r.kind, r.number)) = (interned actions).map
      fun e => (e.kind, (Element.firstUses (interned actions) e.kind).idxOf e + 1) := by
    rw [← List.forall₂_eq_eq_eq, List.forall₂_map_left_iff, List.forall₂_map_right_iff]
    exact hanswers.imp fun r e hr => Prod.ext (kind_of_decode? hr) (number_of_decode? h hr)
  have hdecode :
      (answers {} actions).map (run {} actions).decode? = (interned actions).map some := by
    rw [← List.forall₂_eq_eq_eq, List.forall₂_map_left_iff, List.forall₂_map_right_iff]
    exact hanswers
  constructor
  case numbers => exact hnumbers
  case decoded => exact hdecode
  case injective =>
    refine fun i j => ⟨fun hij => ?_, fun hij => ?_⟩
    · apply Option.map_injective (Option.some_injective Element)
      rw [← List.getElem?_map, ← List.getElem?_map, ← hdecode, List.getElem?_map,
        List.getElem?_map, hij]
    · apply Option.map_injective (f := fun r : ElementId => (r.kind, r.number))
      · intro r r' hr
        exact ElementId.ext_number (congrArg Prod.fst hr) (congrArg Prod.snd hr)
      · rw [← List.getElem?_map, ← List.getElem?_map, hnumbers, List.getElem?_map,
          List.getElem?_map, hij]
  case decode => exact decode?_run_iff h
  case stable =>
    intro more r e hr
    rw [run, List.foldl_append]
    exact (extends_run (run {} actions) more).decode? hr
  case known =>
    intro x
    rw [isSome_findPointer?_iff, listed_run h, Element.mem_firstUses]
    exact and_iff_left rfl
  case found => exact findPointer?_eq_some_iff
  case size => exact hpaired
  case fresh => exact hpaired.get?_sets_internPointer
  case kept => exact fun e i s => sets_intern_extends (run {} actions) e i s

/-- One of the two boxes. -/
def pairBox (site : StmtId) : Obj :=
  { site, type := .ref "Box", cls := ⟨0⟩, container := ⟨1⟩, containerClass := ⟨0⟩ }

/-- The two boxes, with a variable that gets one of them between calls for the same elements. -/
def pairActions : List Action :=
  [.intern (.context {}), .intern (.object (pairBox ⟨1⟩)), .intern (.object (pairBox ⟨2⟩)),
    .intern (.ctxObject ⟨⟨0⟩, ⟨1⟩⟩), .intern (.pointer (.var ⟨⟨0⟩, ⟨3⟩⟩)),
    .assign ⟨0⟩ (.singleton ⟨0⟩), .intern (.context ⟨[.alloc ⟨2⟩]⟩),
    .intern (.object (pairBox ⟨1⟩)), .intern (.pointer (.array ⟨0⟩)),
    .intern (.pointer (.var ⟨⟨0⟩, ⟨3⟩⟩))]

theorem sited_pairActions : Sited Description.pairs.program (interned pairActions) := by
  have hboxes : ∀ s ∈ [(⟨1⟩ : StmtId), ⟨2⟩],
      Description.pairs.program.objectAt s = .ok (pairBox s) := by
    decide +kernel
  intro o ho
  simp only [interned, pairActions, List.filterMap_cons, List.filterMap_nil, Action.element?,
    List.mem_cons, List.not_mem_nil, Element.object.injEq, reduceCtorEq, or_false, false_or] at ho
  rcases ho with rfl | rfl | rfl
  · exact hboxes ⟨1⟩ (by decide)
  · exact hboxes ⟨2⟩ (by decide)
  · exact hboxes ⟨1⟩ (by decide)

theorem interning_stable_bijection_pairs :
    Sited Description.pairs.program (interned pairActions) ∧
    (answers {} pairActions).map (fun r => (r.kind, r.number)) =
      [(.context, 1), (.obj, 1), (.obj, 2), (.ctxObj, 1), (.pointer, 1), (.context, 2), (.obj, 1),
        (.pointer, 2), (.pointer, 1)] ∧
    (run {} pairActions).decode? (.object ⟨1⟩) = some (.object (pairBox ⟨2⟩)) ∧
    ((run {} pairActions).findPointer? (.var ⟨⟨0⟩, ⟨3⟩⟩)).isSome ∧
    ¬((run {} pairActions).findPointer? (.static ⟨0⟩)).isSome := by
  have h := interning_stable_bijection sited_pairActions
  refine ⟨sited_pairActions, h.numbers.trans (by decide +kernel), ?_, ?_, ?_⟩
  · exact h.decode.mpr (by decide +kernel)
  · exact h.known.mpr (by decide +kernel)
  · rw [h.known]
    decide +kernel

end AbstractStore

end PointsTo
