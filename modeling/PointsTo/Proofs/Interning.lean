import Mathlib.Data.List.Nodup
import PointsTo.AbstractStore

namespace PointsTo

namespace Table

variable {κ : Entity} {α : Type} {t u : Table κ α} {i j : Id κ} {a b : α}

/-- The identifier is in use. -/
def Holds (t : Table κ α) (i : Id κ) : Prop := i.index < t.size

instance : Decidable (t.Holds i) := inferInstanceAs (Decidable (i.index < t.size))

/-- Every entry of `t` stands at the same place in `u`. -/
def Extends (u t : Table κ α) : Prop := ∀ i a, t.get? i = some a → u.get? i = some a

theorem holds_iff : t.Holds i ↔ ∃ a, t.get? i = some a := by
  simp [Holds, size, get?, ← Option.isSome_iff_exists]

theorem holds_of_get? (h : t.get? i = some a) : t.Holds i := holds_iff.mpr ⟨a, h⟩

theorem mem_ids : i ∈ t.ids ↔ t.Holds i := by
  simp only [ids, List.mem_map, List.mem_range, Holds]
  constructor
  · intro h
    obtain ⟨n, hn, rfl⟩ := h
    exact hn
  · intro h
    exact ⟨i.index, h, rfl⟩

theorem nodup_ids : t.ids.Nodup := by
  apply List.Nodup.map
  · intro m n h
    exact congrArg Id.index h
  · exact List.nodup_range

theorem mem_toList : a ∈ t.toList ↔ ∃ i, t.get? i = some a := by
  rw [toList, Array.mem_toList_iff, Array.mem_iff_getElem?]
  constructor
  · intro h
    obtain ⟨n, hn⟩ := h
    exact ⟨⟨n⟩, hn⟩
  · intro h
    obtain ⟨i, hi⟩ := h
    exact ⟨i.index, hi⟩

theorem get_of_get? [Inhabited α] (h : t.get? i = some a) : t.get i = a := by
  simp [get, h]

theorem get?_of_holds [Inhabited α] (h : t.Holds i) : t.get? i = some (t.get i) := by
  obtain ⟨a, ha⟩ := holds_iff.mp h
  rw [ha, get_of_get? ha]

theorem get?_push : (t.push a).get? i = if i = t.nextId then some a else t.get? i := by
  simp [push, get?, Array.getElem?_push, nextId, size, Id.ext_iff]

theorem get?_push_self : (t.push a).get? t.nextId = some a := by simp [get?_push]

theorem size_push : (t.push a).size = t.size + 1 := by simp [push, size]

theorem not_holds_nextId : ¬t.Holds t.nextId := by simp [Holds, nextId]

theorem get?_modify {f : α → α} :
    (t.modify i f).get? j = if i = j then (t.get? j).map f else t.get? j := by
  simp [modify, get?, Array.getElem?_modify, Id.ext_iff]

theorem size_modify {f : α → α} : (t.modify i f).size = t.size := by simp [modify, size]

theorem ids_push : (t.push a).ids = t.ids ++ [t.nextId] := by
  simp [ids, size_push, List.range_succ, nextId]

theorem modify_modify {f g : α → α} : (t.modify i f).modify i g = t.modify i fun a => g (f a) := by
  ext1
  apply Array.ext_getElem?
  intro n
  by_cases hn : i.index = n
  · simp [modify, Array.getElem?_modify, hn, Function.comp_def]
  · simp [modify, Array.getElem?_modify, hn]

theorem holds_push : (t.push a).Holds i ↔ t.Holds i ∨ i = t.nextId := by
  simp only [Holds, size_push, nextId, Id.ext_iff]
  omega

theorem holds_modify {f : α → α} : (t.modify j f).Holds i ↔ t.Holds i := by
  simp [Holds, size_modify]

theorem get_of_not_holds [Inhabited α] (h : ¬t.Holds i) : t.get i = default := by
  rw [get]
  cases hi : t.get? i with
  | none => rfl
  | some a => exact (h (holds_of_get? hi)).elim

theorem get_push [Inhabited α] : (t.push a).get i = if i = t.nextId then a else t.get i := by
  rw [get, get?_push]
  split <;> rfl

theorem get_modify [Inhabited α] {f : α → α} (hi : t.Holds i) :
    (t.modify i f).get j = if i = j then f (t.get j) else t.get j := by
  rw [get, get?_modify]
  split
  · next h =>
    rw [← h, get?_of_holds hi]
    rfl
  · rfl

/-- What a change does not concern stays as it is. -/
theorem apply_get_modify [Inhabited α] {β : Type} {f : α → α} {g : α → β}
    (hf : ∀ a, g (f a) = g a) : g ((t.modify i f).get j) = g (t.get j) := by
  rw [get, get?_modify]
  split
  · rw [get]
    cases t.get? j with
    | none => rfl
    | some a => exact hf a
  · rfl

namespace Extends

theorem refl (t : Table κ α) : t.Extends t := fun _ _ h => h

theorem trans {t u v : Table κ α} (h₁ : v.Extends u) (h₂ : u.Extends t) : v.Extends t :=
  fun i a h => h₁ i a (h₂ i a h)

theorem holds (h : u.Extends t) (hi : t.Holds i) : u.Holds i := by
  obtain ⟨a, ha⟩ := holds_iff.mp hi
  exact holds_of_get? (h i a ha)

theorem get [Inhabited α] (h : u.Extends t) (hi : t.Holds i) : u.get i = t.get i :=
  get_of_get? (h i _ (get?_of_holds hi))

end Extends

theorem extends_push : (t.push a).Extends t := by
  intro i b h
  have hi : i ≠ t.nextId := fun he => not_holds_nextId (he ▸ holds_of_get? h)
  rw [get?_push, if_neg hi, h]

end Table

namespace Interner

variable {κ : Entity} {α : Type} {key : α → List Nat} {t : Interner κ α key} {a b : α} {i j : Id κ}

theorem find?_eq_some_iff : t.find? a = some i ↔ (t.values.get? i).map key = some (key a) :=
  t.index_iff (key a) i

theorem eq_of_key_eq (hi : t.values.get? i = some a) (hj : t.values.get? j = some b)
    (h : key a = key b) : i = j := by
  have ha : t.find? a = some i := find?_eq_some_iff.mpr (by rw [hi]; rfl)
  have hb : t.find? a = some j := find?_eq_some_iff.mpr (by rw [hj, h]; rfl)
  exact Option.some.inj (ha.symm.trans hb)

theorem intern_of_find? (h : t.find? a = some i) : t.intern a = (i, t) := by
  unfold intern
  split
  · next hj => rw [Option.some.inj (hj.symm.trans h)]
  · next hn => rw [hn] at h; cases h

theorem intern_of_fresh (h : t.find? a = none) : t.intern a = (t.values.nextId, t.push a h) := by
  unfold intern
  split
  · next hj => rw [hj] at h; cases h
  · rfl

theorem intern_extends (t : Interner κ α key) (a : α) :
    (t.intern a).2.values.Extends t.values := by
  cases h : t.find? a with
  | some i => rw [intern_of_find? h]; exact Table.Extends.refl _
  | none => rw [intern_of_fresh h]; exact Table.extends_push

/-- The identifier given to a value stands for a value with its key. -/
theorem key_intern (t : Interner κ α key) (a : α) :
    ((t.intern a).2.values.get? (t.intern a).1).map key = some (key a) := by
  cases h : t.find? a with
  | some i =>
    rw [intern_of_find? h]
    exact find?_eq_some_iff.mp h
  | none =>
    rw [intern_of_fresh h]
    exact congrArg (Option.map key) Table.get?_push_self

theorem holds_intern (t : Interner κ α key) (a : α) :
    (t.intern a).2.values.Holds (t.intern a).1 := by
  obtain ⟨b, hb, _⟩ := Option.map_eq_some_iff.mp (key_intern t a)
  exact Table.holds_of_get? hb

/-- No other value has the key of `a`. -/
def Apart (t : Interner κ α key) (a : α) : Prop :=
  ∀ i b, t.values.get? i = some b → key b = key a → b = a

theorem apart_of_injective (hk : Function.Injective key) : t.Apart a := fun _ _ _ h => hk h

namespace Apart

variable (h : t.Apart a)
include h

theorem find?_eq_some : t.find? a = some i ↔ t.values.get? i = some a := by
  rw [find?_eq_some_iff]
  constructor
  · intro hi
    obtain ⟨b, hb, hkey⟩ := Option.map_eq_some_iff.mp hi
    rw [hb, h i b hb hkey]
  · intro hi
    rw [hi]
    rfl

theorem get?_intern : (t.intern a).2.values.get? (t.intern a).1 = some a := by
  cases hf : t.find? a with
  | some i =>
    rw [intern_of_find? hf]
    exact h.find?_eq_some.mp hf
  | none =>
    rw [intern_of_fresh hf]
    exact Table.get?_push_self

theorem isSome_find?_iff : (t.find? a).isSome ↔ a ∈ t.values.toList := by
  rw [Option.isSome_iff_exists, Table.mem_toList]
  exact exists_congr fun i => h.find?_eq_some

/-- A value comes last in the list when it is first used. -/
theorem toList_intern [DecidableEq α] : (t.intern a).2.values.toList =
    if a ∈ t.values.toList then t.values.toList else t.values.toList ++ [a] := by
  cases hf : t.find? a with
  | some i =>
    have ha : a ∈ t.values.toList := h.isSome_find?_iff.mp (by rw [hf]; rfl)
    rw [intern_of_find? hf, if_pos ha]
  | none =>
    have ha : a ∉ t.values.toList := fun ha => by
      rw [← h.isSome_find?_iff, hf] at ha
      cases ha
    rw [intern_of_fresh hf, if_neg ha]
    exact Array.toList_push

end Apart

theorem get?_intern (hk : Function.Injective key) (t : Interner κ α key) (a : α) :
    (t.intern a).2.values.get? (t.intern a).1 = some a :=
  (apart_of_injective hk).get?_intern

/-- Interning adds the value itself and nothing else. -/
theorem get?_of_intern (h : (t.intern a).2.values.get? i = some b) :
    t.values.get? i = some b ∨ (t.find? a = none ∧ i = t.values.nextId ∧ b = a) := by
  cases hf : t.find? a with
  | some j =>
    rw [intern_of_find? hf] at h
    exact Or.inl h
  | none =>
    rw [intern_of_fresh hf] at h
    change (t.values.push a).get? i = some b at h
    rw [Table.get?_push] at h
    split at h
    · next hi => exact Or.inr ⟨rfl, hi, (Option.some.inj h).symm⟩
    · exact Or.inl h

end Interner

theorem ContextElem.key_append_inj {d e : ContextElem} {xs ys : List Nat}
    (h : d.key ++ xs = e.key ++ ys) : d = e ∧ xs = ys := by
  cases d <;> cases e <;> simp_all [key, Id.ext_iff]

theorem Context.key_injective : Function.Injective Context.key := by
  rintro ⟨c⟩ ⟨d⟩ h
  induction c generalizing d with
  | nil =>
    cases d with
    | nil => rfl
    | cons e d => cases e <;> simp [key, ContextElem.key] at h
  | cons e c ih =>
    cases d with
    | nil => cases e <;> simp [key, ContextElem.key] at h
    | cons f d =>
      simp only [key, List.flatMap_cons] at h
      obtain ⟨rfl, ht⟩ := ContextElem.key_append_inj h
      have hcd : c = d := congrArg Context.elems (ih d ht)
      rw [hcd]

theorem Qualified.key_injective {κ : Entity} :
    Function.Injective (Qualified.key : Qualified κ → List Nat) := by
  intro a b h
  simp only [key, List.cons.injEq, and_true] at h
  exact Qualified.ext (Id.ext h.1) (Id.ext h.2)

theorem Pointer.key_injective : Function.Injective Pointer.key := by
  intro x y h
  cases x <;> cases y <;> simp_all [key, Id.ext_iff, Qualified.key, Qualified.ext_iff]

namespace ObjSet

variable {s t : ObjSet} {o o' : CtxObjId}

@[simp] theorem contains_singleton : (singleton o).contains o' = decide (o' = o) := by
  simp only [contains, singleton, Nat.testBit_shiftLeft, Id.ext_iff]
  rw [Bool.eq_iff_iff]
  simp only [Bool.and_eq_true, decide_eq_true_eq, Nat.testBit_one_eq_true_iff_self_eq_zero]
  omega

@[simp] theorem contains_empty : (empty).contains o = false := by simp [contains, empty]

@[simp] theorem contains_union : (s.union t).contains o = (s.contains o || t.contains o) := by
  simp [contains, union]

@[simp] theorem contains_missing : (s.missing t).contains o = (t.contains o && !s.contains o) := by
  simp only [contains, missing, Nat.testBit_xor, Nat.testBit_or]
  cases s.bits.testBit o.index <;> cases t.bits.testBit o.index <;> rfl

theorem mem_toList : o ∈ s.toList ↔ s.contains o := by
  simp only [toList, contains, List.mem_map, List.mem_filter, List.mem_range]
  constructor
  · rintro ⟨i, ⟨_, hi⟩, rfl⟩
    exact hi
  · intro h
    refine ⟨o.index, ⟨?_, h⟩, rfl⟩
    by_contra hlt
    have hb : s.bits < 2 ^ o.index :=
      Nat.lt_of_lt_of_le Nat.lt_log2_self (Nat.pow_le_pow_right (by decide) (by omega))
    rw [Nat.testBit_lt_two_pow hb] at h
    cases h

theorem isEmpty_iff : s.isEmpty ↔ ∀ o, s.contains o = false := by
  simp only [isEmpty, decide_eq_true_eq]
  constructor
  · intro h o
    simp [contains, h]
  · intro h
    apply Nat.eq_of_testBit_eq
    intro i
    rw [Nat.zero_testBit]
    exact h ⟨i⟩

theorem nodup_toList (s : ObjSet) : s.toList.Nodup := by
  apply List.Nodup.map (fun i j h => Id.mk.inj h)
  exact List.nodup_range.filter _

end ObjSet

end PointsTo
