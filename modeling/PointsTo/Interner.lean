import PointsTo.Id
import Std.Data.TreeMap

namespace PointsTo

/-- Values of type `α`, numbered by identifiers of kind `κ`. Two values with the same key are taken
for the same value, and the one that came first stands for both. -/
structure Interner (κ : Entity) (α : Type) (key : α → List Nat) where
  values : Table κ α
  index : Std.TreeMap (List Nat) (Id κ)
  /-- The index finds each value by its key, and nothing else. -/
  index_iff : ∀ k i, index[k]? = some i ↔ (values.get? i).map key = some k

namespace Interner

variable {κ : Entity} {α : Type} {key : α → List Nat}

def empty : Interner κ α key where
  values := {}
  index := {}
  index_iff := by simp [Table.get?]

instance : Inhabited (Interner κ α key) := ⟨empty⟩

def size (t : Interner κ α key) : Nat := t.values.size

/-- The identifier of a value that has been numbered. -/
def find? (t : Interner κ α key) (a : α) : Option (Id κ) := t.index[key a]?

/-- The value that an identifier stands for. -/
def get [Inhabited α] (t : Interner κ α key) (i : Id κ) : α := t.values.get i

/-- Numbers a value that is not among the others. -/
def push (t : Interner κ α key) (a : α) (fresh : t.find? a = none) : Interner κ α key where
  values := t.values.push a
  index := t.index.insert (key a) t.values.nextId
  index_iff k i := by
    have h := t.index_iff k i
    have hfresh : t.index[key a]? = none := fresh
    simp only [Std.TreeMap.getElem?_insert, Std.LawfulEqOrd.compare_eq_iff_eq, Table.get?,
      Table.push, Array.getElem?_push] at h ⊢
    have hnext : t.values.nextId = i ↔ i.index = t.values.rows.size := by
      simp [Table.nextId, Table.size, Id.ext_iff, eq_comm]
    by_cases hk : key a = k <;> by_cases hi : i.index = t.values.rows.size
    · simp [hk, hi, hnext]
    · subst hk
      simp [hi, hnext, ← h, hfresh]
    · simp [hk, hi, h]
    · simp [hk, hi, h]

/-- The identifier of a value, which is numbered if it is new. -/
def intern (t : Interner κ α key) (a : α) : Id κ × Interner κ α key :=
  match h : t.find? a with
  | some i => (i, t)
  | none => (t.values.nextId, t.push a h)

end Interner

end PointsTo
