namespace PointsTo

/-- The elements of `front`, then those of `back` in reverse. -/
structure Queue (α : Type) where
  front : List α := []
  back : List α := []

namespace Queue

variable {α : Type}

instance : Inhabited (Queue α) := ⟨{}⟩

/-- The elements, oldest first. -/
def toList (q : Queue α) : List α := q.front ++ q.back.reverse

def push (q : Queue α) (a : α) : Queue α := { q with back := a :: q.back }

/-- The oldest element and the queue without it. -/
def pop? (q : Queue α) : Option (α × Queue α) :=
  match q.front with
  | a :: front => some (a, { q with front })
  | [] =>
    match q.back.reverse with
    | a :: front => some (a, ⟨front, []⟩)
    | [] => none

@[simp] theorem toList_push (q : Queue α) (a : α) : (q.push a).toList = q.toList ++ [a] := by
  simp [push, toList]

theorem pop?_eq_none {q : Queue α} (h : q.pop? = none) : q.toList = [] := by
  cases hf : q.front <;> cases hb : q.back.reverse <;> simp_all [pop?, toList]

theorem toList_of_pop? {q q' : Queue α} {a : α} (h : q.pop? = some (a, q')) :
    q.toList = a :: q'.toList := by
  cases hf : q.front with
  | cons b front =>
    obtain ⟨rfl, rfl⟩ : b = a ∧ { q with front } = q' := by simpa [pop?, hf] using h
    simp [toList, hf]
  | nil =>
    cases hb : q.back.reverse with
    | nil => simp [pop?, hf, hb] at h
    | cons b front =>
      obtain ⟨rfl, rfl⟩ : b = a ∧ ⟨front, []⟩ = q' := by simpa [pop?, hf, hb] using h
      simp [toList, hf, hb]

end Queue

end PointsTo
