namespace PointsTo.Text

/-- The parts before and after the first `c`, if there is one. -/
def splitFirst (c : Char) : List Char → Option (List Char × List Char)
  | [] => none
  | x :: s =>
    if x = c then some ([], s) else (splitFirst c s).map fun (before, after) => (x :: before, after)

/-- The parts before and after the last `c`, if there is one. -/
def splitLast (c : Char) (s : List Char) : Option (List Char × List Char) :=
  (splitFirst c s.reverse).map fun (after, before) => (before.reverse, after.reverse)

theorem splitFirst_eq_some {c : Char} {s a b : List Char} (h : splitFirst c s = some (a, b)) :
    s = a ++ c :: b ∧ c ∉ a := by
  induction s generalizing a with
  | nil => simp [splitFirst] at h
  | cons x s ih =>
    by_cases hx : x = c
    · simp_all [splitFirst]
    · simp only [splitFirst, hx, if_false, Option.map_eq_some_iff, Prod.exists, Prod.mk.injEq] at h
      obtain ⟨a', b', hs, rfl, rfl⟩ := h
      obtain ⟨rfl, hc⟩ := ih hs
      exact ⟨rfl, by simpa [hc] using Ne.symm hx⟩

theorem splitFirst_append {c : Char} {a : List Char} (b : List Char) (h : c ∉ a) :
    splitFirst c (a ++ c :: b) = some (a, b) := by
  induction a with
  | nil => simp [splitFirst]
  | cons x a ih => simp_all [splitFirst, Ne.symm]

theorem splitFirst_eq_none_iff {c : Char} {s : List Char} : splitFirst c s = none ↔ c ∉ s := by
  induction s with
  | nil => simp [splitFirst]
  | cons x s ih =>
    by_cases hx : x = c
    · simp [splitFirst, hx]
    · simp [splitFirst, hx, ih, Ne.symm hx]

theorem splitLast_eq_some {c : Char} {s a b : List Char} (h : splitLast c s = some (a, b)) :
    s = a ++ c :: b ∧ c ∉ b := by
  simp only [splitLast, Option.map_eq_some_iff, Prod.exists, Prod.mk.injEq] at h
  obtain ⟨after, before, hs, rfl, rfl⟩ := h
  obtain ⟨hs, hc⟩ := splitFirst_eq_some hs
  constructor
  · rw [← List.reverse_inj, hs]
    simp
  · simpa using hc

theorem splitLast_append {c : Char} (a : List Char) {b : List Char} (h : c ∉ b) :
    splitLast c (a ++ c :: b) = some (a, b) := by
  have hs : (a ++ c :: b).reverse = b.reverse ++ c :: a.reverse := by simp
  rw [splitLast, hs, splitFirst_append _ (by simpa using h)]
  simp

theorem splitLast_eq_none_iff {c : Char} {s : List Char} : splitLast c s = none ↔ c ∉ s := by
  rw [splitLast, Option.map_eq_none_iff, splitFirst_eq_none_iff, List.mem_reverse]

end PointsTo.Text
