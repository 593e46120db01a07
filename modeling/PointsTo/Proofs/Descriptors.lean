import PointsTo.Ty
import Mathlib.Data.List.TakeWhile

namespace PointsTo

theorem Prim.letter_of_ofLetter? {c : Char} {p : Prim} (h : ofLetter? c = some p) :
    p.letter = c := by
  have hfound := List.find?_some h
  simpa using hfound

namespace Ty

/-- Types that an array can hold below all its dimensions: the primitive types, and the classes
whose name a descriptor can carry. -/
def IsElem : Ty → Prop
  | prim _ => True
  | ref name => name ≠ "" ∧ ';' ∉ name.toList
  | void | array .. => False

instance : DecidablePred IsElem
  | prim _ => .isTrue trivial
  | ref name => inferInstanceAs (Decidable (name ≠ "" ∧ ';' ∉ name.toList))
  | void | array .. => .isFalse id

/-- The types that reading builds: an array has all its dimensions in one place, at least one and
no more than the limit, and `void` stands alone. -/
def Canonical : Ty → Prop
  | void => True
  | prim p => (prim p).IsElem
  | ref name => (ref name).IsElem
  | array dims elem => (1 ≤ dims ∧ dims ≤ maxDims) ∧ elem.IsElem

/-- The dimensions of all arrays on the way down to the innermost element. -/
def dimensions : Ty → Nat
  | array dims elem => dims + elem.dimensions
  | void | prim _ | ref _ => 0

/-- What the arrays of a type hold in the end. -/
def innermost : Ty → Ty
  | array _ elem => elem.innermost
  | void => void
  | prim p => prim p
  | ref name => ref name

/-- Nested arrays merged into one, and arrays of no dimension removed. -/
def flatten (t : Ty) : Ty := withDims t.dimensions t.innermost

/-- Types that have a descriptor: `void` is under no array, and a descriptor can carry the class
name. -/
def Describable (t : Ty) : Prop := t = void ∨ t.innermost.IsElem

instance (t : Ty) : Decidable t.Describable :=
  inferInstanceAs (Decidable (t = void ∨ t.innermost.IsElem))

def isArray : Ty → Bool
  | array .. => true
  | void | prim _ | ref _ => false

/-- Types with nothing to merge or to remove. -/
def IsFlat : Ty → Prop
  | array dims elem => 1 ≤ dims ∧ elem.isArray = false
  | void | prim _ | ref _ => True

/-- What can stand below `n` dimensions. -/
def Fits (n : Nat) (t : Ty) : Prop := t.IsElem ∨ t = void ∧ n = 0

theorem chars_eq (t : Ty) :
    t.chars = List.replicate t.dimensions '[' ++ t.innermost.chars := by
  induction t with
  | void | prim | ref => rfl
  | array dims elem ih =>
    rw [chars, ih, dimensions, innermost, ← List.append_assoc, List.replicate_append_replicate]

theorem chars_withDims (n : Nat) (t : Ty) :
    (withDims n t).chars = List.replicate n '[' ++ t.chars := by
  cases n <;> rfl

theorem text_eq_iff {t : Ty} {s : String} : t.text = s ↔ t.chars = s.toList := by
  rw [text, ← String.toList_inj, String.toList_ofList]

theorem isArray_innermost (t : Ty) : t.innermost.isArray = false := by
  induction t with
  | void | prim | ref => rfl
  | array dims elem ih => exact ih

theorem IsElem.isArray_eq {t : Ty} (h : t.IsElem) : t.isArray = false := by
  cases t with
  | void | prim | ref => rfl
  | array => exact h.elim

/-- What is no array is its own innermost element. -/
theorem innermost_of_not_array {t : Ty} (h : t.isArray = false) :
    t.dimensions = 0 ∧ t.innermost = t := by
  cases t with
  | void | prim | ref => exact ⟨rfl, rfl⟩
  | array => cases h

theorem isFlat_withDims (n : Nat) {t : Ty} (h : t.isArray = false) : (withDims n t).IsFlat := by
  cases n with
  | zero =>
    cases t with
    | void | prim | ref => trivial
    | array => cases h
  | succ n => exact ⟨by omega, h⟩

theorem isFlat_flatten (t : Ty) : t.flatten.IsFlat :=
  isFlat_withDims t.dimensions (isArray_innermost t)

theorem IsFlat.flatten_eq {t : Ty} (h : t.IsFlat) : t.flatten = t := by
  cases t with
  | void | prim | ref => rfl
  | array dims elem =>
    obtain ⟨hpos, helem⟩ := h
    obtain ⟨hzero, hinner⟩ := innermost_of_not_array helem
    obtain ⟨n, rfl⟩ := Nat.exists_eq_add_of_le' hpos
    rw [flatten, dimensions, innermost, hzero, hinner]
    rfl

theorem Canonical.isFlat {t : Ty} (h : t.Canonical) : t.IsFlat := by
  cases t with
  | void | prim | ref => trivial
  | array dims elem => exact ⟨h.1.1, h.2.isArray_eq⟩

theorem Canonical.describable {t : Ty} (h : t.Canonical) : t.Describable := by
  cases t with
  | void => exact .inl rfl
  | prim | ref => exact .inr h
  | array dims elem =>
    obtain ⟨-, helem⟩ := h
    have hinner := (innermost_of_not_array helem.isArray_eq).2
    exact .inr (by rwa [innermost, hinner])

theorem Canonical.dimensions_le {t : Ty} (h : t.Canonical) : t.dimensions ≤ maxDims := by
  cases t with
  | void | prim | ref => exact Nat.zero_le _
  | array dims elem =>
    obtain ⟨⟨-, hdims⟩, helem⟩ := h
    have hzero := (innermost_of_not_array helem.isArray_eq).1
    rw [dimensions]
    omega

theorem Fits.canonical {n : Nat} {t : Ty} (h : Fits n t) (hn : n ≤ maxDims) :
    (withDims n t).Canonical := by
  cases n with
  | zero =>
    obtain helem | ⟨rfl, -⟩ := h
    · cases t with
      | void | array => exact helem.elim
      | prim | ref => exact helem
    · trivial
  | succ n =>
    obtain helem | ⟨-, hzero⟩ := h
    · exact ⟨⟨by omega, hn⟩, helem⟩
    · omega

theorem Describable.fits {t : Ty} (h : t.Describable) : Fits t.dimensions t.innermost := by
  obtain rfl | helem := h
  · exact .inr ⟨rfl, rfl⟩
  · exact .inl helem

/-- No element starts with a bracket, so that the brackets before it are the dimensions. -/
theorem Fits.head?_chars {n : Nat} {t : Ty} (h : Fits n t) (rest : List Char) :
    (t.chars ++ rest).head? ≠ some '[' := by
  cases t with
  | void => simp [chars]
  | prim p => cases p <;> simp [chars, Prim.letter]
  | ref name => simp [chars]
  | array dims elem =>
    obtain helem | ⟨hvoid, -⟩ := h
    · exact helem.elim
    · cases hvoid

theorem readElem?_append {n : Nat} {t : Ty} (h : Fits n t) (rest : List Char) :
    readElem? n (t.chars ++ rest) = some (t, rest) := by
  obtain helem | ⟨rfl, rfl⟩ := h
  · cases t with
    | void | array => exact helem.elim
    | prim p => cases p <;> rfl
    | ref name =>
      obtain ⟨hne, hsemi⟩ := helem
      obtain ⟨c, l, hl⟩ : ∃ c l, name.toList = c :: l := by
        apply List.exists_cons_of_ne_nil
        simpa using hne
      have hname : name = String.ofList (c :: l) := by rw [← hl, String.ofList_toList]
      have hsplit : Text.splitFirst ';' (c :: l ++ ';' :: rest) = some (c :: l, rest) := by
        rw [← hl]
        exact Text.splitFirst_append rest hsemi
      have htext : (ref name).chars ++ rest = 'L' :: (c :: l ++ ';' :: rest) := by
        simp [chars, hl]
      simp only [htext, readElem?, hsplit, ← hname]
  · rfl

theorem readElem?_eq_some {n : Nat} {s rest : List Char} {t : Ty}
    (h : readElem? n s = some (t, rest)) : s = t.chars ++ rest ∧ Fits n t := by
  unfold readElem? at h
  split at h
  · cases h
  · split at h
    · cases h
      exact ⟨rfl, .inr ⟨rfl, ‹_›⟩⟩
    · cases h
  · split at h
    · rename_i _ l c name after hsplit
      cases h
      obtain ⟨rfl, hsemi⟩ := Text.splitFirst_eq_some hsplit
      refine ⟨by simp [chars], .inl ⟨?_, by simpa using hsemi⟩⟩
      simp [← String.toList_inj]
    · cases h
  · rename_i c l _ _
    obtain ⟨p, hp, hpair⟩ := Option.map_eq_some_iff.1 h
    cases hpair
    exact ⟨by rw [chars, Prim.letter_of_ofLetter? hp]; rfl, .inl trivial⟩

/-- Every text is a number of brackets before something that does not start with one. -/
theorem exists_brackets (s : List Char) :
    ∃ n l, s = List.replicate n '[' ++ l ∧ l.head? ≠ some '[' := by
  have hbrackets : s.takeWhile (· = '[') =
      List.replicate (s.takeWhile (· = '[')).length '[' := by
    apply List.eq_replicate_iff.2
    exact ⟨rfl, fun c hc => by simpa using List.mem_takeWhile_imp hc⟩
  refine ⟨(s.takeWhile (· = '[')).length, s.dropWhile (· = '['), ?_, ?_⟩
  · rw [← hbrackets, List.takeWhile_append_dropWhile]
  · intro hhead
    have hstop := List.head?_dropWhile_not (· = '[') s
    rw [hhead] at hstop
    simp at hstop

/-- Reading counts the brackets and then reads the element that they stand before. -/
theorem readFront?_brackets (n : Nat) {l : List Char} (h : l.head? ≠ some '[') :
    readFront? (List.replicate n '[' ++ l) =
      if maxDims < n then none
      else (readElem? n l).map fun found => (withDims n found.1, found.2) := by
  have hstop : l.takeWhile (· = '[') = [] := by
    cases l with
    | nil => rfl
    | cons c l => exact List.takeWhile_cons_of_neg (by simpa using h)
  have htake : (List.replicate n '[' ++ l).takeWhile (· = '[') = List.replicate n '[' := by
    rw [List.takeWhile_append_of_pos (by simp), hstop, List.append_nil]
  have hdrop : (List.replicate n '[' ++ l).drop n = l := List.drop_left' List.length_replicate
  simp only [readFront?, htake, List.length_replicate, hdrop]

/-- Reading takes the descriptor of what it gives, and no more. -/
theorem readFront?_eq_some {s rest : List Char} {t : Ty} (h : readFront? s = some (t, rest)) :
    s = t.chars ++ rest ∧ t.Canonical := by
  obtain ⟨n, l, rfl, hl⟩ := exists_brackets s
  rw [readFront?_brackets n hl] at h
  split at h
  · cases h
  · rename_i hdims
    obtain ⟨⟨elem, after⟩, helem, hpair⟩ := Option.map_eq_some_iff.1 h
    cases hpair
    obtain ⟨rfl, hfits⟩ := readElem?_eq_some helem
    refine ⟨?_, hfits.canonical (by omega)⟩
    rw [chars_withDims, List.append_assoc]

/-- A descriptor is read back, whatever follows it, as long as it keeps to the limit. -/
theorem readFront?_chars_append {t : Ty} (h : t.Describable) (rest : List Char) :
    readFront? (t.chars ++ rest) =
      if t.dimensions ≤ maxDims then some (t.flatten, rest) else none := by
  rw [chars_eq, List.append_assoc, readFront?_brackets _ (h.fits.head?_chars rest),
    readElem?_append h.fits rest, Option.map_some, ← flatten]
  by_cases hle : t.dimensions ≤ maxDims
  · rw [if_neg (by omega), if_pos hle]
  · rw [if_pos (by omega), if_neg hle]

theorem Canonical.readFront?_append {t : Ty} (h : t.Canonical) (rest : List Char) :
    readFront? (t.chars ++ rest) = some (t, rest) := by
  rw [readFront?_chars_append h.describable, if_pos h.dimensions_le, h.isFlat.flatten_eq]

theorem parse?_eq_some {s : String} {t : Ty} :
    parse? s = some t ↔ readFront? s.toList = some (t, []) := by
  unfold parse?
  split <;> simp_all

/-- Reading accepts the descriptors of the canonical types, and no other text. -/
theorem parse?_eq_some_iff {s : String} {t : Ty} :
    parse? s = some t ↔ t.text = s ∧ t.Canonical := by
  rw [parse?_eq_some, text_eq_iff]
  constructor
  · intro h
    obtain ⟨hs, hcanonical⟩ := readFront?_eq_some h
    rw [List.append_nil] at hs
    exact ⟨hs.symm, hcanonical⟩
  · intro h
    obtain ⟨hs, hcanonical⟩ := h
    have hread := hcanonical.readFront?_append []
    rwa [List.append_nil, hs] at hread

theorem parse?_text_eq {t : Ty} (h : t.Describable) :
    parse? t.text = if t.dimensions ≤ maxDims then some t.flatten else none := by
  have hread := readFront?_chars_append h []
  rw [List.append_nil] at hread
  rw [parse?, text, String.toList_ofList, hread]
  by_cases hle : t.dimensions ≤ maxDims
  · simp only [if_pos hle]
  · simp only [if_neg hle]

/-- The descriptor of a type gives back the type, with its arrays merged, exactly when there are no
more dimensions than the limit. A type with nothing to merge comes back as it was. -/
theorem parse?_text_describable {t : Ty} (h : t.Describable) :
    parse? t.text = (if t.dimensions ≤ maxDims then some t.flatten else none) ∧
      t.flatten.IsFlat ∧ (t.IsFlat → t.flatten = t) :=
  ⟨parse?_text_eq h, isFlat_flatten t, IsFlat.flatten_eq⟩

theorem parse?_text_nested :
    (array 0 (array 2 (array 0 (array 1 (ref "A"))))).Describable ∧
      parse? (array 0 (array 2 (array 0 (array 1 (ref "A"))))).text =
        some (array 3 (ref "A")) := by
  have hdescribable : (array 0 (array 2 (array 0 (array 1 (ref "A"))))).Describable := by decide
  exact ⟨hdescribable, (parse?_text_describable hdescribable).1⟩

/-- With 255 dimensions a type has a descriptor that is not read. -/
theorem parse?_text_array_255 :
    (array 255 (prim .int)).Describable ∧ (array 255 (prim .int)).IsFlat ∧
      (array 255 (prim .int)).dimensions = 255 ∧ parse? (array 255 (prim .int)).text = none := by
  have hdescribable : (array 255 (prim .int)).Describable := by decide
  refine ⟨hdescribable, ⟨by decide, rfl⟩, rfl, ?_⟩
  rw [parse?_text_eq hdescribable, if_neg (by decide)]

end Ty

end PointsTo
