import PointsTo.Proofs.Descriptors

/-!
Reading a descriptor by byte offsets. A text can only be cut between two characters, so a reader
that counts in bytes may ask for a cut that is not there. `parseAtBytes?` never does.
-/
namespace PointsTo.Text

/-- The text from byte `i` on: none where `i` is past the end or inside a character. -/
def fromByte? (s : String) (i : Nat) : Option String :=
  (s.pos? ⟨i⟩).map fun p => (s.sliceFrom p).copy

/-- The text up to byte `i`: none where `i` is past the end or inside a character. -/
def toByte? (s : String) (i : Nat) : Option String :=
  (s.pos? ⟨i⟩).map fun p => (s.sliceTo p).copy

/-- The text from byte `i` to byte `j`. -/
def betweenBytes? (s : String) (i j : Nat) : Option String :=
  (toByte? s j).bind fun front => fromByte? front i

/-- The byte at which the first `c` starts. -/
def firstByte? (c : Char) : List Char → Option Nat
  | [] => none
  | x :: s => if x = c then some 0 else (firstByte? c s).map (x.utf8Size + ·)

/-- The end of a front part is a place to cut. -/
theorem exists_pos?_append (a b : String) :
    ∃ p, (a ++ b).pos? ⟨a.utf8ByteSize⟩ = some p ∧ p.Splits a b := by
  have hvalid : String.Pos.Raw.IsValid (a ++ b) a.rawEndPos :=
    String.Pos.Raw.isValid_iff_exists_append.2 ⟨a, b, rfl, rfl⟩
  have hslice := String.Pos.Raw.isValidForSlice_toSlice_iff.2 hvalid
  have hdecides := String.Pos.Raw.isValidForSlice_eq_true_iff.2 hslice
  refine ⟨(a ++ b).pos a.rawEndPos hvalid, ?_, String.Pos.splits_append_rawEndPos⟩
  rw [String.pos?, String.Slice.pos?]
  exact congrArg _ (dif_pos hdecides)

theorem fromByte?_append (a b : String) : fromByte? (a ++ b) a.utf8ByteSize = some b := by
  obtain ⟨p, hp, hsplits⟩ := exists_pos?_append a b
  rw [fromByte?, hp, Option.map_some, hsplits.copy_sliceFrom_eq]

-- the first character has two bytes
example : fromByte? "été" 1 = none ∧ fromByte? "été" 2 = some "té" := by decide +kernel

theorem toByte?_append (a b : String) : toByte? (a ++ b) a.utf8ByteSize = some a := by
  obtain ⟨p, hp, hsplits⟩ := exists_pos?_append a b
  rw [toByte?, hp, Option.map_some, hsplits.copy_sliceTo_eq]

theorem betweenBytes?_append (a b c : String) :
    betweenBytes? (a ++ b ++ c) a.utf8ByteSize (a ++ b).utf8ByteSize = some b := by
  rw [betweenBytes?, toByte?_append, Option.bind_some, fromByte?_append]

theorem fromByte?_cons {c : Char} (h : c.utf8Size = 1) (l : List Char) :
    fromByte? (String.ofList (c :: l)) 1 = some (String.ofList l) := by
  have hsize : (String.singleton c).utf8ByteSize = 1 := by rw [String.utf8ByteSize_singleton, h]
  rw [String.ofList_cons, ← hsize, fromByte?_append]

/-- The first `c` starts after the bytes of what is before it. -/
theorem firstByte?_eq (c : Char) (s : List Char) :
    firstByte? c s = (splitFirst c s).map fun parts => (String.ofList parts.1).utf8ByteSize := by
  induction s with
  | nil => rfl
  | cons x s ih =>
    rw [firstByte?, splitFirst]
    by_cases hx : x = c
    · simp [hx]
    · simp only [if_neg hx, ih, Option.map_map]
      congr 1
      funext parts
      simp only [Function.comp_apply, String.ofList_cons, String.utf8ByteSize_append,
        String.utf8ByteSize_singleton]

end PointsTo.Text

namespace PointsTo.Ty

open Text

/-- The number of brackets from byte `dims` on, which is where the text is cut before each look at
it. There is none where a cut fails or `fuel` looks are not enough. -/
def countBrackets? (s : String) : (fuel dims : Nat) → Option Nat
  | 0, _ => none
  | fuel + 1, dims =>
    (fromByte? s dims).bind fun rest =>
      if rest.toList.head? = some '[' then countBrackets? s fuel (dims + 1) else some dims

/-- `readElem?` by byte offsets. The outer option is `none` where a cut fails. -/
def readElemAtBytes? (dims : Nat) (s : String) : Option (Option (Ty × String)) :=
  match s.toList.head? with
  | none => some none
  | some 'V' => if dims = 0 then (fromByte? s 1).map fun rest => some (void, rest) else some none
  | some 'L' =>
    match firstByte? ';' s.toList with
    | none => some none
    | some close =>
      if close < 2 then some none
      else
        (betweenBytes? s 1 close).bind fun name =>
          (fromByte? s (close + 1)).map fun rest => some (ref name, rest)
  | some c =>
    match Prim.ofLetter? c with
    | none => some none
    | some p => (fromByte? s 1).map fun rest => some (prim p, rest)

/-- `readFront?` by byte offsets. The outer option is `none` where a cut fails or the brackets have
no end. -/
def readFrontAtBytes? (s : String) : Option (Option (Ty × String)) :=
  (countBrackets? s (s.utf8ByteSize + 1) 0).bind fun dims =>
    if maxDims < dims then some none
    else
      (fromByte? s dims).bind fun rest =>
        (readElemAtBytes? dims rest).map fun found? =>
          found?.map fun found => (withDims dims found.1, found.2)

/-- `parse?` by byte offsets. The outer option is `none` where a cut fails or the brackets have no
end. -/
def parseAtBytes? (s : String) : Option (Option Ty) :=
  (readFrontAtBytes? s).map fun found? =>
    found?.bind fun found => if found.2.isEmpty then some found.1 else none

/-- What is read from a list of characters, with the rest as a text. -/
def asText (found : Ty × List Char) : Ty × String := (found.1, String.ofList found.2)

theorem utf8ByteSize_brackets (n : Nat) :
    (String.ofList (List.replicate n '[')).utf8ByteSize = n := by
  have hone : (String.singleton '[').utf8ByteSize = 1 := String.utf8ByteSize_singleton
  induction n with
  | zero => rfl
  | succ n ih =>
    rw [List.replicate_succ, String.ofList_cons, String.utf8ByteSize_append, ih, hone, Nat.add_comm]

/-- Each bracket is one byte, so the text can be cut behind any number of them. -/
theorem fromByte?_brackets {n k : Nat} (h : k ≤ n) (l : List Char) :
    fromByte? (String.ofList (List.replicate n '[' ++ l)) k =
      some (String.ofList (List.replicate (n - k) '[' ++ l)) := by
  have hsplit : String.ofList (List.replicate n '[' ++ l) =
      String.ofList (List.replicate k '[') ++ String.ofList (List.replicate (n - k) '[' ++ l) := by
    rw [← String.ofList_append, ← List.append_assoc, List.replicate_append_replicate,
      Nat.add_sub_cancel' h]
  calc fromByte? (String.ofList (List.replicate n '[' ++ l)) k
    _ = fromByte? (String.ofList (List.replicate k '[') ++
          String.ofList (List.replicate (n - k) '[' ++ l))
          (String.ofList (List.replicate k '[')).utf8ByteSize := by
        rw [hsplit, utf8ByteSize_brackets]
    _ = some (String.ofList (List.replicate (n - k) '[' ++ l)) := fromByte?_append _ _

theorem countBrackets?_eq {n : Nat} {l : List Char} (hl : l.head? ≠ some '[') {fuel k : Nat}
    (hk : k ≤ n) (hfuel : n - k < fuel) :
    countBrackets? (String.ofList (List.replicate n '[' ++ l)) fuel k = some n := by
  induction fuel generalizing k with
  | zero => omega
  | succ fuel ih =>
    rw [countBrackets?, fromByte?_brackets hk, Option.bind_some, String.toList_ofList]
    obtain rfl | hlt := Nat.eq_or_lt_of_le hk
    · rw [Nat.sub_self, List.replicate_zero, List.nil_append, if_neg hl]
    · obtain ⟨m, hm⟩ : ∃ m, n - k = m + 1 := ⟨n - k - 1, by omega⟩
      rw [hm, List.replicate_succ, List.cons_append, List.head?_cons, if_pos rfl]
      exact ih hlt (by omega)

theorem utf8Size_letter (p : Prim) : p.letter.utf8Size = 1 := by
  cases p <;> rfl

/-- The cuts around a class name are the ends of the parts of the text that the first semicolon
gives. -/
theorem cuts_of_splitFirst {l a b : List Char} (h : splitFirst ';' l = some (a, b)) :
    firstByte? ';' ('L' :: l) = some (1 + (String.ofList a).utf8ByteSize) ∧
      betweenBytes? (String.ofList ('L' :: l)) 1 (1 + (String.ofList a).utf8ByteSize) =
        some (String.ofList a) ∧
      fromByte? (String.ofList ('L' :: l)) (1 + (String.ofList a).utf8ByteSize + 1) =
        some (String.ofList b) := by
  obtain ⟨rfl, -⟩ := splitFirst_eq_some h
  have hL : (String.singleton 'L').utf8ByteSize = 1 := String.utf8ByteSize_singleton
  have hsemi : (String.singleton ';').utf8ByteSize = 1 := String.utf8ByteSize_singleton
  have htext : String.ofList ('L' :: (a ++ ';' :: b)) =
      String.singleton 'L' ++ String.ofList a ++ (String.singleton ';' ++ String.ofList b) := by
    rw [String.ofList_cons, String.ofList_append, String.ofList_cons, String.append_assoc]
  refine ⟨?_, ?_, ?_⟩
  · rw [firstByte?, if_neg (by decide), firstByte?_eq, h]
    rfl
  · have hcut := betweenBytes?_append (String.singleton 'L') (String.ofList a)
      (String.singleton ';' ++ String.ofList b)
    rwa [String.utf8ByteSize_append, hL, ← htext] at hcut
  · have hcut := fromByte?_append (String.singleton 'L' ++ String.ofList a ++ String.singleton ';')
      (String.ofList b)
    rwa [String.append_assoc, ← htext, String.utf8ByteSize_append, String.utf8ByteSize_append, hL,
      hsemi] at hcut

/-- A class name has no byte exactly when it has no character. -/
theorem close_lt_two_iff (a : List Char) :
    1 + (String.ofList a).utf8ByteSize < 2 ↔ a = [] := by
  constructor
  · intro h
    have hzero : (String.ofList a).utf8ByteSize = 0 := by omega
    have hempty := String.utf8ByteSize_eq_zero_iff.1 hzero
    simpa using hempty
  · rintro rfl
    decide

theorem readElemAtBytes?_eq (n : Nat) (l : List Char) :
    readElemAtBytes? n (String.ofList l) = some ((readElem? n l).map asText) := by
  fun_cases readElem? n l with
  | case1 => rfl
  | case2 rest hn =>
    have hcut := fromByte?_cons (c := 'V') rfl rest
    simp only [readElemAtBytes?, String.toList_ofList, List.head?_cons, if_pos hn, hcut,
      Option.map_some, asText]
  | case3 rest hn => simp [readElemAtBytes?, hn]
  | case4 l c name rest hsplit =>
    obtain ⟨hfirst, hname, hrest⟩ := cuts_of_splitFirst hsplit
    have hlong : ¬1 + (String.ofList (c :: name)).utf8ByteSize < 2 := by
      rw [close_lt_two_iff]
      exact List.cons_ne_nil c name
    simp only [readElemAtBytes?, String.toList_ofList, List.head?_cons, hfirst, if_neg hlong, hname,
      hrest, Option.bind_some, Option.map_some, asText]
  | case5 l hsplit =>
    cases hfound : splitFirst ';' l with
    | none =>
      have hfirst : firstByte? ';' ('L' :: l) = none := by
        rw [firstByte?, if_neg (by decide), firstByte?_eq, hfound]
        rfl
      simp only [readElemAtBytes?, String.toList_ofList, List.head?_cons, hfirst, Option.map_none]
    | some parts =>
      obtain ⟨a, b⟩ := parts
      obtain ⟨hfirst, -, -⟩ := cuts_of_splitFirst hfound
      have hshort : 1 + (String.ofList a).utf8ByteSize < 2 := by
        rw [close_lt_two_iff]
        cases a with
        | nil => rfl
        | cons c name => exact absurd hfound (hsplit c name b)
      simp only [readElemAtBytes?, String.toList_ofList, List.head?_cons, hfirst, if_pos hshort,
        Option.map_none]
  | case6 c rest hV hL =>
    cases hp : Prim.ofLetter? c with
    | none => simp [readElemAtBytes?, hp]
    | some p =>
      have hcut := fromByte?_cons (utf8Size_letter p) rest
      rw [Prim.letter_of_ofLetter? hp] at hcut
      simp only [readElemAtBytes?, String.toList_ofList, List.head?_cons, hp, hcut, Option.map_some,
        asText]

theorem readFrontAtBytes?_eq (l : List Char) :
    readFrontAtBytes? (String.ofList l) = some ((readFront? l).map asText) := by
  obtain ⟨n, l, rfl, hl⟩ := exists_brackets l
  have hfuel : n - 0 < (String.ofList (List.replicate n '[' ++ l)).utf8ByteSize + 1 := by
    rw [String.ofList_append, String.utf8ByteSize_append, utf8ByteSize_brackets]
    omega
  have hcut := fromByte?_brackets (Nat.le_refl n) l
  rw [Nat.sub_self, List.replicate_zero, List.nil_append] at hcut
  rw [readFrontAtBytes?, countBrackets?_eq hl (Nat.zero_le n) hfuel, Option.bind_some,
    readFront?_brackets n hl]
  split
  · rfl
  · rw [hcut, Option.bind_some, readElemAtBytes?_eq, Option.map_some, Option.map_map,
      Option.map_map]
    rfl

theorem parseAtBytes?_eq (s : String) : parseAtBytes? s = some (parse? s) := by
  have hread := readFrontAtBytes?_eq s.toList
  rw [String.ofList_toList] at hread
  rw [parseAtBytes?, hread, parse?, Option.map_some]
  cases readFront? s.toList with
  | none => rfl
  | some found =>
    obtain ⟨t, rest⟩ := found
    cases rest with
    | nil => rfl
    | cons c rest => simp [asText]

/-- Reading by byte offsets never asks for a cut that is not there, and gives what reading gives.
What is read writes back to the text and is canonical, so no two texts describe the same type. -/
theorem parse?_text_inverse (s : String) :
    parseAtBytes? s = some (parse? s) ∧
      (∀ t, parse? s = some t ↔ t.text = s ∧ t.Canonical) ∧
      ∀ s' t, parse? s = some t → parse? s' = some t → s' = s := by
  refine ⟨parseAtBytes?_eq s, fun t => parse?_eq_some_iff, ?_⟩
  intro s' t hs hs'
  calc s' = t.text := (parse?_eq_some_iff.1 hs').1.symm
    _ = s := (parse?_eq_some_iff.1 hs).1

theorem parse?_text_inverse_name :
    parse? "[[Lété/文;" = some (array 2 (ref "été/文")) ∧
      parseAtBytes? "[[Lété/文;" = some (some (array 2 (ref "été/文"))) ∧
      (array 2 (ref "été/文")).text = "[[Lété/文;" := by
  have hparse : parse? "[[Lété/文;" = some (array 2 (ref "été/文")) := by decide
  obtain ⟨hbytes, hinverse, -⟩ := parse?_text_inverse "[[Lété/文;"
  rw [hparse] at hbytes
  exact ⟨hparse, hbytes, ((hinverse _).1 hparse).1⟩

end PointsTo.Ty
