import Mathlib.Data.Option.Basic
import PointsTo.Machine
import PointsTo.Proofs.Descriptors
import PointsTo.Signature

namespace PointsTo

namespace Ty

/-- The character `c` is in no class name of the type. -/
def NamesAvoid (c : Char) : Ty → Prop
  | ref name => c ∉ name.toList
  | array _ elem => elem.NamesAvoid c
  | void | prim _ => True

/-- A closing parenthesis in a descriptor is in a class name. -/
theorem close_notMem_chars_iff (t : Ty) : ')' ∉ t.chars ↔ t.NamesAvoid ')' := by
  induction t with
  | void => simp [chars, NamesAvoid]
  | prim p => cases p <;> simp [chars, NamesAvoid, Prim.letter]
  | ref name => simp [chars, NamesAvoid]
  | array dims elem ih =>
    rw [NamesAvoid, ← ih]
    simp [chars]

theorem chars_ne_nil (t : Ty) : t.chars ≠ [] := by
  induction t with
  | void | prim | ref => simp [chars]
  | array dims elem ih =>
    intro h
    exact ih (List.append_eq_nil_iff.1 h).2

/-- Each descriptor takes at least one character. -/
theorem length_lt_of_readFront? {s rest : List Char} {t : Ty}
    (h : readFront? s = some (t, rest)) : rest.length < s.length := by
  obtain ⟨rfl, -⟩ := readFront?_eq_some h
  have hpos := List.length_pos_iff.2 (chars_ne_nil t)
  rw [List.length_append]
  omega

/-- Any fuel that reaches the length of the text is enough. -/
theorem readAllWithin_congr {s : List Char} {m n : Nat} (hm : s.length ≤ m) (hn : s.length ≤ n) :
    readAllWithin m s = readAllWithin n s := by
  induction m generalizing s n with
  | zero =>
    obtain rfl : s = [] := List.eq_nil_of_length_eq_zero (by omega)
    simp only [readAllWithin]
  | succ m ih =>
    cases s with
    | nil => simp only [readAllWithin]
    | cons c s =>
      obtain ⟨n, rfl⟩ := Nat.exists_eq_add_of_le' (Nat.lt_of_lt_of_le (Nat.succ_pos _) hn)
      simp only [readAllWithin]
      cases hfront : readFront? (c :: s) with
      | none => rfl
      | some found =>
        obtain ⟨t, rest⟩ := found
        have hlt := length_lt_of_readFront? hfront
        dsimp only
        rw [ih (n := n) (by omega) (by omega)]

/-- Reading goes on with what the first descriptor leaves. -/
theorem readAll?_cons (c : Char) (s : List Char) :
    readAll? (c :: s) =
      (readFront? (c :: s)).bind fun found => (readAll? found.2).map (found.1 :: ·) := by
  rw [readAll?, List.length_cons]
  simp only [readAllWithin]
  cases hfront : readFront? (c :: s) with
  | none => rfl
  | some found =>
    obtain ⟨t, rest⟩ := found
    have hlt := length_lt_of_readFront? hfront
    rw [List.length_cons] at hlt
    dsimp only [Option.bind_some]
    rw [readAll?, readAllWithin_congr (n := rest.length) (by omega) (Nat.le_refl _)]

theorem readAll?_flatMap {ts : List Ty} (h : ∀ t ∈ ts, t.Canonical) :
    readAll? (ts.flatMap chars) = some ts := by
  induction ts with
  | nil => rfl
  | cons t ts ih =>
    obtain ⟨c, s, hs⟩ := List.exists_cons_of_ne_nil (chars_ne_nil t)
    have hfront := (h t List.mem_cons_self).readFront?_append (ts.flatMap chars)
    have hrest := ih fun t' ht' => h t' (List.mem_cons_of_mem t ht')
    rw [hs, List.cons_append] at hfront
    rw [List.flatMap_cons, hs, List.cons_append, readAll?_cons, hfront, Option.bind_some, hrest]
    rfl

theorem eq_flatMap_of_readAllWithin {fuel : Nat} {s : List Char} {ts : List Ty}
    (h : readAllWithin fuel s = some ts) : s = ts.flatMap chars ∧ ∀ t ∈ ts, t.Canonical := by
  induction fuel generalizing s ts with
  | zero =>
    cases s with
    | nil =>
      obtain rfl : [] = ts := by simpa [readAllWithin] using h
      simp
    | cons c s => simp [readAllWithin] at h
  | succ fuel ih =>
    cases s with
    | nil =>
      obtain rfl : [] = ts := by simpa [readAllWithin] using h
      simp
    | cons c s =>
      simp only [readAllWithin] at h
      cases hfront : readFront? (c :: s) with
      | none => simp [hfront] at h
      | some found =>
        obtain ⟨t, rest⟩ := found
        simp only [hfront, Option.map_eq_some_iff] at h
        obtain ⟨ts, hrest, rfl⟩ := h
        obtain ⟨hs, ht⟩ := readFront?_eq_some hfront
        obtain ⟨rfl, hts⟩ := ih hrest
        refine ⟨by rw [hs, List.flatMap_cons], ?_⟩
        simpa using ⟨ht, hts⟩

/-- A text is a sequence of descriptors in one way at most. -/
theorem readAll?_eq_some_iff {s : List Char} {ts : List Ty} :
    readAll? s = some ts ↔ s = ts.flatMap chars ∧ ∀ t ∈ ts, t.Canonical := by
  constructor
  · exact eq_flatMap_of_readAllWithin
  · intro h
    obtain ⟨rfl, hts⟩ := h
    exact readAll?_flatMap hts

/-- The canonical types are those that their own descriptor gives back. -/
theorem parse?_text_self_iff {t : Ty} : parse? t.text = some t ↔ t.Canonical := by
  rw [parse?_eq_some_iff]
  exact and_iff_right rfl

end Ty

/-- A machine comes to a halt with a result, however many steps it takes. -/
inductive Step.Halts {σ ρ : Type} (step : σ → Step σ ρ) : σ → ρ → Prop
  | stop {s r} (h : step s = .halt r) : Halts step s r
  | go {s s' r} (h : step s = .next s') (hr : Halts step s' r) : Halts step s r

namespace Signature

/-- One turn of a loop that reads parameters: the types read so far, and the text that is left. The
loop gives up at a text that starts with no descriptor, and at `void`. -/
def paramStep : List Ty × List Char → Step (List Ty × List Char) (Option (List Ty))
  | (read, []) => .halt (some read)
  | (read, c :: s) =>
    match Ty.readFront? (c :: s) with
    | none => .halt none
    | some (t, rest) => if t = .void then .halt none else .next (read ++ [t], rest)

/-- What a text says as a list of parameters. -/
def readParams? (s : List Char) : Option (List Ty) :=
  (Ty.readAll? s).filter (·.all (· ≠ .void))

theorem readParams?_cons (c : Char) (s : List Char) :
    readParams? (c :: s) = (Ty.readFront? (c :: s)).bind fun found =>
      if found.1 = .void then none else (readParams? found.2).map (found.1 :: ·) := by
  rw [readParams?, Ty.readAll?_cons]
  cases Ty.readFront? (c :: s) with
  | none => rfl
  | some found =>
    dsimp only [Option.bind_some]
    rw [readParams?]
    cases Ty.readAll? found.2 with
    | none => simp
    | some ts => by_cases hvoid : found.1 = .void <;> simp [hvoid, Option.filter]

/-- The loop comes to an end on every text, with what it has read and what the rest of the text
says. -/
theorem halts_paramStep (read : List Ty) (s : List Char) :
    Step.Halts paramStep (read, s) ((readParams? s).map (read ++ ·)) := by
  induction hn : s.length using Nat.strong_induction_on generalizing s read with
  | _ n ih =>
    cases s with
    | nil =>
      have hnil : (readParams? []).map (read ++ ·) = some read := by
        simp [readParams?, Ty.readAll?, Ty.readAllWithin]
      rw [hnil]
      exact .stop rfl
    | cons c s =>
      rw [readParams?_cons]
      cases hfront : Ty.readFront? (c :: s) with
      | none => exact .stop (by rw [paramStep, hfront]; rfl)
      | some found =>
        obtain ⟨t, rest⟩ := found
        by_cases hvoid : t = .void
        · have hstop : paramStep (read, c :: s) = .halt none := by
            rw [paramStep, hfront]
            simp [hvoid]
          simpa [hvoid] using Step.Halts.stop hstop
        · have hgo : paramStep (read, c :: s) = .next (read ++ [t], rest) := by
            rw [paramStep, hfront]
            simp [hvoid]
          have hlt := Ty.length_lt_of_readFront? hfront
          have hrest := ih rest.length (by omega) (read ++ [t]) rest rfl
          refine .go hgo ?_
          simpa [hvoid, Option.map_map, Function.comp_def] using hrest

/-- What lets a signature be read back from its text: the name ends where it should, the parameters
do, and each type is one that its own descriptor gives back. -/
structure Readable (g : Signature) : Prop where
  name_nonempty : g.name ≠ ""
  name_open : '(' ∉ g.name.toList
  params_void : ∀ t ∈ g.params, t ≠ .void
  params_close : ∀ t ∈ g.params, t.NamesAvoid ')'
  params_parse : ∀ t ∈ g.params, Ty.parse? t.text = some t
  ret_parse : Ty.parse? g.ret.text = some g.ret

theorem toList_text (g : Signature) :
    g.text.toList = g.name.toList ++ '(' :: (g.params.flatMap Ty.chars ++ ')' :: g.ret.chars) := by
  simp [text, Ty.text, List.flatMap_map]

/-- The parts of a text that is read as a signature. -/
theorem parse?_eq_some {s : String} {g : Signature} :
    parse? s = some g ↔ ∃ name proto params ret,
      Text.splitFirst '(' s.toList = some (name, proto) ∧
      Text.splitFirst ')' proto = some (params, ret) ∧ name ≠ [] ∧
      readParams? params = some g.params ∧
      Ty.parse? (String.ofList ret) = some g.ret ∧ String.ofList name = g.name := by
  obtain ⟨gname, gparams, gret⟩ := g
  simp only [parse?, Option.bind_eq_bind, Option.bind_eq_some_iff, Option.guard_eq_some',
    exists_const, Option.pure_def, Option.some.injEq, mk.injEq, readParams?,
    Option.filter_eq_some_iff]
  constructor
  · intro h
    obtain ⟨⟨name, proto⟩, hname, ⟨params, ret⟩, hparams, hne, ts, hts, hvoid, t, ht, heq⟩ := h
    obtain ⟨rfl, rfl, rfl⟩ := heq
    exact ⟨name, proto, params, ret, hname, hparams, by simpa using hne, ⟨hts, hvoid⟩, ht, rfl⟩
  · intro h
    obtain ⟨name, proto, params, ret, hname, hparams, hne, ⟨hts, hvoid⟩, ht, rfl⟩ := h
    exact ⟨(name, proto), hname, (params, ret), hparams, by simpa using hne, gparams, hts, hvoid,
      gret, ht, rfl, rfl, rfl⟩

theorem readParams?_eq_some_iff {s : List Char} {ts : List Ty} :
    readParams? s = some ts ↔
      s = ts.flatMap Ty.chars ∧ (∀ t ∈ ts, t.Canonical) ∧ ∀ t ∈ ts, t ≠ .void := by
  rw [readParams?, Option.filter_eq_some_iff, Ty.readAll?_eq_some_iff, and_assoc]
  simp

/-- A list of parameters has no closing parenthesis exactly when none of its class names has. -/
theorem close_notMem_flatMap_iff (ts : List Ty) :
    ')' ∉ ts.flatMap Ty.chars ↔ ∀ t ∈ ts, t.NamesAvoid ')' := by
  simp only [List.mem_flatMap, not_exists, not_and, ← Ty.close_notMem_chars_iff]

theorem readable_of_parse? {s : String} {g : Signature} (h : parse? s = some g) :
    g.text = s ∧ g.Readable := by
  obtain ⟨name, proto, params, ret, hname, hparams, hne, hread, hret, hg⟩ := parse?_eq_some.1 h
  obtain ⟨hs, hopen⟩ := Text.splitFirst_eq_some hname
  obtain ⟨rfl, hclose⟩ := Text.splitFirst_eq_some hparams
  obtain ⟨rfl, hcanonical, hvoid⟩ := readParams?_eq_some_iff.1 hread
  obtain ⟨hrettext, hretcanonical⟩ := Ty.parse?_eq_some_iff.1 hret
  have hgname : g.name.toList = name := by rw [← hg, String.toList_ofList]
  constructor
  · rw [← String.toList_inj, toList_text, hgname, Ty.text_eq_iff.1 hrettext, String.toList_ofList,
      hs]
  · refine ⟨?_, ?_, hvoid, ?_, ?_, ?_⟩
    · intro hempty
      apply hne
      rw [← hgname, hempty]
      rfl
    · rwa [hgname]
    · exact (close_notMem_flatMap_iff g.params).1 hclose
    · intro t ht
      exact Ty.parse?_text_self_iff.2 (hcanonical t ht)
    · exact Ty.parse?_text_self_iff.2 hretcanonical

theorem Readable.parse?_text {g : Signature} (h : g.Readable) : parse? g.text = some g := by
  have hcanonical : ∀ t ∈ g.params, t.Canonical := by
    intro t ht
    exact Ty.parse?_text_self_iff.1 (h.params_parse t ht)
  have hclose : ')' ∉ g.params.flatMap Ty.chars :=
    (close_notMem_flatMap_iff g.params).2 h.params_close
  apply parse?_eq_some.2
  refine ⟨g.name.toList, g.params.flatMap Ty.chars ++ ')' :: g.ret.chars,
    g.params.flatMap Ty.chars, g.ret.chars, ?_, ?_, ?_, ?_, ?_, ?_⟩
  · rw [toList_text]
    exact Text.splitFirst_append _ h.name_open
  · exact Text.splitFirst_append _ hclose
  · simpa using h.name_nonempty
  · exact readParams?_eq_some_iff.2 ⟨rfl, hcanonical, h.params_void⟩
  · exact h.ret_parse
  · exact String.ofList_toList

/-- Reading accepts exactly the texts of the readable signatures, and gives the signature that was
written. Its loop over the parameters comes to an end on every text. -/
theorem parse?_text_exact :
    (∀ s g, parse? s = some g ↔ g.text = s ∧ g.Readable) ∧
      ∀ s, Step.Halts paramStep ([], s) (readParams? s) := by
  constructor
  · intro s g
    constructor
    · exact readable_of_parse?
    · intro h
      obtain ⟨rfl, hreadable⟩ := h
      exact hreadable.parse?_text
  · intro s
    have h := halts_paramStep [] s
    simpa using h

example : parse? "put(ILA;[J)V" =
    some ⟨"put", [.prim .int, .ref "A", .array 1 (.prim .long)], .void⟩ := by
  decide +kernel

/-- The text of a parameter with a parenthesis in its name is cut too early. -/
example : parse? (text ⟨"f", [.ref "A)B"], .void⟩) = none := by decide +kernel

end Signature

end PointsTo
