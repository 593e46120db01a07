import Mathlib.Data.List.Induction
import Mathlib.Data.Nat.Digits.Defs
import Mathlib.Data.Option.Basic
import PointsTo.Policy

namespace PointsTo.Policy

/-- The number that a digit stands for. -/
def digitValue (c : Char) : Nat := c.toNat - '0'.toNat

/-- The number that a row of digits stands for, with the ones in the last place. -/
def decimalValue (digits : List Char) : Nat := Nat.ofDigits 10 (digits.reverse.map digitValue)

/-- The number that digits stand for after others with the value `n`. -/
def pushDigits (n : Nat) (digits : List Char) : Nat :=
  digits.foldl (fun n c => n * 10 + (c.toNat - '0'.toNat)) n

theorem pushDigits_cons (n : Nat) (c : Char) (digits : List Char) :
    pushDigits n (c :: digits) = pushDigits (n * 10 + digitValue c) digits := by
  rw [pushDigits, List.foldl_cons, pushDigits, digitValue]

theorem pushDigits_zero (digits : List Char) : pushDigits 0 digits = decimalValue digits := by
  induction digits using List.reverseRecOn with
  | nil => rfl
  | append_singleton digits c ih =>
    have hleft : pushDigits 0 (digits ++ [c]) = pushDigits 0 digits * 10 + digitValue c := by
      rw [pushDigits, List.foldl_append]
      rfl
    have hright : decimalValue (digits ++ [c]) = digitValue c + 10 * decimalValue digits := by
      simp [decimalValue, Nat.ofDigits_cons]
    rw [hleft, hright, ih]
    omega

theorem decimalValue_toDigits (k : Nat) : decimalValue (Nat.toDigits 10 k) = k := by
  have h := Nat.ofDigitChars_toDigits (b := 10) (n := k) (by decide) (by decide)
  rw [← pushDigits_zero]
  simpa only [Nat.ofDigitChars, pushDigits, Nat.mul_comm 10] using h

theorem isDigit_iff {c : Char} : c.isDigit ↔ '0' ≤ c ∧ c ≤ '9' := by
  simp [Char.isDigit, Char.le_def]

theorem digitValue_le {c : Char} (h : c.isDigit) : digitValue c ≤ 9 := by
  have hrange := Char.isDigit_iff_toNat.1 h
  have hzero : '0'.toNat = 48 := rfl
  have hnine : '9'.toNat = 57 := rfl
  rw [digitValue]
  omega

/-- A text without the plus sign that it may start with. -/
def unsigned : List Char → List Char
  | '+' :: rest => rest
  | s => s

theorem parseBound?_eq_some_iff {s : List Char} {k : Nat} :
    parseBound? s = some k ↔ unsigned s ≠ [] ∧ (∀ c ∈ unsigned s, c.isDigit) ∧
      decimalValue (unsigned s) = k ∧ k < UInt64.size := by
  have hdigits (digits : List Char) :
      (do guard (!digits.isEmpty && digits.all Char.isDigit)
          guard (pushDigits 0 digits < UInt64.size)
          return pushDigits 0 digits) = some k ↔
        digits ≠ [] ∧ (∀ c ∈ digits, c.isDigit) ∧ decimalValue digits = k ∧ k < UInt64.size := by
    simp only [← pushDigits_zero, Option.bind_eq_bind, Option.bind_eq_some_iff,
      Option.guard_eq_some', exists_const, Option.pure_def, Option.some.injEq, Bool.and_eq_true,
      Bool.not_eq_true', List.isEmpty_eq_false_iff, List.all_eq_true]
    constructor
    · intro h
      obtain ⟨⟨hne, hall⟩, hlt, rfl⟩ := h
      exact ⟨hne, hall, rfl, hlt⟩
    · intro h
      obtain ⟨hne, hall, rfl, hlt⟩ := h
      exact ⟨⟨hne, hall⟩, hlt, rfl⟩
  rw [← hdigits]
  fun_cases unsigned s with
  | case1 rest => rfl
  | case2 s hplus =>
    rw [parseBound?]
    · rfl
    · exact hplus

/-- The product, unless it has more than 64 bits. -/
def checkedMul (a b : UInt64) : Option UInt64 :=
  if a.toNat * b.toNat < UInt64.size then some (a * b) else none

/-- The sum, unless it has more than 64 bits. -/
def checkedAdd (a b : UInt64) : Option UInt64 :=
  if a.toNat + b.toNat < UInt64.size then some (a + b) else none

/-- The value after one more digit, in words of 64 bits. -/
def pushDigit? (n : UInt64) (c : Char) : Option UInt64 :=
  if c.isDigit then (checkedMul n 10).bind (checkedAdd · (.ofNat (digitValue c))) else none

/-- Reads a bound digit by digit in words of 64 bits. -/
def readWord? (s : List Char) : Option UInt64 :=
  if unsigned s = [] then none else (unsigned s).foldlM pushDigit? 0

theorem checkedMul_eq_some {a b m : UInt64} :
    checkedMul a b = some m ↔ a.toNat * b.toNat = m.toNat := by
  rw [checkedMul]
  split
  · next hlt =>
    rw [Option.some.injEq, ← UInt64.toNat_inj, UInt64.toNat_mul, Nat.mod_eq_of_lt hlt]
  · next hge =>
    have hm := m.toNat_lt_size
    simp only [reduceCtorEq, false_iff]
    omega

theorem checkedAdd_eq_some {a b m : UInt64} :
    checkedAdd a b = some m ↔ a.toNat + b.toNat = m.toNat := by
  rw [checkedAdd]
  split
  · next hlt =>
    rw [Option.some.injEq, ← UInt64.toNat_inj, UInt64.toNat_add, Nat.mod_eq_of_lt hlt]
  · next hge =>
    have hm := m.toNat_lt_size
    simp only [reduceCtorEq, false_iff]
    omega

theorem pushDigit?_eq_some {n m : UInt64} {c : Char} :
    pushDigit? n c = some m ↔ c.isDigit ∧ n.toNat * 10 + digitValue c = m.toNat := by
  rw [pushDigit?]
  split
  · next hc =>
    have hle := digitValue_le hc
    have hten : (10 : UInt64).toNat = 10 := rfl
    have hdigit : (UInt64.ofNat (digitValue c)).toNat = digitValue c :=
      UInt64.toNat_ofNat_of_lt' (Nat.lt_of_le_of_lt hle (by decide))
    simp only [Option.bind_eq_some_iff, checkedMul_eq_some, checkedAdd_eq_some, hten, hdigit, hc,
      true_and]
    constructor
    · intro h
      obtain ⟨w, hw, hm⟩ := h
      omega
    · intro h
      have hm := m.toNat_lt_size
      have hw : (UInt64.ofNat (n.toNat * 10)).toNat = n.toNat * 10 :=
        UInt64.toNat_ofNat_of_lt' (by omega)
      exact ⟨.ofNat (n.toNat * 10), hw.symm, by omega⟩
  · next hc => simp [hc]

theorem le_pushDigits (n : Nat) (digits : List Char) : n ≤ pushDigits n digits := by
  induction digits generalizing n with
  | nil => exact Nat.le_refl n
  | cons c digits ih =>
    calc
      n ≤ n * 10 + digitValue c := by omega
      _ ≤ pushDigits n (c :: digits) := ih _

theorem foldlM_pushDigit?_eq_some {n m : UInt64} {digits : List Char} :
    digits.foldlM pushDigit? n = some m ↔
      (∀ c ∈ digits, c.isDigit) ∧ pushDigits n.toNat digits = m.toNat := by
  induction digits generalizing n with
  | nil => simp [pushDigits, UInt64.toNat_inj]
  | cons c digits ih =>
    simp only [List.foldlM_cons, Option.bind_eq_bind, Option.bind_eq_some_iff, pushDigit?_eq_some,
      ih, pushDigits_cons, List.forall_mem_cons]
    constructor
    · intro h
      obtain ⟨w, ⟨hc, hw⟩, hall, hm⟩ := h
      rw [← hw] at hm
      exact ⟨⟨hc, hall⟩, hm⟩
    · intro h
      obtain ⟨⟨hc, hall⟩, hm⟩ := h
      have hle := le_pushDigits (n.toNat * 10 + digitValue c) digits
      have hlt := m.toNat_lt_size
      have hw : (UInt64.ofNat (n.toNat * 10 + digitValue c)).toNat = n.toNat * 10 + digitValue c :=
        UInt64.toNat_ofNat_of_lt' (by omega)
      exact ⟨.ofNat (n.toNat * 10 + digitValue c), ⟨hc, hw.symm⟩, hall, by rw [hw, hm]⟩

/-- Reading in words of 64 bits gives up exactly where the number as a whole is too large. -/
theorem parseBound?_eq_readWord? (s : List Char) :
    parseBound? s = (readWord? s).map UInt64.toNat := by
  ext k
  simp only [parseBound?_eq_some_iff, Option.map_eq_some_iff, readWord?]
  by_cases hnil : unsigned s = []
  · simp [hnil]
  · simp only [hnil, if_false, foldlM_pushDigit?_eq_some, ne_eq, not_false_eq_true, true_and,
      ← pushDigits_zero]
    constructor
    · intro h
      obtain ⟨hall, hk, hlt⟩ := h
      have hw : (UInt64.ofNat k).toNat = k := UInt64.toNat_ofNat_of_lt' hlt
      exact ⟨.ofNat k, ⟨hall, by rw [hw]; exact hk⟩, hw⟩
    · intro h
      obtain ⟨w, ⟨hall, hw⟩, rfl⟩ := h
      exact ⟨hall, hw, w.toNat_lt_size⟩

/-- A text for a bound: a plus sign or none and one or more decimal digits, whose number is greater
than zero and has no more than 64 bits. -/
def SpellsBound (s : String) (k : Nat) : Prop :=
  ∃ sign digits, s = sign ++ digits ∧ (sign = "" ∨ sign = "+") ∧ digits ≠ "" ∧
    (∀ c ∈ digits.toList, '0' ≤ c ∧ c ≤ '9') ∧ decimalValue digits.toList = k ∧
    1 ≤ k ∧ k ≤ 2 ^ 64 - 1

/-- The texts for a policy. -/
inductive Spells : String → Policy → Prop
  | insensitive : Spells "ci" .insensitive
  | callSite {s k} (h : SpellsBound s k) : Spells (s ++ "-call") (.callSite k)
  | object {s k} (h : SpellsBound s k) : Spells (s ++ "-obj") (.object k)
  | type {s k} (h : SpellsBound s k) : Spells (s ++ "-type") (.type k)

theorem eq_unsigned (s : List Char) : s = unsigned s ∨ s = '+' :: unsigned s := by
  fun_cases unsigned s with
  | case1 rest => exact .inr rfl
  | case2 => exact .inl rfl

theorem unsigned_eq_of_isDigit {digits : List Char} (h : ∀ c ∈ digits, c.isDigit) :
    unsigned digits = digits := by
  fun_cases unsigned digits with
  | case1 rest =>
    have hplus : '+'.isDigit := h '+' List.mem_cons_self
    exact absurd hplus (by decide)
  | case2 => rfl

theorem spellsBound_iff {s : String} {k : Nat} :
    SpellsBound s k ↔ parseBound? s.toList = some k ∧ k ≠ 0 := by
  have hsize : UInt64.size = 2 ^ 64 := rfl
  rw [parseBound?_eq_some_iff, hsize]
  constructor
  · intro h
    obtain ⟨sign, digits, rfl, hsign, hne, hall, hvalue, hpos, hle⟩ := h
    have hdigit : ∀ c ∈ digits.toList, c.isDigit := fun c hc => isDigit_iff.2 (hall c hc)
    have hunsigned : unsigned (sign ++ digits).toList = digits.toList := by
      rw [String.toList_append]
      obtain rfl | rfl := hsign
      · exact unsigned_eq_of_isDigit hdigit
      · rfl
    rw [hunsigned]
    exact ⟨⟨by simpa using hne, hdigit, hvalue, by omega⟩, by omega⟩
  · intro h
    obtain ⟨⟨hne, hdigit, hvalue, hlt⟩, hpos⟩ := h
    have hsplit : ∃ sign, (sign = "" ∨ sign = "+") ∧
        s = sign ++ String.ofList (unsigned s.toList) := by
      obtain hs | hs := eq_unsigned s.toList
      · refine ⟨"", .inl rfl, ?_⟩
        rw [← hs, String.ofList_toList, String.empty_append]
      · refine ⟨"+", .inr rfl, ?_⟩
        rw [← String.toList_inj, String.toList_append,
          String.toList_ofList (l := unsigned s.toList)]
        exact hs
    obtain ⟨sign, hsign, hs⟩ := hsplit
    refine ⟨sign, String.ofList (unsigned s.toList), hs, hsign, ?_, ?_, ?_, by omega, by omega⟩
    · simpa using hne
    · intro c hc
      rw [String.toList_ofList] at hc
      exact isDigit_iff.1 (hdigit c hc)
    · rwa [String.toList_ofList]

/-- The policy with a given bound and the kind that a spelling ends with. -/
def ofKind? (k : Nat) (kind : String) : Option Policy :=
  match kind with
  | "call" => some (callSite k)
  | "obj" => some (object k)
  | "type" => some (type k)
  | _ => none

theorem ofKind?_eq_some {k : Nat} {kind : String} {π : Policy} (h : ofKind? k kind = some π) :
    kind = "call" ∧ π = callSite k ∨ kind = "obj" ∧ π = object k ∨
      kind = "type" ∧ π = type k := by
  unfold ofKind? at h
  split at h
  · cases h
    exact .inl ⟨rfl, rfl⟩
  · cases h
    exact .inr (.inl ⟨rfl, rfl⟩)
  · cases h
    exact .inr (.inr ⟨rfl, rfl⟩)
  · cases h

/-- The parts of a text that is read as a policy with a bound. -/
theorem parse?_eq_some {s : String} {π : Policy} (hs : s ≠ "ci") :
    parse? s = some π ↔ ∃ b kind k, Text.splitFirst '-' s.toList = some (b, kind) ∧
      SpellsBound (String.ofList b) k ∧ ofKind? k (String.ofList kind) = some π := by
  simp only [parse?, if_neg hs, Option.bind_eq_bind, Option.bind_eq_some_iff,
    Option.guard_eq_some', exists_const, spellsBound_iff, String.toList_ofList]
  constructor
  · intro h
    obtain ⟨⟨b, kind⟩, hsplit, k, hk, hpos, hπ⟩ := h
    exact ⟨b, kind, k, hsplit, ⟨hk, hpos⟩, hπ⟩
  · intro h
    obtain ⟨b, kind, k, hsplit, ⟨hk, hpos⟩, hπ⟩ := h
    exact ⟨(b, kind), hsplit, k, hk, hpos, hπ⟩

theorem dash_notMem_of_spellsBound {s : String} {k : Nat} (h : SpellsBound s k) :
    '-' ∉ s.toList := by
  obtain ⟨sign, digits, rfl, hsign, -, hall, -⟩ := h
  rw [String.toList_append, List.mem_append]
  rintro (hdash | hdash)
  · obtain rfl | rfl := hsign
    · exact absurd hdash (by decide)
    · exact absurd hdash (by decide)
  · exact absurd (hall '-' hdash) (by decide)

/-- A bound, a dash and a kind are read as they are written. -/
theorem parse?_append {s : String} {k : Nat} (h : SpellsBound s k) (kind : String) {π : Policy}
    (hkind : ofKind? k kind = some π) : parse? (s ++ ("-" ++ kind)) = some π := by
  have hlist : (s ++ ("-" ++ kind)).toList = s.toList ++ '-' :: kind.toList := by simp
  have hne : s ++ ("-" ++ kind) ≠ "ci" := by
    intro hci
    have hdash : '-' ∈ "ci".toList := by
      rw [← hci, hlist]
      exact List.mem_append_right s.toList List.mem_cons_self
    exact absurd hdash (by decide)
  apply (parse?_eq_some hne).2
  refine ⟨s.toList, kind.toList, k, ?_, ?_, ?_⟩
  · rw [hlist]
    exact Text.splitFirst_append kind.toList (dash_notMem_of_spellsBound h)
  · rwa [String.ofList_toList]
  · rwa [String.ofList_toList]

theorem parse?_eq_some_iff {s : String} {π : Policy} : parse? s = some π ↔ Spells s π := by
  constructor
  · intro h
    by_cases hs : s = "ci"
    · subst hs
      cases h
      exact .insensitive
    · obtain ⟨b, kind, k, hsplit, hbound, hkind⟩ := (parse?_eq_some hs).1 h
      obtain ⟨hparts, -⟩ := Text.splitFirst_eq_some hsplit
      have hs' : s = String.ofList b ++ ("-" ++ String.ofList kind) := by
        rw [← String.toList_inj, hparts]
        simp
      obtain ⟨hk, rfl⟩ | ⟨hk, rfl⟩ | ⟨hk, rfl⟩ := ofKind?_eq_some hkind
      · rw [hs', hk]
        exact .callSite hbound
      · rw [hs', hk]
        exact .object hbound
      · rw [hs', hk]
        exact .type hbound
  · intro h
    cases h with
    | insensitive => rfl
    | callSite hbound => exact parse?_append hbound "call" rfl
    | object hbound => exact parse?_append hbound "obj" rfl
    | type hbound => exact parse?_append hbound "type" rfl

theorem parse_eq_ok_iff {s : String} {π : Policy} : parse s = .ok π ↔ Spells s π := by
  rw [← parse?_eq_some_iff, parse]
  cases parse? s with
  | none => simp
  | some π' => simp

theorem spellsBound_toString {k : Nat} (hpos : 1 ≤ k) (hle : k ≤ 2 ^ 64 - 1) :
    SpellsBound (toString k) k := by
  have hlist : (toString k).toList = Nat.toDigits 10 k := Nat.toList_repr
  refine ⟨"", toString k, by simp, .inl rfl, ?_, ?_, ?_, hpos, hle⟩
  · rw [ne_eq, ← String.toList_inj, hlist]
    exact Nat.toDigits_ne_nil
  · intro c hc
    rw [hlist] at hc
    exact isDigit_iff.1 (Nat.isDigit_of_mem_toDigits (by decide) (by decide) hc)
  · rw [hlist, decimalValue_toDigits]

theorem SpellsBound.bounds {s : String} {k : Nat} (h : SpellsBound s k) :
    1 ≤ k ∧ k ≤ 2 ^ 64 - 1 := by
  obtain ⟨-, -, -, -, -, -, -, hpos, hle⟩ := h
  exact ⟨hpos, hle⟩

/-- The policies that a text can give. -/
def IsSpelled : Policy → Prop
  | insensitive => True
  | callSite k | object k | type k => 1 ≤ k ∧ k ≤ 2 ^ 64 - 1

theorem Spells.isSpelled {s : String} {π : Policy} (h : Spells s π) : π.IsSpelled := by
  cases h with
  | insensitive => trivial
  | callSite hbound | object hbound | type hbound => exact hbound.bounds

theorem IsSpelled.spells_text {π : Policy} (h : π.IsSpelled) : Spells π.text π := by
  cases π with
  | insensitive => exact .insensitive
  | callSite k => exact .callSite (spellsBound_toString h.1 h.2)
  | object k => exact .object (spellsBound_toString h.1 h.2)
  | type k => exact .type (spellsBound_toString h.1 h.2)

/-- Reading a policy accepts its spellings and nothing else, and it reads back what is written for
any policy that can be read at all. -/
theorem parse_text_exact :
    (∀ s π, parse s = .ok π ↔ Spells s π) ∧
    (∀ π, parse π.text = .ok π ↔ π.IsSpelled) ∧
    (∀ s, ((parse s).bind fun π => parse π.text) = parse s) ∧
    ∀ s, parseBound? s = (readWord? s).map UInt64.toNat := by
  have htext (π : Policy) : parse π.text = .ok π ↔ π.IsSpelled := by
    rw [parse_eq_ok_iff]
    exact ⟨Spells.isSpelled, IsSpelled.spells_text⟩
  refine ⟨fun s π => parse_eq_ok_iff, htext, ?_, parseBound?_eq_readWord?⟩
  intro s
  cases hs : parse s with
  | error e => rfl
  | ok π => exact (htext π).2 (parse_eq_ok_iff.1 hs).isSpelled

example : parse? "+007-obj" = some (.object 7) := by decide +kernel

example : parse? "18446744073709551616-call" = none := by decide +kernel

end PointsTo.Policy
