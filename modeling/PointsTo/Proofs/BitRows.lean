import Mathlib.Data.List.GetD
import PointsTo.Proofs.FiniteSets

namespace PointsTo

/-- Rows of bits of different lengths. -/
structure BitRows (β : Type) where
  empty : β
  length (r : β) : Nat
  /-- Whether a bit is set. -/
  contains (r : β) (i : Nat) : Bool
  /-- Makes a row at least `n` long. -/
  grow (r : β) (n : Nat) : β
  /-- Sets a bit, which has to be in the row. -/
  enable (r : β) (i : Nat) : β
  /-- The bits that are set. -/
  ones (r : β) : List Nat
  countOnes (r : β) : Nat
  unionWith (r q : β) : β

namespace BitRows

variable {β : Type} (B : BitRows β)

/-- What rows of bits are relied on for. -/
structure Lawful : Prop where
  length_empty : B.length B.empty = 0
  contains_of_length_le {r : β} {i : Nat} (h : B.length r ≤ i) : B.contains r i = false
  length_grow (r : β) (n : Nat) : B.length (B.grow r n) = max (B.length r) n
  contains_grow (r : β) (n i : Nat) : B.contains (B.grow r n) i = B.contains r i
  contains_enable {r : β} {i : Nat} (h : i < B.length r) (j : Nat) :
    B.contains (B.enable r i) j = (decide (j = i) || B.contains r j)
  mem_ones (r : β) (i : Nat) : i ∈ B.ones r ↔ B.contains r i
  ones_increasing (r : β) : (B.ones r).Pairwise (· < ·)
  countOnes_eq (r : β) : B.countOnes r = (List.range (B.length r)).countP (B.contains r)
  contains_unionWith (r q : β) (i : Nat) :
    B.contains (B.unionWith r q) i = (B.contains r i || B.contains q i)

/-- Sets a bit and gives its old value. There is no result outside of the row. -/
def put? (r : β) (i : Nat) : Option (Bool × β) :=
  if i < B.length r then some (B.contains r i, B.enable r i) else none

/-- Adds an object. Says whether it was new. -/
def insert? (r : β) (o : CtxObjId) : Option (Bool × β) :=
  let r := if B.length r ≤ o.index then B.grow r (o.index + 1) else r
  (B.put? r o.index).map fun found => (!found.1, found.2)

def isEmpty (r : β) : Bool := (B.ones r).head?.isNone

/-- Adds to `delta` those bits of a list that `r` does not have. -/
def collect? (r : β) : List Nat → β → Option β
  | [], delta => some delta
  | i :: l, delta =>
    if B.contains r i then collect? r l delta
    else (B.insert? delta ⟨i⟩).bind fun found => collect? r l found.2

/-- Adds the members of `q`, and gives those that were new before the new row. Nothing is changed if
there are none. -/
def absorb? (r q : β) : Option (β × β) :=
  (B.collect? r (B.ones q) B.empty).map fun delta =>
    if B.isEmpty delta then (delta, r)
    else
      let r := if B.length r < B.length q then B.grow r (B.length q) else r
      (delta, B.unionWith r delta)

/-- Sets of objects in rows of bits. -/
def ops : SetOps β where
  empty := B.empty
  singleton o := (B.insert? B.empty o).map Prod.snd
  insert := B.insert?
  absorb := B.absorb?
  contains r o := B.contains r o.index
  isEmpty := B.isEmpty
  size := B.countOnes
  toList r := (B.ones r).map Id.mk

namespace Lawful

variable {B} (h : B.Lawful) {r q : β} {i : Nat} {o : CtxObjId}
include h

theorem mem_members : o ∈ B.ops.members r ↔ B.contains r o.index := by
  rw [← h.mem_ones, SetOps.members, List.mem_toFinset]
  constructor
  · intro ho
    obtain ⟨i, hi, rfl⟩ := List.mem_map.mp ho
    exact hi
  · exact List.mem_map_of_mem

theorem members_eq_iff {s : Finset CtxObjId} :
    B.ops.members r = s ↔ ∀ o, B.contains r o.index ↔ o ∈ s := by
  rw [Finset.ext_iff]
  simp only [h.mem_members]

theorem contains_empty (i : Nat) : B.contains B.empty i = false :=
  h.contains_of_length_le (by rw [h.length_empty]; exact Nat.zero_le i)

theorem isEmpty_iff : B.isEmpty r ↔ ∀ i, B.contains r i = false := by
  rw [isEmpty, Option.isNone_iff_eq_none, List.head?_eq_none_iff, List.eq_nil_iff_forall_not_mem]
  simp only [h.mem_ones, Bool.not_eq_true]

/-- Making a row long enough for a bit changes no bit. -/
theorem lt_length_grow (r : β) (i : Nat) :
    let r' := if B.length r ≤ i then B.grow r (i + 1) else r
    i < B.length r' ∧ ∀ j, B.contains r' j = B.contains r j := by
  intro r'
  by_cases hi : B.length r ≤ i
  · have hr' : r' = B.grow r (i + 1) := if_pos hi
    rw [hr', h.length_grow]
    exact ⟨by omega, h.contains_grow r (i + 1)⟩
  · have hr' : r' = r := if_neg hi
    rw [hr']
    exact ⟨by omega, fun j => rfl⟩

/-- An object can always be added. -/
theorem exists_insert? (r : β) (o : CtxObjId) :
    ∃ r', B.insert? r o = some (!B.contains r o.index, r') ∧
      ∀ j, B.contains r' j = (decide (j = o.index) || B.contains r j) := by
  obtain ⟨hlt, hsame⟩ := h.lt_length_grow r o.index
  let r' := if B.length r ≤ o.index then B.grow r (o.index + 1) else r
  refine ⟨B.enable r' o.index, ?_, fun j => ?_⟩
  · rw [insert?, put?, if_pos hlt, Option.map_some, hsame]
  · rw [h.contains_enable hlt, hsame]

/-- The bits that are collected are those of the list that the row does not have. -/
theorem exists_collect? (r : β) (l : List Nat) (delta : β) :
    ∃ delta', B.collect? r l delta = some delta' ∧ ∀ j, B.contains delta' j ↔
      B.contains delta j ∨ j ∈ l ∧ B.contains r j = false := by
  induction l generalizing delta with
  | nil => exact ⟨delta, rfl, by simp⟩
  | cons i l ih =>
    by_cases hi : B.contains r i
    · obtain ⟨delta', hcollect, hbits⟩ := ih delta
      refine ⟨delta', by rw [collect?, if_pos hi, hcollect], fun j => ?_⟩
      rw [hbits, List.mem_cons]
      refine or_congr_right ⟨fun hj => ⟨.inr hj.1, hj.2⟩, ?_⟩
      rintro ⟨rfl | hj, hn⟩
      · rw [hi] at hn
        cases hn
      · exact ⟨hj, hn⟩
    · obtain ⟨delta₁, hinsert, hbits₁⟩ := h.exists_insert? delta ⟨i⟩
      obtain ⟨delta', hcollect, hbits⟩ := ih delta₁
      refine ⟨delta', ?_, fun j => ?_⟩
      · rw [collect?, if_neg hi, hinsert, Option.bind_some, hcollect]
      · rw [hbits, hbits₁, Bool.or_eq_true, decide_eq_true_iff, List.mem_cons]
        have hnew : j = i → B.contains r j = false := fun hj => hj ▸ Bool.eq_false_of_not_eq_true hi
        tauto

/-- Rows of any two lengths can be put together. -/
theorem exists_absorb? (r q : β) :
    ∃ delta r', B.absorb? r q = some (delta, r') ∧
      (∀ j, B.contains delta j ↔ B.contains q j ∧ B.contains r j = false) ∧
      ∀ j, B.contains r' j ↔ B.contains r j ∨ B.contains q j := by
  obtain ⟨delta, hcollect, hbits⟩ := h.exists_collect? r (B.ones q) B.empty
  have hdelta (j : Nat) : B.contains delta j ↔ B.contains q j ∧ B.contains r j = false := by
    rw [hbits, h.contains_empty, h.mem_ones]
    simp
  by_cases hempty : B.isEmpty delta
  · have habsorb : B.absorb? r q = some (delta, r) := by
      rw [absorb?, hcollect, Option.map_some, if_pos hempty]
    refine ⟨delta, r, habsorb, hdelta, fun j => ?_⟩
    have hj := h.isEmpty_iff.mp hempty j
    rw [← Bool.not_eq_true, hdelta] at hj
    cases hr : B.contains r j <;> simp_all
  · let r' := if B.length r < B.length q then B.grow r (B.length q) else r
    have hsame (j : Nat) : B.contains r' j = B.contains r j := by
      by_cases hlt : B.length r < B.length q
      · have hr' : r' = B.grow r (B.length q) := if_pos hlt
        rw [hr', h.contains_grow]
      · have hr' : r' = r := if_neg hlt
        rw [hr']
    refine ⟨delta, B.unionWith r' delta, ?_, hdelta, fun j => ?_⟩
    · rw [absorb?, hcollect, Option.map_some, if_neg hempty]
    · rw [h.contains_unionWith, hsame, Bool.or_eq_true, hdelta]
      cases hr : B.contains r j <;> simp

theorem countOnes_eq_card (r : β) : B.countOnes r = (B.ops.members r).card := by
  have hones : B.ones r = (List.range (B.length r)).filter (B.contains r) := by
    refine List.Perm.eq_of_pairwise (fun a b _ _ (hab : a < b) (hba : b < a) => ?_) ?_ ?_ ?_
    · omega
    · exact h.ones_increasing r
    · exact List.pairwise_lt_range.filter _
    · rw [List.perm_ext_iff_of_nodup (h.ones_increasing r).nodup (List.nodup_range.filter _)]
      intro i
      rw [h.mem_ones, List.mem_filter, List.mem_range]
      refine ⟨fun hi => ⟨?_, hi⟩, And.right⟩
      by_contra hlt
      rw [h.contains_of_length_le (by omega)] at hi
      cases hi
  have hnodup : ((B.ones r).map (Id.mk (κ := .ctxObj))).Nodup :=
    (h.ones_increasing r).nodup.map fun _ _ hij => Id.mk.inj hij
  calc B.countOnes r
    _ = (B.ones r).length := by rw [h.countOnes_eq, hones, List.countP_eq_length_filter]
    _ = ((B.ones r).map (Id.mk (κ := .ctxObj))).length := (List.length_map _).symm
    _ = (B.ops.members r).card := (List.toFinset_card_of_nodup hnodup).symm

theorem implements_ops : B.ops.Implements where
  empty := by
    rw [h.members_eq_iff]
    intro o
    have ho := h.contains_empty o.index
    simpa [ops] using ho
  singleton o := by
    obtain ⟨r, hinsert, hbits⟩ := h.exists_insert? B.empty o
    refine ⟨r, by simp [ops, hinsert], ?_⟩
    rw [h.members_eq_iff]
    intro o'
    rw [hbits, h.contains_empty, Finset.mem_singleton, Id.ext_iff]
    simp
  insert r o := by
    obtain ⟨r', hinsert, hbits⟩ := h.exists_insert? r o
    refine ⟨r', ?_, ?_⟩
    · change B.insert? r o = _
      rw [hinsert, decide_not]
      simp [h.mem_members]
    · rw [h.members_eq_iff]
      intro o'
      rw [hbits, Finset.mem_insert, h.mem_members, Id.ext_iff]
      simp
  absorb r q := by
    obtain ⟨delta, r', habsorb, hdelta, hunion⟩ := h.exists_absorb? r q
    refine ⟨delta, r', habsorb, ?_, ?_⟩
    · rw [h.members_eq_iff]
      intro o
      rw [hdelta, Finset.mem_sdiff, h.mem_members, h.mem_members, Bool.not_eq_true]
    · rw [h.members_eq_iff]
      intro o
      rw [hunion, Finset.mem_union, h.mem_members, h.mem_members]
  contains r o := h.mem_members.symm
  size := h.countOnes_eq_card
  isEmpty r := by
    change B.isEmpty r ↔ B.countOnes r = 0
    rw [h.countOnes_eq_card, Finset.card_eq_zero, h.isEmpty_iff, h.members_eq_iff]
    constructor
    · intro hr o
      simp [hr]
    · intro hr i
      simpa using hr ⟨i⟩
  increasing r := by
    change ((B.ones r).map Id.mk).Pairwise _
    rw [List.pairwise_map]
    exact h.ones_increasing r

end Lawful

/-- A row as the list of its bits. -/
def lists : BitRows (List Bool) where
  empty := []
  length := List.length
  contains r i := r.getD i false
  grow r n := r ++ List.replicate (n - r.length) false
  enable r i := r.set i true
  ones r := (List.range r.length).filter (r.getD · false)
  countOnes r := r.count true
  unionWith r q :=
    (List.range (max r.length q.length)).map fun i => r.getD i false || q.getD i false

theorem lawful_lists : lists.Lawful where
  length_empty := rfl
  contains_of_length_le {r i} hi := List.getD_eq_default r false hi
  length_grow r n := by
    simp only [lists, List.length_append, List.length_replicate]
    omega
  contains_grow r n i := by
    simp only [lists]
    by_cases hi : i < r.length
    · rw [List.getD_append r _ false i hi]
    · rw [List.getD_append_right r _ false i (by omega), List.getD_eq_default r false (by omega)]
      rw [List.getD_eq_getElem?_getD, List.getElem?_replicate]
      split <;> rfl
  contains_enable {r i} hi j := by
    have hi : i < r.length := hi
    simp only [lists, List.getD_eq_getElem?_getD, List.getElem?_set]
    by_cases hj : i = j
    · simp [hj, hj ▸ hi]
    · simp [hj, Ne.symm hj]
  mem_ones r i := by
    simp only [lists, List.mem_filter, List.mem_range]
    refine ⟨And.right, fun hi => ⟨?_, hi⟩⟩
    by_contra hlt
    rw [List.getD_eq_default r false (by omega)] at hi
    cases hi
  ones_increasing r := List.pairwise_lt_range.filter _
  countOnes_eq r := by
    have hmap : (List.range r.length).map (r.getD · false) = r := by
      apply List.ext_getElem
      · simp
      · intro i _ hi
        simp [hi]
    change r.count true = (List.range r.length).countP (r.getD · false)
    calc r.count true
      _ = ((List.range r.length).map (r.getD · false)).count true := by rw [hmap]
      _ = (List.range r.length).countP (r.getD · false) := by
        rw [List.count, List.countP_map]
        congr 1
        funext i
        simp
  contains_unionWith r q i := by
    simp only [lists]
    by_cases hi : i < max r.length q.length
    · simp [List.getD_eq_getElem?_getD, hi]
    · rw [List.getD_eq_default r false (by omega), List.getD_eq_default q false (by omega)]
      simp [List.getD_eq_getElem?_getD, hi]

end BitRows

/-- Sets of objects are finite sets, and so are sets in rows of bits, whatever the lengths of the
rows: every sequence of calls is answered alike. -/
theorem sets_implement_finite_sets {β : Type} {B : BitRows β} (h : B.Lawful) :
    ObjSet.ops.Implements ∧ B.ops.Implements ∧
    ∀ (calls : List SetCall) (sets : List ObjSet) (rows : List β),
      sets.map ObjSet.ops.members = rows.map B.ops.members →
      ∃ answers sets' rows', ObjSet.ops.run sets calls = some (answers, sets') ∧
        B.ops.run rows calls = some (answers, rows') ∧
        (answers, sets'.map ObjSet.ops.members) =
          SetCall.runFinite (sets.map ObjSet.ops.members) calls ∧
        sets'.map ObjSet.ops.members = rows'.map B.ops.members := by
  have hsets := ObjSet.implements_ops
  have hrows := h.implements_ops
  refine ⟨hsets, hrows, fun calls sets rows hsame => ?_⟩
  obtain ⟨sets', hrun, hmembers⟩ := hsets.run sets calls
  obtain ⟨rows', hrun', hmembers'⟩ := hrows.run rows calls
  rw [← hsame] at hrun' hmembers'
  exact ⟨_, sets', rows', hrun, hrun', Prod.ext rfl hmembers, hmembers.trans hmembers'.symm⟩

/-- Calls on a row of three bits and one of a single bit, with an object beyond both. -/
def mixedCalls : List SetCall :=
  [.singleton ⟨1⟩, .insert 1 ⟨2⟩, .insert 1 ⟨70⟩, .absorb 0 1, .absorb 0 1, .insert 0 ⟨70⟩,
    .absorb 2 0]

theorem sets_implement_finite_sets_mixed :
    BitRows.lists.Lawful ∧
    ∃ rows, BitRows.lists.ops.run [[false, true, false], [false]] mixedCalls =
        some ([none, some true, some true, none, none, some false, none], rows) ∧
      rows.map BitRows.lists.ops.members =
        [{⟨1⟩, ⟨2⟩, ⟨70⟩}, {⟨2⟩, ⟨70⟩}, {⟨1⟩, ⟨2⟩, ⟨70⟩}, {⟨2⟩, ⟨70⟩}, ∅, {⟨2⟩, ⟨70⟩}] := by
  have hsame : [ObjSet.singleton ⟨1⟩, ObjSet.empty].map ObjSet.ops.members =
      [[false, true, false], [false]].map BitRows.lists.ops.members := by decide
  obtain ⟨-, -, hcalls⟩ := sets_implement_finite_sets BitRows.lawful_lists
  obtain ⟨answers, sets, rows, -, hrun, hfinite, hmembers⟩ := hcalls mixedCalls _ _ hsame
  have hvalue : SetCall.runFinite ([ObjSet.singleton ⟨1⟩, ObjSet.empty].map ObjSet.ops.members)
      mixedCalls = ([none, some true, some true, none, none, some false, none],
        [{⟨1⟩, ⟨2⟩, ⟨70⟩}, {⟨2⟩, ⟨70⟩}, {⟨1⟩, ⟨2⟩, ⟨70⟩}, {⟨2⟩, ⟨70⟩}, ∅, {⟨2⟩, ⟨70⟩}]) := by
    decide
  obtain ⟨rfl, hsets⟩ := Prod.ext_iff.mp (hfinite.trans hvalue)
  exact ⟨BitRows.lawful_lists, rows, hrun, hmembers.symm.trans hsets⟩

end PointsTo
