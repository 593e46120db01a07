import Mathlib.Data.Finset.Card
import PointsTo.Proofs.Interning

namespace PointsTo

/-- A representation of sets of objects. An operation that makes a set can fail. -/
structure SetOps (σ : Type) where
  empty : σ
  singleton (o : CtxObjId) : Option σ
  /-- Adds an object. Says whether it was new. -/
  insert (s : σ) (o : CtxObjId) : Option (Bool × σ)
  /-- Adds the members of `t`, and gives those that were new before the new set. -/
  absorb (s t : σ) : Option (σ × σ)
  contains (s : σ) (o : CtxObjId) : Bool
  isEmpty (s : σ) : Bool
  size (s : σ) : Nat
  toList (s : σ) : List CtxObjId

/-- A call that makes a set or changes one, where sets are known by their places in a pool. -/
inductive SetCall where
  | new
  | singleton (o : CtxObjId)
  | insert (i : Nat) (o : CtxObjId)
  | absorb (i j : Nat)

namespace SetCall

/-- What a call says about finite sets, and what becomes of them. New sets are put at the end, and
nothing is done for a place without a set. -/
def onFinite (pool : List (Finset CtxObjId)) :
    SetCall → Option Bool × List (Finset CtxObjId)
  | new => (none, pool ++ [∅])
  | singleton o => (none, pool ++ [{o}])
  | insert i o =>
    match pool[i]? with
    | some s => (some (decide (o ∉ s)), pool.set i (Insert.insert o s))
    | none => (none, pool)
  | absorb i j =>
    match pool[i]?, pool[j]? with
    | some s, some t => (none, pool.set i (s ∪ t) ++ [t \ s])
    | _, _ => (none, pool)

/-- The answers to calls on finite sets, and the sets after them. -/
def runFinite (pool : List (Finset CtxObjId)) :
    List SetCall → List (Option Bool) × List (Finset CtxObjId)
  | [] => ([], pool)
  | c :: calls =>
    let r := c.onFinite pool
    let rest := runFinite r.2 calls
    (r.1 :: rest.1, rest.2)

end SetCall

namespace SetOps

variable {σ : Type} (S : SetOps σ)

/-- The members of a set, as a finite set. -/
def members (s : σ) : Finset CtxObjId := (S.toList s).toFinset

/-- The calls on a pool of represented sets. -/
def call (pool : List σ) : SetCall → Option (Option Bool × List σ)
  | .new => some (none, pool ++ [S.empty])
  | .singleton o => (S.singleton o).map fun s => (none, pool ++ [s])
  | .insert i o =>
    match pool[i]? with
    | some s => (S.insert s o).map fun r => (some r.1, pool.set i r.2)
    | none => some (none, pool)
  | .absorb i j =>
    match pool[i]?, pool[j]? with
    | some s, some t => (S.absorb s t).map fun r => (none, pool.set i r.2 ++ [r.1])
    | _, _ => some (none, pool)

def run (pool : List σ) : List SetCall → Option (List (Option Bool) × List σ)
  | [] => some ([], pool)
  | c :: calls =>
    (S.call pool c).bind fun r => (run r.2 calls).map fun rest => (r.1 :: rest.1, rest.2)

/-- No operation fails, and each does to the members what it says. The members are listed in
increasing order, so each of them once. -/
structure Implements : Prop where
  empty : S.members S.empty = ∅
  singleton (o : CtxObjId) : ∃ s, S.singleton o = some s ∧ S.members s = {o}
  insert (s : σ) (o : CtxObjId) : ∃ s', S.insert s o = some (decide (o ∉ S.members s), s') ∧
    S.members s' = Insert.insert o (S.members s)
  absorb (s t : σ) : ∃ delta u, S.absorb s t = some (delta, u) ∧
    S.members delta = S.members t \ S.members s ∧ S.members u = S.members s ∪ S.members t
  contains (s : σ) (o : CtxObjId) : S.contains s o ↔ o ∈ S.members s
  size (s : σ) : S.size s = (S.members s).card
  isEmpty (s : σ) : S.isEmpty s ↔ S.size s = 0
  increasing (s : σ) : (S.toList s).Pairwise (·.index < ·.index)

variable {S}

theorem Implements.call (h : S.Implements) (pool : List σ) (c : SetCall) :
    ∃ pool', S.call pool c = some ((c.onFinite (pool.map S.members)).1, pool') ∧
      pool'.map S.members = (c.onFinite (pool.map S.members)).2 := by
  cases c with
  | new =>
    refine ⟨pool ++ [S.empty], rfl, ?_⟩
    simp [SetCall.onFinite, h.empty]
  | singleton o =>
    obtain ⟨s, hs, hmembers⟩ := h.singleton o
    refine ⟨pool ++ [s], ?_, ?_⟩
    · simp [SetOps.call, SetCall.onFinite, hs]
    · simp [SetCall.onFinite, hmembers]
  | insert i o =>
    cases hi : pool[i]? with
    | none => exact ⟨pool, by simp [SetOps.call, SetCall.onFinite, hi],
        by simp [SetCall.onFinite, hi]⟩
    | some s =>
      obtain ⟨s', hs, hmembers⟩ := h.insert s o
      refine ⟨pool.set i s', ?_, ?_⟩
      · simp [SetOps.call, SetCall.onFinite, hi, hs]
      · simp [SetCall.onFinite, hi, hmembers, List.map_set]
  | absorb i j =>
    cases hi : pool[i]? with
    | none => exact ⟨pool, by simp [SetOps.call, SetCall.onFinite, hi],
        by simp [SetCall.onFinite, hi]⟩
    | some s =>
      -- `i` and `j` may be one place, so both sets are looked up before one is changed
      cases hj : pool[j]? with
      | none => exact ⟨pool, by simp [SetOps.call, SetCall.onFinite, hi, hj],
          by simp [SetCall.onFinite, hi, hj]⟩
      | some t =>
        obtain ⟨delta, u, hs, hdelta, hunion⟩ := h.absorb s t
        refine ⟨pool.set i u ++ [delta], ?_, ?_⟩
        · simp [SetOps.call, SetCall.onFinite, hi, hj, hs]
        · simp [SetCall.onFinite, hi, hj, hdelta, hunion, List.map_set]

/-- Every sequence of calls is answered as for finite sets, and leaves the same members. -/
theorem Implements.run (h : S.Implements) (pool : List σ) (calls : List SetCall) :
    ∃ pool', S.run pool calls = some ((SetCall.runFinite (pool.map S.members) calls).1, pool') ∧
      pool'.map S.members = (SetCall.runFinite (pool.map S.members) calls).2 := by
  induction calls generalizing pool with
  | nil => exact ⟨pool, rfl, rfl⟩
  | cons c calls ih =>
    obtain ⟨pool₁, hcall, hmembers⟩ := h.call pool c
    obtain ⟨pool', hrun, hmembers'⟩ := ih pool₁
    rw [hmembers] at hrun hmembers'
    refine ⟨pool', ?_, hmembers'⟩
    rw [SetOps.run, hcall, Option.bind_some, hrun]
    rfl

end SetOps

namespace ObjSet

variable {s t : ObjSet} {o : CtxObjId}

def ops : SetOps ObjSet where
  empty := empty
  singleton o := some (singleton o)
  insert s o := some (s.insert o)
  absorb s t := some (s.absorb t)
  contains := contains
  isEmpty := isEmpty
  size := size
  toList := toList

theorem mem_members : o ∈ ops.members s ↔ s.contains o := by
  rw [SetOps.members, List.mem_toFinset]
  exact mem_toList

@[simp] theorem contains_insert (s : ObjSet) (o o' : CtxObjId) :
    (s.insert o).2.contains o' = (s.contains o' || decide (o' = o)) := by
  have h : (s.insert o).2 = s.union (singleton o) := rfl
  rw [h, contains_union, contains_singleton]

theorem toList_increasing (s : ObjSet) : s.toList.Pairwise (·.index < ·.index) := by
  rw [toList, List.pairwise_map]
  exact List.pairwise_lt_range.filter _

theorem implements_ops : ops.Implements where
  empty := by
    ext o
    rw [mem_members]
    simp [ops]
  singleton o := by
    refine ⟨singleton o, rfl, ?_⟩
    ext o'
    rw [mem_members]
    simp
  insert s o := by
    have hnew : (s.insert o).1 = decide (o ∉ ops.members s) := by
      rw [decide_not]
      simp [insert, mem_members]
    refine ⟨(s.insert o).2, ?_, ?_⟩
    · rw [← hnew]
      rfl
    · ext o'
      rw [mem_members, Finset.mem_insert, mem_members, contains_insert]
      simp [or_comm]
  absorb s t := by
    refine ⟨s.missing t, s.union t, rfl, ?_, ?_⟩
    · ext o
      rw [mem_members, Finset.mem_sdiff, mem_members, mem_members, contains_missing]
      simp
    · ext o
      rw [mem_members, Finset.mem_union, mem_members, mem_members, contains_union, Bool.or_eq_true]
  contains s o := mem_members.symm
  size s := (List.toFinset_card_of_nodup (nodup_toList s)).symm
  isEmpty s := by
    change s.isEmpty ↔ s.toList.length = 0
    rw [isEmpty_iff, List.length_eq_zero_iff, List.eq_nil_iff_forall_not_mem]
    simp only [mem_toList, Bool.not_eq_true]
  increasing := toList_increasing

end ObjSet

end PointsTo
