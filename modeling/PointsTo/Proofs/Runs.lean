import Mathlib.Logic.Relation
import PointsTo.Proofs.Tasks

namespace PointsTo

namespace Step

variable {σ ρ : Type} {step : σ → Step σ ρ}

/-- The states that a machine comes to, in any number of steps. -/
def Reaches (step : σ → Step σ ρ) : σ → σ → Prop :=
  Relation.ReflTransGen fun s s' => step s = .next s'

theorem reaches_of_stretch {n : Nat} {s : σ} :
    (∀ s', stretch step n s = .next s' → Reaches step s s') ∧
      ∀ r, stretch step n s = .halt r → ∃ s', Reaches step s s' ∧ step s' = .halt r := by
  induction n generalizing s with
  | zero => exact ⟨fun s' h => .single h, fun r h => ⟨s, .refl, h⟩⟩
  | succ n ih =>
    rw [stretch]
    cases h₁ : stretch step n s with
    | next s₁ =>
      have hs₁ := ih.1 s₁ h₁
      refine ⟨fun s' h => hs₁.trans (ih.1 s' h), fun r h => ?_⟩
      obtain ⟨s', hs', hr⟩ := ih.2 r h
      exact ⟨s', hs₁.trans hs', hr⟩
    | halt r =>
      refine ⟨fun s' h => (nomatch h), fun r' h => ?_⟩
      cases h
      exact ih.2 r h₁

theorem reaches_of_stretches {rounds n : Nat} {s : σ} :
    (∀ s', stretches step rounds n s = .next s' → Reaches step s s') ∧
      ∀ r, stretches step rounds n s = .halt r → ∃ s', Reaches step s s' ∧ step s' = .halt r := by
  induction rounds generalizing n s with
  | zero => exact ⟨fun s' h => by cases h; exact .refl, fun r h => nomatch h⟩
  | succ rounds ih =>
    rw [stretches]
    cases h₁ : stretch step n s with
    | next s₁ =>
      have hs₁ := reaches_of_stretch.1 s₁ h₁
      refine ⟨fun s' h => hs₁.trans (ih.1 s' h), fun r h => ?_⟩
      obtain ⟨s', hs', hr⟩ := ih.2 r h
      exact ⟨s', hs₁.trans hs', hr⟩
    | halt r =>
      refine ⟨fun s' h => (nomatch h), fun r' h => ?_⟩
      cases h
      exact reaches_of_stretch.2 r h₁

end Step

namespace Propagation

variable {p : Program} {π : Policy} {s s' : State}

namespace State

/-- `s'` is what becomes of `s` when objects arrive: the facts of `C` are found, and what is new
among them goes on along the flow edges. -/
structure Arrival (p : Program) (s s' : State) (C : Set Fact) : Prop where
  valid : s'.Valid p
  facts (f : Fact) : f ∈ s'.facts ↔ f ∈ s.facts ∨ f ∈ C
  pending (f : Fact) : f ∈ s'.pending ↔ f ∈ s.pending ∨
    ∃ x y o, f = .pts y o ∧ .flow x y ∈ s.facts ∧ .pts x o ∈ C ∧ .pts x o ∉ s.facts
  chores (ch : Chore) : ch ∈ s'.chores ↔ ch ∈ s.chores ∨ ∃ f ∈ C, f ∉ s.facts ∧ ch ∈ f.chores p
  isPts (f : Fact) (h : f ∈ C) : f.IsPts

section Arrive

variable {i : PointerId} {set : ObjSet}

/-- What a variable does with new objects. -/
def arrivalTasks (s : State) (i : PointerId) (delta : ObjSet) : List Task :=
  match s.store.pointer i with
  | .var v => delta.toList.map (.receive v)
  | _ => []

theorem arrive_of_known (h : ((s.store.pointees i).missing set).isEmpty) : s.arrive i set = s := by
  simp [arrive, ObjSet.absorb, h]

theorem foldl_send (l : List PointerId) (delta : ObjSet) (s : State) :
    ∃ queue, l.foldl (fun s j => s.send j delta) s = { s with queue } ∧
      queue.toList = s.queue.toList ++ l.map fun j => (j, delta) := by
  induction l generalizing s with
  | nil => exact ⟨s.queue, rfl, by simp⟩
  | cons j l ih =>
    obtain ⟨queue, hq, hl⟩ := ih (s.send j delta)
    refine ⟨queue, hq, ?_⟩
    rw [hl, send, Queue.toList_push]
    simp

/-- The state after new objects have arrived. -/
theorem arrive_of_new (h : ¬((s.store.pointees i).missing set).isEmpty) :
    ∃ queue events, s.arrive i set =
        { s with
          store := s.store.setPointees i ((s.store.pointees i).union set)
          agenda := s.arrivalTasks i ((s.store.pointees i).missing set) ++ s.agenda
          queue, events } ∧
      queue.toList = s.queue.toList ++
        (s.flow.successors i).toList.map fun j => (j, (s.store.pointees i).missing set) := by
  simp only [arrive, ObjSet.absorb, h, Bool.false_eq_true, if_false]
  rw [← Array.foldl_toList]
  obtain ⟨queue, hq, hl⟩ := foldl_send (s.flow.successors i).toList
    ((s.store.pointees i).missing set)
    ({ s with store := s.store.setPointees i ((s.store.pointees i).union set) }.report
      (.grown ((s.store.pointees i).missing set).size i))
  refine ⟨queue, s.events.push (.grown ((s.store.pointees i).missing set).size i), ?_, hl⟩
  have hf : (State.report { s with store := s.store.setPointees i ((s.store.pointees i).union set) }
      (.grown ((s.store.pointees i).missing set).size i)).flow = s.flow := rfl
  rw [hf, hq]
  have hp : (s.store.setPointees i ((s.store.pointees i).union set)).pointer i =
      s.store.pointer i := rfl
  rw [arrivalTasks]
  simp only [report, hp]
  cases s.store.pointer i <;> rfl

theorem mem_arrivalTasks (p : Program) (s : State) (i : PointerId) (delta : ObjSet) (ch : Chore) :
    (∃ t ∈ s.arrivalTasks i delta, s.store.chore t = ch) ↔
      ∃ u, delta.contains u ∧ ch ∈ (Fact.pts (s.store.place i) (s.store.heapObj u)).chores p := by
  rw [arrivalTasks, AbstractStore.place]
  cases s.store.pointer i with
  | var v =>
    simp only [List.mem_map, ObjSet.mem_toList]
    constructor
    · rintro ⟨t, ⟨u, hu, rfl⟩, rfl⟩
      exact ⟨u, hu, rfl⟩
    · rintro ⟨u, hu, rfl⟩
      exact ⟨_, ⟨u, hu, rfl⟩, rfl⟩
  | _ => simp [AbstractStore.location, Fact.chores]

theorem hasTask_arrivalTasks (hs : s.Valid p) (hi : s.store.pointers.values.Holds i)
    {delta : ObjSet} (hdelta : ∀ u, delta.contains u → s.store.ctxObjects.values.Holds u) {t : Task}
    (ht : t ∈ s.arrivalTasks i delta) : s.store.HasTask t := by
  have hx : s.store.HasPointer (s.store.pointer i) := hs.store.pointer (Table.get?_of_holds hi)
  rw [arrivalTasks] at ht
  cases hv : s.store.pointer i with
  | var v =>
    rw [hv] at ht hx
    obtain ⟨u, hu, rfl⟩ := List.mem_map.mp ht
    exact ⟨hx, hdelta u (ObjSet.mem_toList.mp hu)⟩
  | _ =>
    rw [hv] at ht
    cases ht

theorem mem_queued_append {A : AbstractStore} {l l' : List (PointerId × ObjSet)} {f : Fact} :
    f ∈ queued A (l ++ l') ↔ f ∈ queued A l ∨ f ∈ queued A l' := by
  cases f with
  | pts x o =>
    change (∃ _ _ _, _) ↔ (∃ _ _ _, _) ∨ ∃ _ _ _, _
    simp only [List.mem_append]
    constructor
    · rintro ⟨j, t, u, h | h, hu⟩
      exacts [.inl ⟨j, t, u, h, hu⟩, .inr ⟨j, t, u, h, hu⟩]
    · rintro (⟨j, t, u, h, hu⟩ | ⟨j, t, u, h, hu⟩)
      exacts [⟨j, t, u, .inl h, hu⟩, ⟨j, t, u, .inr h, hu⟩]
  | _ => exact ⟨.inl, fun h => h.elim id id⟩

theorem mem_queued_cons {A : AbstractStore} {l : List (PointerId × ObjSet)} {f : Fact} :
    f ∈ queued A ((i, set) :: l) ↔
      (∃ u, set.contains u ∧ f = .pts (A.place i) (A.heapObj u)) ∨ f ∈ queued A l := by
  rw [← List.singleton_append, mem_queued_append]
  refine or_congr_left ?_
  cases f with
  | pts x o =>
    constructor
    · rintro ⟨j, t, u, h, hu, rfl, rfl⟩
      cases List.mem_singleton.mp h
      exact ⟨u, hu, rfl⟩
    · rintro ⟨u, hu, h⟩
      cases h
      exact ⟨i, set, u, List.mem_singleton_self _, hu, rfl, rfl⟩
  | _ => exact ⟨fun h => h.elim, fun ⟨_, _, h⟩ => nomatch h⟩

theorem queued_nil {A : AbstractStore} : queued A [] = ∅ := by
  ext f
  cases f with
  | pts x o => exact ⟨fun ⟨_, _, _, h, _⟩ => (nomatch h), fun h => h.elim⟩
  | _ => exact ⟨fun h => h.elim, fun h => h.elim⟩

theorem queued_perm {A : AbstractStore} {l l' : List (PointerId × ObjSet)} (h : l.Perm l') :
    queued A l = queued A l' := by
  ext f
  cases f with
  | pts x o =>
    exact exists_congr fun j => exists_congr fun t => exists_congr fun u =>
      and_congr_left fun _ => h.mem_iff
  | _ => exact Iff.rfl

/-- What is sent to the successors of a pointer goes along its flow edges. -/
theorem mem_queued_successors (hs : s.Valid p) (hi : s.store.pointers.values.Holds i)
    {delta : ObjSet} {f : Fact} :
    f ∈ queued s.store ((s.flow.successors i).toList.map fun j => (j, delta)) ↔
      ∃ y u, f = .pts y (s.store.heapObj u) ∧ .flow (s.store.place i) y ∈ s.facts ∧
        delta.contains u := by
  constructor
  · intro h
    cases f with
    | pts y o =>
      obtain ⟨j, t, u, h, hu, rfl, rfl⟩ := h
      obtain ⟨k, hk, h⟩ := List.mem_map.mp h
      cases h
      rw [Array.mem_toList_iff, hs.flow.mem_successors] at hk
      exact ⟨_, u, rfl, ⟨i, j, hk, rfl, rfl⟩, hu⟩
    | _ => exact h.elim
  · rintro ⟨y, u, rfl, ⟨a, b, hab, ha, rfl⟩, hu⟩
    cases hs.store.place_injective (hs.edge hab).1 hi ha
    rw [← hs.flow.mem_successors, ← Array.mem_toList_iff] at hab
    exact ⟨b, delta, u, List.mem_map.mpr ⟨b, hab, rfl⟩, hu, rfl, rfl⟩

theorem mem_facts_setPointees (hs : s.Valid p) (hi : s.store.pointers.values.Holds i) (f : Fact) :
    f ∈ (s.store.setPointees i ((s.store.pointees i).union set)).facts s.flow s.calls ↔
      f ∈ s.facts ∨ ∃ u, set.contains u ∧ f = .pts (s.store.place i) (s.store.heapObj u) := by
  cases f with
  | pts x o =>
    constructor
    · rintro ⟨j, u, hu, rfl, rfl⟩
      rw [AbstractStore.pointees_setPointees hs.store hi] at hu
      split at hu
      · next hij =>
        subst hij
        rw [ObjSet.contains_union, Bool.or_eq_true] at hu
        rcases hu with hu | hu
        · exact .inl ⟨i, u, hu, rfl, rfl⟩
        · exact .inr ⟨u, hu, rfl⟩
      · exact .inl ⟨j, u, hu, rfl, rfl⟩
    · rintro (⟨j, u, hu, rfl, rfl⟩ | ⟨u, hu, h⟩)
      · refine ⟨j, u, ?_, rfl, rfl⟩
        rw [AbstractStore.pointees_setPointees hs.store hi]
        split
        · next hij => simp [hij, hu]
        · exact hu
      · cases h
        refine ⟨i, u, ?_, rfl, rfl⟩
        rw [AbstractStore.pointees_setPointees hs.store hi]
        simp [hu]
  | _ => exact ⟨.inl, fun h => h.elim id fun ⟨_, _, h⟩ => nomatch h⟩

theorem arrival (hs : s.Valid p) (hi : s.store.pointers.values.Holds i)
    (hset : ∀ u, set.contains u → s.store.ctxObjects.values.Holds u) :
    Arrival p s (s.arrive i set)
      {f | ∃ u, set.contains u ∧ f = .pts (s.store.place i) (s.store.heapObj u)} := by
  have hmem (u : CtxObjId) (hu : set.contains u) := mem_facts_pts hs hi (hset u hu)
  have hpts (f : Fact) :
      (∃ u, set.contains u ∧ f = .pts (s.store.place i) (s.store.heapObj u)) → f.IsPts := by
    rintro ⟨u, hu, rfl⟩
    trivial
  by_cases hnew : ((s.store.pointees i).missing set).isEmpty
  · have hknown (f : Fact) :
        (∃ u, set.contains u ∧ f = .pts (s.store.place i) (s.store.heapObj u)) → f ∈ s.facts := by
      rintro ⟨u, hu, rfl⟩
      have h := ObjSet.isEmpty_iff.mp hnew u
      simp only [ObjSet.contains_missing, hu, Bool.true_and, Bool.not_eq_false'] at h
      exact (hmem u hu).mpr h
    rw [arrive_of_known hnew]
    refine ⟨hs, fun f => ⟨.inl, fun h => h.elim id (hknown f)⟩, fun f => ⟨.inl, ?_⟩,
      fun ch => ⟨.inl, ?_⟩, hpts⟩
    · rintro (h | ⟨x, y, o, -, -, h, hn⟩)
      exacts [h, (hn (hknown _ h)).elim]
    · rintro (h | ⟨f, h, hn, -⟩)
      exacts [h, (hn (hknown _ h)).elim]
  · obtain ⟨queue, events, he, hq⟩ := arrive_of_new hnew
    have hunion (u : CtxObjId) (hu : ((s.store.pointees i).union set).contains u) :
        s.store.ctxObjects.values.Holds u := by
      rw [ObjSet.contains_union, Bool.or_eq_true] at hu
      exact hu.elim (fun h => hs.store.member h) (hset u)
    have hdelta (u : CtxObjId) : ((s.store.pointees i).missing set).contains u ↔ set.contains u ∧
        .pts (s.store.place i) (s.store.heapObj u) ∉ s.facts := by
      rw [ObjSet.contains_missing, Bool.and_eq_true, Bool.not_eq_true']
      refine and_congr_right fun hu => ?_
      rw [hmem u hu, Bool.not_eq_true]
    rw [he]
    refine ⟨⟨hs.store.setPointees hi hunion, hs.flow, hs.calls, hs.edge, hs.reachable, hs.call,
      ?_, ?_⟩, mem_facts_setPointees hs hi, fun f => ?_, fun ch => ?_, hpts⟩
    · intro j t h
      rw [hq, List.mem_append, List.mem_map] at h
      rcases h with h | ⟨k, hk, h⟩
      · exact hs.queue h
      · cases h
        rw [Array.mem_toList_iff, hs.flow.mem_successors] at hk
        exact ⟨(hs.edge hk).2, fun u hu => hset u ((hdelta u).mp hu).1⟩
    · intro t ht
      rcases List.mem_append.mp ht with ht | ht
      · exact hasTask_arrivalTasks hs hi (fun u hu => hset u ((hdelta u).mp hu).1) ht
      · exact hs.agenda ht
    · change f ∈ queued s.store queue.toList ↔ _
      rw [hq, mem_queued_append, mem_queued_successors hs hi]
      refine or_congr_right ⟨?_, ?_⟩
      · rintro ⟨y, u, rfl, hf, hu⟩
        obtain ⟨hu, hn⟩ := (hdelta u).mp hu
        exact ⟨_, y, _, rfl, hf, ⟨u, hu, rfl⟩, hn⟩
      · rintro ⟨x, y, o, rfl, hf, ⟨u, hu, h⟩, hn⟩
        cases h
        exact ⟨y, u, rfl, hf, (hdelta u).mpr ⟨hu, hn⟩⟩
    · have htasks := mem_arrivalTasks p s i ((s.store.pointees i).missing set) ch
      constructor
      · rintro ⟨t, ht, rfl⟩
        rcases List.mem_append.mp ht with ht | ht
        · obtain ⟨u, hu, hch⟩ := htasks.mp ⟨t, ht, rfl⟩
          obtain ⟨hu, hn⟩ := (hdelta u).mp hu
          exact .inr ⟨_, ⟨u, hu, rfl⟩, hn, hch⟩
        · exact .inl ⟨t, ht, rfl⟩
      · rintro (⟨t, ht, rfl⟩ | ⟨f, ⟨u, hu, rfl⟩, hn, hch⟩)
        · exact ⟨t, List.mem_append.mpr (.inr ht), rfl⟩
        · obtain ⟨t, ht, rfl⟩ := htasks.mpr ⟨u, (hdelta u).mpr ⟨hu, hn⟩, hch⟩
          exact ⟨t, List.mem_append.mpr (.inl ht), rfl⟩

end Arrive

end State

/-- A move of the analysis, with any entry of the queue next. -/
inductive Move (p : Program) (π : Policy) : State → State → Prop
  | perform {s s' : State} {task agenda} (ha : s.agenda = task :: agenda)
      (h : { s with agenda }.perform p π task = .ok s') : Move p π s s'
  | deliver {s : State} {i set queue} (ha : s.agenda = [])
      (hq : s.queue.toList.Perm ((i, set) :: queue.toList)) :
      Move p π s ({ s with queue }.arrive i set)

/-- What a step does: the first task of the agenda, or the oldest entry of the queue. -/
inductive StepCase (p : Program) (π : Policy) (s s' : State) : Prop
  | perform {t agenda} (ha : s.agenda = t :: agenda)
      (h : State.perform p π { s with agenda } t = .ok s')
  | deliver {x set queue} (ha : s.agenda = []) (hq : s.queue.pop? = some ((x, set), queue))
      (h : s' = State.arrive { s with queue } x set)

theorem step_case (h : step p π s = .next s') : StepCase p π s s' := by
  rw [step] at h
  split at h
  · next t agenda ha =>
    cases hp : State.perform p π { s with agenda } t with
    | ok s₁ =>
      rw [hp] at h
      cases h
      exact .perform ha hp
    | error e => rw [hp] at h; cases h
  · next ha =>
    split at h
    · next x set queue hq =>
      cases h
      exact .deliver ha hq rfl
    · cases h

theorem move_of_step (h : step p π s = .next s') : Move p π s s' := by
  cases step_case h with
  | perform ha h => exact .perform ha h
  | deliver ha hq h => exact h ▸ .deliver ha (.of_eq (Queue.toList_of_pop? hq))

theorem halted_of_step {e : Option AnalysisError} (h : step p π s = .halt (e, s')) :
    s' = s ∧ (e = none → s.agenda = [] ∧ s.queue.toList = []) := by
  rw [step] at h
  split at h
  · split at h
    · cases h
    · cases h
      exact ⟨rfl, fun he => nomatch he⟩
  · next ha =>
    split at h
    · cases h
    · next hq =>
      cases h
      exact ⟨rfl, fun _ => ⟨ha, Queue.pop?_eq_none hq⟩⟩

theorem State.Valid.popTask (hs : s.Valid p) {t : Task} {agenda : List Task}
    (ha : s.agenda = t :: agenda) : State.Valid p { s with agenda } ∧ s.store.HasTask t :=
  ⟨{ hs with agenda := fun ht => hs.agenda (ha ▸ List.mem_cons_of_mem _ ht) },
    hs.agenda (ha ▸ List.mem_cons_self)⟩

theorem State.Valid.popEntry (hs : s.Valid p) {i : PointerId} {set : ObjSet}
    {queue : Queue (PointerId × ObjSet)} (hq : s.queue.toList.Perm ((i, set) :: queue.toList)) :
    State.Valid p { s with queue } ∧ s.store.pointers.values.Holds i ∧
      ∀ u, set.contains u → s.store.ctxObjects.values.Holds u :=
  ⟨{ hs with queue := fun hi => hs.queue (hq.mem_iff.mpr (List.mem_cons_of_mem _ hi)) },
    hs.queue (hq.mem_iff.mpr List.mem_cons_self)⟩

/-- What a move does, in terms of facts and chores. -/
inductive Turn (p : Program) (π : Policy) (s s' : State) : Prop
  | work (s₀ : State) (ch : Chore) (hf : s₀.facts = s.facts) (hq : s₀.pending = s.pending)
      (hc : ∀ ch', ch' ∈ s.chores ↔ ch' = ch ∨ ch' ∈ s₀.chores)
      (hE : State.Effect p s₀ s' (ch.asserts p π) (ch.follows p)) (hr : ch.Resolved p)
  | arrive (s₀ : State) (C : Set Fact) (hf : s₀.facts = s.facts)
      (hq : ∀ f, f ∈ s.pending ↔ f ∈ C ∨ f ∈ s₀.pending) (hc : s₀.chores = s.chores)
      (hA : State.Arrival p s₀ s' C)

theorem Turn.valid (h : Turn p π s s') : s'.Valid p := by
  cases h with
  | work _ _ _ _ _ hE => exact hE.valid
  | arrive _ _ _ _ _ hA => exact hA.valid

theorem Move.turn (hs : s.Valid p) (h : Move p π s s') : Turn p π s s' := by
  cases h with
  | @perform _ task agenda ha h =>
    obtain ⟨hs₀, ht⟩ := hs.popTask ha
    obtain ⟨hE, hr⟩ := State.effect_perform hs₀ ht h
    refine .work { s with agenda } (s.store.chore task) rfl rfl (fun ch => ?_) hE hr
    change (∃ t ∈ s.agenda, _) ↔ _
    rw [ha]
    simp only [List.mem_cons, exists_eq_or_imp]
    exact or_congr_left eq_comm
  | @deliver i set queue ha hq =>
    obtain ⟨hs₀, hi, hset⟩ := hs.popEntry hq
    refine .arrive { s with queue } _ rfl (fun f => ?_) rfl (State.arrival hs₀ hi hset)
    rw [State.pending, State.queued_perm hq, State.mem_queued_cons]
    rfl

def Moves (p : Program) (π : Policy) : State → State → Prop := Relation.ReflTransGen (Move p π)

/-- What every turn keeps holds after all moves. -/
theorem Moves.invariant {I : State → Prop} (hs : s.Valid p) (h₀ : I s)
    (hturn : ∀ s s', s.Valid p → I s → Turn p π s s' → I s') (h : Moves p π s s') :
    s'.Valid p ∧ I s' := by
  induction h with
  | refl => exact ⟨hs, h₀⟩
  | tail _ hmove ih =>
    have ht := hmove.turn ih.1
    exact ⟨ht.valid, hturn _ _ ih.1 ih.2 ht⟩

section Start

theorem valid_empty : State.Valid p {} where
  store := AbstractStore.valid_empty
  flow := FlowGraph.consistent_empty
  calls := CallGraph.consistent_entries _
  edge h := by simp at h
  reachable h := by simp at h
  call h := by simp at h
  queue h := by simp [Queue.toList] at h
  agenda h := by simp at h

theorem facts_empty : State.facts {} = ∅ := by
  ext f
  refine ⟨fun h => ?_, fun h => h.elim⟩
  cases f with
  | reach c m =>
    obtain ⟨q, hq, -⟩ := h
    simp at hq
  | call k c st d m =>
    obtain ⟨e, he, -⟩ := h
    simp at he
  | flow x y =>
    obtain ⟨i, j, hij, -⟩ := h
    simp at hij
  | pts x o =>
    obtain ⟨i, u, hu, -⟩ := h
    simp [AbstractStore.pointees, Table.get, Table.get?, default] at hu

/-- At the start there is nothing but the chore to enter the entry method. -/
theorem effect_start (p : Program) (π : Policy) (entry : MethodId) :
    State.Effect p {} (start π entry) ∅ {.enter .empty entry} := by
  let c := ((({} : State).report (.started π)).internContext .empty).1
  let s := ((({} : State).report (.started π)).internContext .empty).2
  have h₀ : State.Effect p {} (State.report {} (.started π)) ∅ ∅ :=
    (State.Effect.refl valid_empty).report _
  have h₁ : State.Effect p {} s ∅ ∅ :=
    h₀.after (State.effect_grows h₀.valid (AbstractStore.internContext_grows h₀.valid.store _))
  have hcalls : s.calls.insertEntry ⟨c, entry⟩ = { s.calls with entries := #[⟨c, entry⟩] } := by
    simp [s, State.report, State.internContext, CallGraph.insertEntry]
  have h₂ : State.Effect p {} { s with calls := s.calls.insertEntry ⟨c, entry⟩ } ∅ ∅ := by
    rw [hcalls]
    exact ⟨⟨h₁.valid.store, h₁.valid.flow, h₁.valid.calls, h₁.valid.edge, h₁.valid.reachable,
      h₁.valid.call, h₁.valid.queue, h₁.valid.agenda⟩, h₁.store, h₁.facts, h₁.pending, h₁.chores⟩
  have hc : s.store.contexts.values.Holds c := AbstractStore.holds_internContext (A := {}) _
  have ht (t : Task) (ht : t ∈ [Task.enter ⟨c, entry⟩]) : s.store.HasTask t := by
    cases List.mem_singleton.mp ht
    exact hc
  have h₃ := State.effect_plan h₂.valid ht
  have hN : {ch | ∃ t ∈ [Task.enter ⟨c, entry⟩], s.store.chore t = ch} = {.enter .empty entry} := by
    have he : s.store.chore (.enter ⟨c, entry⟩) = .enter .empty entry :=
      congrArg (Chore.enter · entry) (AbstractStore.context_internContext (A := {}) _)
    ext ch
    simp [he, eq_comm]
  rw [hN] at h₃
  exact h₂.after h₃

end Start

theorem Moves.valid {entry : MethodId} (h : Moves p π (start π entry) s) : s.Valid p :=
  (h.invariant (I := fun _ => True) (effect_start p π entry).valid trivial
    fun _ _ _ _ _ => trivial).1

/-- A successful analysis comes to a state in which nothing is left to do. -/
theorem reaches_of_analyze {r : Solution} (h : (analyze p π).1 = .ok r) :
    ∃ entry s, p.entry = some entry ∧ Step.Reaches (step p π) (start π entry) s ∧ s.agenda = [] ∧
      s.queue.toList = [] ∧ r = ⟨p, s.store, s.flow, s.calls⟩ := by
  rw [analyze] at h
  cases he : p.entry with
  | none => simp [he] at h
  | some entry =>
    simp only [he] at h
    cases hrun : run p π entry with
    | mk e s =>
      rw [hrun] at h
      cases e with
      | some e => cases h
      | none =>
        cases h
        rw [run] at hrun
        split at hrun
        · next outcome hr =>
          obtain ⟨s', hs', hhalt⟩ := Step.reaches_of_stretches.2 _ hr
          subst hrun
          obtain ⟨rfl, hq⟩ := halted_of_step hhalt
          exact ⟨entry, s, rfl, hs', (hq rfl).1, (hq rfl).2, rfl⟩
        · cases hrun

theorem moves_of_reaches (h : Step.Reaches (step p π) s s') : Moves p π s s' :=
  h.lift id fun _ _ => move_of_step

/-- A successful analysis is a sequence of moves after which nothing is left to do. -/
theorem moves_of_analyze {r : Solution} (h : (analyze p π).1 = .ok r) :
    ∃ entry s, p.entry = some entry ∧ Moves p π (start π entry) s ∧ s.agenda = [] ∧
      s.queue.toList = [] ∧ r = ⟨p, s.store, s.flow, s.calls⟩ := by
  obtain ⟨entry, s, he, hs, hidle⟩ := reaches_of_analyze h
  exact ⟨entry, s, he, moves_of_reaches hs, hidle⟩

/-- An analysis fails without an entry method, or when its run does. -/
theorem run_of_analyze {e : AnalysisError} (h : (analyze p π).1 = .error e) :
    p.entry = none ∧ e = .noEntryMethod ∨
      ∃ entry s, p.entry = some entry ∧ run p π entry = (some e, s) := by
  rw [analyze] at h
  cases he : p.entry with
  | none =>
    simp only [he] at h
    cases h
    exact .inl ⟨rfl, rfl⟩
  | some entry =>
    simp only [he] at h
    cases hrun : run p π entry with
    | mk e' s =>
      rw [hrun] at h
      cases e' with
      | none => cases h
      | some e' =>
        cases h
        exact .inr ⟨entry, s, rfl, hrun⟩

end Propagation

end PointsTo
