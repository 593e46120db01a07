import PointsTo.Proofs.Loading
import PointsTo.Proofs.Runs

namespace PointsTo

theorem VarDecl.mem_accesses {d : VarDecl} {s : StmtId} :
    s ∈ d.accesses.toList ↔ ∃ u ≠ .call, s ∈ d.uses u := by
  rw [Array.mem_toList_iff, accesses]
  simp only [Array.mem_append]
  constructor
  · rintro (((h | h) | h) | h)
    exacts [⟨.store, by simp, h⟩, ⟨.load, by simp, h⟩, ⟨.arrayStore, by simp, h⟩,
      ⟨.arrayLoad, by simp, h⟩]
  · rintro ⟨u, hu, h⟩
    cases u with
    | load => exact .inl (.inl (.inr h))
    | store => exact .inl (.inl (.inl h))
    | arrayLoad => exact .inr h
    | arrayStore => exact .inl (.inr h)
    | call => exact (hu rfl).elim

namespace Propagation

variable {p : Program} {π : Policy} {s s' : State}

/-- The facts that are found or on their way. -/
def State.known (s : State) : Set Fact := s.facts ∪ s.pending

/-- A chore is planned, or it is done with all that it leads to. -/
inductive State.Covered (p : Program) (π : Policy) (s : State) : Chore → Prop
  | planned {ch} (h : ch ∈ s.chores) : Covered p π s ch
  | done {ch} (ha : ch.asserts p π ⊆ s.known) (hr : ch.Resolved p)
      (hf : ∀ ch' ∈ ch.follows p, Covered p π s ch') : Covered p π s ch

/-- Nothing that the rules call for is forgotten. -/
structure State.Complete (p : Program) (π : Policy) (s : State) : Prop where
  entry {m} (h : p.entry = some m) : s.Covered p π (.enter .empty m)
  chore {f ch} (hf : f ∈ s.facts) (hch : ch ∈ f.chores p) : s.Covered p π ch
  along {x y o} (hf : .flow x y ∈ s.facts) (ho : .pts x o ∈ s.facts) : .pts y o ∈ s.known

namespace Turn

theorem facts_subset (h : Turn p π s s') : s.facts ⊆ s'.facts := by
  cases h with
  | work s₀ ch hf _ _ hE =>
    rw [← hf]
    exact hE.facts_subset
  | arrive s₀ C hf _ _ hA =>
    intro f h
    exact (hA.facts f).mpr (.inl (hf ▸ h))

theorem known_subset (h : Turn p π s s') : s.known ⊆ s'.known := by
  rintro f (hf | hf)
  · exact .inl (h.facts_subset hf)
  cases h with
  | work s₀ ch _ hq _ hE => exact .inr ((hE.pending f).mpr (.inl (hq ▸ hf)))
  | arrive s₀ C _ hq _ hA =>
    rcases (hq f).mp hf with h | h
    · exact .inl ((hA.facts f).mpr (.inr h))
    · exact .inr ((hA.pending f).mpr (.inl h))

/-- A chore that was planned is still planned, or it has just been done. -/
theorem covered_of_mem (h : Turn p π s s') {ch : Chore} (hch : ch ∈ s.chores) :
    s'.Covered p π ch := by
  cases h with
  | work s₀ ch₀ hf hq hc hE hr =>
    rcases (hc ch).mp hch with rfl | hch
    · refine .done (fun f hf => ?_) hr fun ch' h => .planned ((hE.chores ch').mpr (.inr (.inl h)))
      by_cases hpts : f.IsPts
      · exact .inr ((hE.pending f).mpr (.inr (.inl ⟨hf, hpts⟩)))
      · exact .inl ((hE.facts f).mpr (.inr ⟨hf, hpts⟩))
    · exact .planned ((hE.chores ch).mpr (.inl hch))
  | arrive s₀ C _ _ hc hA => exact .planned ((hA.chores ch).mpr (.inl (hc ▸ hch)))

theorem covered (h : Turn p π s s') {ch : Chore} (hch : s.Covered p π ch) : s'.Covered p π ch := by
  induction hch with
  | planned hch => exact h.covered_of_mem hch
  | done ha hr _ ih => exact .done (ha.trans h.known_subset) hr ih

/-- The chores of a new fact are planned. -/
theorem chore_of_new (h : Turn p π s s') {f : Fact} (hf : f ∈ s'.facts) (hn : f ∉ s.facts)
    {ch : Chore} (hch : ch ∈ f.chores p) : ch ∈ s'.chores := by
  cases h with
  | work s₀ ch₀ hs _ _ hE =>
    rw [← hs] at hn
    obtain ⟨hf, hpts⟩ := ((hE.facts f).mp hf).resolve_left hn
    exact (hE.chores ch).mpr (.inr (.inr ⟨f, hf, hn, hpts, hch⟩))
  | arrive s₀ C hs _ _ hA =>
    rw [← hs] at hn
    exact (hA.chores ch).mpr (.inr ⟨f, ((hA.facts f).mp hf).resolve_left hn, hn, hch⟩)

/-- A new edge passes on what its source points to, and a new object goes along all edges. -/
theorem along_of_new (h : Turn p π s s') {x y : Location} {o : HeapObj} (hf : .flow x y ∈ s'.facts)
    (ho : .pts x o ∈ s'.facts) (hn : ¬(.flow x y ∈ s.facts ∧ .pts x o ∈ s.facts)) :
    .pts y o ∈ s'.pending := by
  cases h with
  | work s₀ ch hs _ _ hE =>
    rw [← hs] at hn
    have ho := (hE.facts_pts x o).mp ho
    have hnew : .flow x y ∉ s₀.facts := fun h => hn ⟨h, ho⟩
    have hf := (((hE.facts _).mp hf).resolve_left hnew).1
    exact (hE.pending _).mpr (.inr (.inr ⟨x, y, o, rfl, hf, hnew, ho⟩))
  | arrive s₀ C hs _ _ hA =>
    rw [← hs] at hn
    have hf : .flow x y ∈ s₀.facts := ((hA.facts _).mp hf).resolve_right fun h => hA.isPts _ h
    have hnew : .pts x o ∉ s₀.facts := fun h => hn ⟨hf, h⟩
    have ho := ((hA.facts _).mp ho).resolve_left hnew
    exact (hA.pending _).mpr (.inr ⟨x, y, o, rfl, hf, ho, hnew⟩)

theorem complete (h : Turn p π s s') (hs : s.Complete p π) : s'.Complete p π where
  entry he := h.covered (hs.entry he)
  chore {f ch} hf hch := by
    by_cases hold : f ∈ s.facts
    · exact h.covered (hs.chore hold hch)
    · exact .planned (h.chore_of_new hf hold hch)
  along {x y o} hf ho := by
    by_cases hold : .flow x y ∈ s.facts ∧ .pts x o ∈ s.facts
    · exact h.known_subset (hs.along hold.1 hold.2)
    · exact .inr (h.along_of_new hf ho hold)

end Turn

theorem complete_start {entry : MethodId} (he : p.entry = some entry) :
    (start π entry).Complete p π := by
  have hE := effect_start p π entry
  have hfacts (f : Fact) : f ∉ (start π entry).facts := by
    rw [hE.facts, facts_empty]
    rintro (h | h)
    exacts [h, h.1]
  refine ⟨fun h => ?_, fun h => (hfacts _ h).elim, fun h => (hfacts _ h).elim⟩
  cases he.symm.trans h
  exact .planned ((hE.chores _).mpr (.inr (.inl rfl)))

/-- Nothing is left to do. -/
structure State.Idle (s : State) : Prop where
  chores : s.chores = ∅
  pending : s.pending = ∅

theorem State.Idle.known (h : s.Idle) : s.known = s.facts := by
  rw [State.known, h.pending, Set.union_empty]

theorem State.Idle.of_empty (ha : s.agenda = []) (hq : s.queue.toList = []) : s.Idle := by
  constructor
  · ext ch
    simp [State.chores, ha]
  · rw [State.pending, hq]
    exact State.queued_nil

section Idle

variable (hidle : s.Idle) (hc : s.Complete p π)
include hidle

theorem State.Covered.done_of_idle {ch : Chore} (h : s.Covered p π ch) :
    ch.asserts p π ⊆ s.facts ∧ ch.Resolved p ∧ ∀ ch' ∈ ch.follows p, s.Covered p π ch' := by
  cases h with
  | planned h =>
    rw [hidle.chores] at h
    exact h.elim
  | done ha hr hf => exact ⟨hidle.known ▸ ha, hr, hf⟩

include hc

/-- All that a reachable statement and an object at the variable it goes through call for is
found. -/
theorem State.Complete.access (hwf : p.WellFormed) {c : Context} {v : VarId} {o : HeapObj}
    (ho : .pts (.var c v) o ∈ s.facts) {st : StmtId} {u : Use} (hu : u ≠ .call)
    (hst : (p.stmt st).use? = some (v, u)) : (p.stmt st).accessFlow c o ⊆ s.facts := by
  intro f hf
  have h : s.Covered p π (.receive c v o) := hc.chore ho rfl
  exact (h.done_of_idle hidle).1
    ⟨st, VarDecl.mem_accesses.mpr ⟨u, hu, hwf.uses.mpr hst⟩, hf⟩

theorem State.Complete.invoke (hwf : p.WellFormed) {c : Context} {v : VarId} {o : HeapObj}
    (ho : .pts (.var c v) o ∈ s.facts) {st : StmtId} (hst : (p.stmt st).use? = some (v, .call)) :
    (Chore.invoke c st o).asserts p π ⊆ s.facts ∧ (Chore.invoke c st o).Resolved p := by
  have h : s.Covered p π (.receive c v o) := hc.chore ho rfl
  have hmem : st ∈ (p.varDecl v).calls.toList := Array.mem_toList_iff.mpr (hwf.uses.mpr hst)
  have hi := (h.done_of_idle hidle).2.2 (.invoke c st o) ⟨st, hmem, rfl⟩
  exact ⟨(hi.done_of_idle hidle).1, (hi.done_of_idle hidle).2.1⟩

theorem State.Complete.exec {c : Context} {m : MethodId} (hm : .reach c m ∈ s.facts) {st : StmtId}
    (hst : st ∈ (p.methodDecl m).stmts) :
    (Chore.exec c st).asserts p π ⊆ s.facts ∧ (Chore.exec c st).Resolved p := by
  have h : s.Covered p π (.exec c st) := hc.chore hm ⟨st, hst, rfl⟩
  exact ⟨(h.done_of_idle hidle).1, (h.done_of_idle hidle).2.1⟩

theorem State.Complete.closed (hwf : p.WellFormed) : Closed p π s.facts := by
  intro f h
  cases h with
  | entry h => exact ((hc.entry h).done_of_idle hidle).1 rfl
  | new hm hs h ho =>
    refine (hc.exec hidle hm hs).1 ?_
    simp only [Chore.asserts, h]
    exact ⟨_, ho, rfl⟩
  | copy hm hs h | loadStatic hm hs h | storeStatic hm hs h =>
    refine (hc.exec hidle hm hs).1 ?_
    simp only [Chore.asserts, h]
    rfl
  | @load c m st x b f o hm hs h ho =>
    refine hc.access hidle hwf ho (u := .load) (by simp) (by rw [h]; rfl) ?_
    rw [h]
    rfl
  | @store c m st b f y o hm hs h ho =>
    refine hc.access hidle hwf ho (u := .store) (by simp) (by rw [h]; rfl) ?_
    rw [h]
    rfl
  | @arrayLoad c m st x b i o hm hs h ho =>
    refine hc.access hidle hwf ho (u := .arrayLoad) (by simp) (by rw [h]; rfl) ?_
    rw [h]
    rfl
  | @arrayStore c m st b i y o hm hs h ho =>
    refine hc.access hidle hwf ho (u := .arrayStore) (by simp) (by rw [h]; rfl) ?_
    rw [h]
    rfl
  | staticCall hm hs h hk hcallee =>
    refine (hc.exec hidle hm hs).1 ?_
    simp only [Chore.asserts, h]
    exact ⟨hk, _, hcallee, rfl⟩
  | instanceCall hm hs h hk hb ho hcallee =>
    refine (hc.invoke hidle hwf ho ?_).1 ⟨_, _, h, hcallee, .inr rfl⟩
    simp [h, Stmt.use?, hb]
  | receiver hm hs h hk hb ho hcallee ht =>
    refine (hc.invoke hidle hwf ho ?_).1 ⟨_, _, h, hcallee, .inl ⟨_, ht, rfl⟩⟩
    simp [h, Stmt.use?, hb]
  | @callee k c st d m h =>
    have hd : s.Covered p π (.enter d m) := hc.chore h (.inl rfl)
    exact (hd.done_of_idle hidle).1 rfl
  | @argument k c st d m call arg param hcall h ha =>
    have hb : s.Covered p π (.bindCall c st d m) := hc.chore hcall (.inr rfl)
    exact (hb.done_of_idle hidle).1 ⟨call, h, .inl ⟨_, ha, rfl⟩⟩
  | @result k c st d m call x v hcall h hx hv =>
    have hb : s.Covered p π (.bindCall c st d m) := hc.chore hcall (.inr rfl)
    exact (hb.done_of_idle hidle).1
      ⟨call, h, .inr ⟨x, hx, v, Array.mem_toList_iff.mpr hv, rfl⟩⟩
  | along hf ho =>
    have h := hc.along hf ho
    rwa [hidle.known] at h

theorem State.Complete.resolves (hwf : p.WellFormed) : Resolves p s.facts where
  new hm hs h := (hc.exec hidle hm hs).2.1 _ _ h
  staticCall hm hs h hk := ((hc.exec hidle hm hs).2.2 _ h).2 hk
  instanceCall hm hs h hb ho :=
    (hc.invoke hidle hwf ho (by simp [h, Stmt.use?, hb])).2
  dynamic hm hs h := ((hc.exec hidle hm hs).2.2 _ h).1

end Idle

/-- A successful analysis ends in a complete state with nothing left to do. -/
theorem idle_of_analyze {r : Solution} (h : (analyze p π).1 = .ok r) :
    ∃ entry s, p.entry = some entry ∧ Moves p π (start π entry) s ∧ s.Idle ∧ s.Complete p π ∧
      r = ⟨p, s.store, s.flow, s.calls⟩ := by
  obtain ⟨entry, s, he, hmoves, ha, hq, hr⟩ := moves_of_analyze h
  have hc := (hmoves.invariant (effect_start p π entry).valid (complete_start he)
    fun _ _ _ hs ht => ht.complete hs).2
  exact ⟨entry, s, he, hmoves, .of_empty ha hq, hc, hr⟩

end Propagation

/-- The result of an analysis has all that follows from it by the inclusion rules, and every
allocation and call that it had to look at resolves. -/
theorem analyze_closed {p : Program} (hp : p.Finished) {π : Policy} {r : Solution}
    (h : (analyze p π).1 = .ok r) :
    r.program = p ∧ Closed p π r.facts ∧ Resolves p r.facts := by
  obtain ⟨entry, s, -, -, hidle, hc, rfl⟩ := Propagation.idle_of_analyze h
  exact ⟨rfl, hc.closed hidle hp.wellFormed, hc.resolves hidle hp.wellFormed⟩

theorem analyze_closed_boxes : ∃ r, Description.boxes.program.Finished ∧
    (analyze Description.boxes.program (.callSite 1)).1 = .ok r ∧
    r.program = Description.boxes.program ∧
    Closed Description.boxes.program (.callSite 1) r.facts ∧
    Resolves Description.boxes.program r.facts := by
  obtain ⟨r, hr⟩ : ∃ r, (analyze Description.boxes.program (.callSite 1)).1 = .ok r :=
    exists_of_toOption (by decide +kernel)
  exact ⟨r, Description.boxes_finished, hr, analyze_closed Description.boxes_finished hr⟩

end PointsTo
