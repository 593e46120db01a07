import PointsTo.Proofs.Housing

namespace PointsTo

variable {p : Program} {π : Policy} {F K : Set Fact}

theorem Location.Housed.mono (hFK : F ⊆ K) {x : Location} (h : x.Housed p F) : x.Housed p K := by
  cases x with
  | var c v => exact hFK h
  | static | field | array => trivial

theorem Fact.Housed.mono (hFK : F ⊆ K) {f : Fact} (h : f.Housed p F) : f.Housed p K := by
  cases f with
  | reach c m => trivial
  | call k c s d m => exact hFK h
  | flow x y => exact Location.Housed.mono hFK h
  | pts x o => exact Location.Housed.mono hFK h

theorem Chore.Due.mono (hFK : F ⊆ K) {ch : Chore} (h : ch.Due p F) : ch.Due p K := by
  cases ch with
  | enter => trivial
  | exec c s =>
    obtain ⟨m, hm, hs⟩ := h
    exact ⟨m, hFK hm, hs⟩
  | bindCall c s d m =>
    obtain ⟨k, hcall⟩ := h
    exact ⟨k, hFK hcall⟩
  | receive c v o => exact ⟨hFK h.1, hFK h.2⟩
  | invoke c s o =>
    obtain ⟨v, ho, hv⟩ := h
    exact ⟨v, ⟨hFK ho.1, hFK ho.2⟩, hv⟩

section Asserts

variable (hwf : p.WellFormed)
include hwf

theorem reach_of_exec_due {c : Context} {s : StmtId} (h : (Chore.exec c s).Due p F) :
    .reach c (p.container s) ∈ F := by
  obtain ⟨m, hm, hs⟩ := h
  rw [(hwf.body.mp hs).2]
  exact hm

theorem reach_of_use {c : Context} {v : VarId} {s : StmtId} {u : Use}
    (hv : (Location.var c v).Housed p F) (hs : s ∈ (p.varDecl v).uses u) :
    .reach c (p.container s) ∈ F := by
  have hbody := hwf.mem_body_of_use? (hwf.uses.mp hs)
  rw [(hwf.body.mp hbody).2]
  exact hv

theorem reach_of_invoke_due {c : Context} {s : StmtId} {o : HeapObj}
    (h : (Chore.invoke c s o).Due p F) : .reach c (p.container s) ∈ F := by
  obtain ⟨v, ho, hv⟩ := h
  exact reach_of_use hwf (u := .call) ho.2 hv

/-- The statements and the variables that a chore finds something about are those of the methods
that it is due in, and of the callees that it knows or finds. -/
theorem housed_of_asserts (hFK : F ⊆ K) {ch : Chore} (hd : ch.Due p F)
    (hcaller : ∀ {k c s d m}, .call k c s d m ∈ F → .reach c (p.container s) ∈ K)
    (hcallee : ∀ {k c s d m}, .call k c s d m ∈ F ∪ ch.asserts p π → .reach d m ∈ K) {f : Fact}
    (hf : f ∈ ch.asserts p π) : f.Housed p K := by
  cases ch with
  | enter c m =>
    cases hf
    trivial
  | exec c s =>
    have hreach := hFK (reach_of_exec_due hwf hd)
    have hvars := Propagation.housed_operand hwf hreach
    rw [Chore.asserts] at hf
    split at hf
    · next x t hst =>
      obtain ⟨obj, -, rfl⟩ := hf
      exact hvars x (by simp [hst, Stmt.vars])
    · next x y hst =>
      cases hf
      exact hvars x (by simp [hst, Stmt.vars])
    · next x f hst =>
      cases hf
      exact hvars x (by simp [hst, Stmt.vars])
    · cases hf
      trivial
    · obtain ⟨-, callee, -, rfl⟩ := hf
      exact hreach
    · exact hf.elim
  | bindCall c s d m =>
    obtain ⟨k, hcall⟩ := hd
    obtain ⟨call, hst, ⟨a, ha, rfl⟩ | ⟨x, hx, v, -, rfl⟩⟩ := hf
    · have hparam : a.2 ∈ (p.methodDecl m).params := Array.mem_toList_iff.mp (List.of_mem_zip ha).2
      change .reach d (p.varDecl a.2).method ∈ K
      rw [(hwf.param hparam).2]
      exact hcallee (.inl hcall)
    · apply Propagation.housed_operand hwf (hcaller hcall) x
      simp [hst, Stmt.vars, hx]
  | receive c v o =>
    obtain ⟨s, hs, hf⟩ := hf
    obtain ⟨u, -, hs⟩ := VarDecl.mem_accesses.mp hs
    have hvars := Propagation.housed_operand hwf (hFK (reach_of_use hwf hd.2 hs))
    cases hst : p.stmt s with
    | load x b g | arrayLoad x b i =>
      rw [hst] at hf
      cases hf
      exact hvars x (by simp [hst, Stmt.vars])
    | store | arrayStore =>
      rw [hst] at hf
      cases hf
      trivial
    | _ =>
      rw [hst] at hf
      exact hf.elim
  | invoke c s o =>
    have hreach := hFK (reach_of_invoke_due hwf hd)
    obtain ⟨call, callee, hst, hc, ⟨this, hthis, rfl⟩ | rfl⟩ := hf
    · rw [Fact.Housed, Location.Housed, (hwf.this hthis).2]
      exact hcallee (.inr ⟨call, callee, hst, hc, .inr rfl⟩)
    · exact hreach

end Asserts

namespace Propagation

variable {s s' : State} {entry : MethodId}

/-- The facts found so far, and the methods that are about to be entered. -/
def State.expected (s : State) : Set Fact :=
  s.facts ∪ {f | ∃ c m, f = .reach c m ∧ .enter c m ∈ s.chores}

theorem State.expected_of_no_chores (h : s.chores = ∅) : s.expected = s.facts := by
  rw [State.expected, h]
  simp

theorem State.Covered.expected {c : Context} {m : MethodId} (h : s.Covered p π (.enter c m)) :
    .reach c m ∈ s.expected := by
  cases h with
  | planned h => exact .inr ⟨c, m, rfl, h⟩
  | done ha =>
    rcases ha rfl with h | h
    · exact .inl h
    · exact h.elim

theorem Turn.expected_subset (h : Turn p π s s') : s.expected ⊆ s'.expected := by
  rintro f (hf | ⟨c, m, rfl, hch⟩)
  · exact .inl (h.facts_subset hf)
  · exact (h.covered_of_mem hch).expected

/-- Every fact is about methods that are reachable or about to be entered, and every chore about
methods that are reachable. -/
structure State.Grounded (p : Program) (s : State) : Prop where
  housed {f} (h : f ∈ s.known) : f.Housed p s.expected
  due {ch} (h : ch ∈ s.chores) : ch.Due p s.facts

/-- Objects arrive only when no chore is left. -/
theorem Move.chores_of_pts (hs : s.Valid p) (h : Move p π s s') {x : Location} {o : HeapObj}
    (hf : .pts x o ∈ s'.facts) : .pts x o ∈ s.facts ∨ s.chores = ∅ := by
  cases h with
  | perform ha h =>
    obtain ⟨hs₀, ht⟩ := hs.popTask ha
    exact .inl (((State.effect_perform hs₀ ht h).1.facts_pts x o).mp hf)
  | deliver ha hq =>
    right
    ext ch
    simp [State.chores, ha]

/-- A chore that a fact calls for is due, if the fact is about methods that are reachable. A call
needs no more than that it is known. -/
theorem due_of_chores {f : Fact} (hf : f ∈ F) (hpts : f.IsPts → f.Housed p F) {ch : Chore}
    (hch : ch ∈ f.chores p) : ch.Due p F := by
  cases f with
  | reach c m => exact due_of_mem ⟨hf, trivial⟩ hch
  | call k c s d m =>
    rcases hch with rfl | rfl
    · trivial
    · exact ⟨k, hf⟩
  | flow x y => exact hch.elim
  | pts x o => exact due_of_mem ⟨hf, hpts trivial⟩ hch

theorem Turn.grounded (hwf : p.WellFormed) (h : Turn p π s s') (hc : s'.Complete p π)
    (hidle : ∀ {x o}, .pts x o ∈ s'.facts → .pts x o ∈ s.facts ∨ s.chores = ∅)
    (hs : s.Grounded p) : s'.Grounded p := by
  have hfacts := h.facts_subset
  have hexpected := h.expected_subset
  have hold {f : Fact} (hf : f ∈ s.known) : f.Housed p s'.expected := (hs.housed hf).mono hexpected
  cases h with
  | work s₀ ch hf hq hch hE =>
    have hdue := hs.due ((hch ch).mpr (.inl rfl))
    have hcallee {k c st d m} (hcall : .call k c st d m ∈ s.facts ∪ ch.asserts p π) :
        .reach d m ∈ s'.expected := by
      have hmem : .call k c st d m ∈ s'.facts := by
        rcases hcall with hcall | hcall
        · exact hfacts hcall
        · exact (hE.facts _).mpr (.inr ⟨hcall, id⟩)
      exact (hc.chore hmem (.inl rfl)).expected
    have hnew {f : Fact} (hf : f ∈ ch.asserts p π) : f.Housed p s'.expected :=
      housed_of_asserts hwf (hfacts.trans Set.subset_union_left) hdue (fun h => hold (.inl h))
        hcallee hf
    refine ⟨fun {f} hknown => ?_, fun {ch'} hch' => ?_⟩
    · rcases hknown with hmem | hmem
      · rcases (hE.facts f).mp hmem with hmem | ⟨hmem, -⟩
        · exact hold (.inl (hf ▸ hmem))
        · exact hnew hmem
      · rcases (hE.pending f).mp hmem with hmem | ⟨hmem, -⟩ | ⟨x, y, o, rfl, hflow, -⟩
        · exact hold (.inr (hq ▸ hmem))
        · exact hnew hmem
        · exact hnew (f := .flow x y) hflow
    · rcases (hE.chores ch').mp hch' with hmem | hmem | ⟨f, hmem, -, hpts, hch'⟩
      · exact (hs.due ((hch ch').mpr (.inr hmem))).mono hfacts
      · exact (hdue.follows hmem).mono hfacts
      · exact due_of_chores ((hE.facts f).mpr (.inr ⟨hmem, hpts⟩)) (fun h => (hpts h).elim) hch'
  | arrive s₀ C hf hq hch hA =>
    refine ⟨fun {f} hknown => ?_, fun {ch'} hch' => ?_⟩
    · rcases hknown with hmem | hmem
      · rcases (hA.facts f).mp hmem with hmem | hmem
        · exact hold (.inl (hf ▸ hmem))
        · exact hold (.inr ((hq f).mpr (.inl hmem)))
      · rcases (hA.pending f).mp hmem with hmem | ⟨x, y, o, rfl, hflow, -⟩
        · exact hold (.inr ((hq f).mpr (.inr hmem)))
        · exact hold (f := .flow x y) (.inl (hf ▸ hflow))
    · rcases (hA.chores ch').mp hch' with hmem | ⟨f, hmem, hn, hch'⟩
      · exact (hs.due (hch ▸ hmem)).mono hfacts
      · have hmem' : f ∈ s'.facts := (hA.facts f).mpr (.inr hmem)
        refine due_of_chores hmem' (fun hpts => ?_) hch'
        have hhoused := hs.housed (.inr ((hq f).mpr (.inl hmem)))
        cases f with
        | pts x o =>
          rw [hf] at hn
          rw [State.expected_of_no_chores ((hidle hmem').resolve_left hn)] at hhoused
          exact hhoused.mono hfacts
        | _ => exact hpts.elim

theorem grounded_start (p : Program) (π : Policy) (entry : MethodId) :
    (start π entry).Grounded p := by
  have hE := effect_start p π entry
  refine ⟨fun {f} hf => ?_, fun {ch} hch => ?_⟩
  · rcases hf with hf | hf
    · rw [hE.facts, facts_empty] at hf
      rcases hf with hf | hf
      · exact hf.elim
      · exact hf.1.elim
    · rcases (hE.pending f).mp hf with hf | hf | ⟨x, y, o, -, hf, -⟩
      · rw [State.pending] at hf
        exact (State.queued_nil ▸ hf : f ∈ (∅ : Set Fact)).elim
      · exact hf.1.elim
      · exact hf.elim
  · rcases (hE.chores ch).mp hch with ⟨t, ht, -⟩ | rfl | ⟨f, hf, -⟩
    · cases ht
    · trivial
    · exact hf.elim

theorem Moves.grounded (hwf : p.WellFormed) (he : p.entry = some entry)
    (h : Moves p π (start π entry) s) : s.Grounded p := by
  induction h with
  | refl => exact grounded_start p π entry
  | @tail s₁ s₂ hprev hmove ih =>
    have hs := Moves.valid hprev
    have hc : s₂.Complete p π := Moves.complete he (hprev.tail hmove)
    exact (hmove.turn hs).grounded hwf hc (hmove.chores_of_pts hs) ih

end Propagation

end PointsTo
