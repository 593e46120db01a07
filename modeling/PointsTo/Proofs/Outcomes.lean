import PointsTo.Proofs.Failures
import PointsTo.Proofs.Termination

namespace PointsTo

open Propagation

variable {p : Program} {π : Policy} {entry : MethodId} {s s' : State} {r : Solution}

namespace Propagation

/-- How a run can end in a state: with nothing left to do, or with a task that fails. -/
inductive Ends (p : Program) (π : Policy) (s : State) : Option AnalysisError → Prop
  | idle (ha : s.agenda = []) (hq : s.queue.toList = []) : Ends p π s none
  | failed {t agenda e} (ha : s.agenda = t :: agenda)
      (h : { s with agenda }.perform p π t = .error e) : Ends p π s (some e)

theorem ends_of_step {e : Option AnalysisError} (h : step p π s = .halt (e, s')) :
    s' = s ∧ Ends p π s e := by
  rw [step] at h
  split at h
  · next t agenda ha =>
    cases hp : State.perform p π { s with agenda } t with
    | ok s₁ =>
      rw [hp] at h
      cases h
    | error e' =>
      rw [hp] at h
      cases h
      exact ⟨rfl, .failed ha hp⟩
  · next ha =>
    split at h
    · cases h
    · next hq =>
      cases h
      exact ⟨rfl, .idle ha (Queue.pop?_eq_none hq)⟩

/-- The run of the analysis, oldest entries first, is one of those that end. -/
theorem run_ends (hwf : p.WellFormed) (he : p.entry = some entry) :
    ∃ e s, run p π entry = (e, s) ∧ Moves p π (start π entry) s ∧ Ends p π s e := by
  obtain ⟨⟨e, s⟩, hhalt⟩ := halts_of_entry (π := π) hwf he
  rw [← Step.run_eq_steps] at hhalt
  obtain ⟨s₁, hreach, hstep⟩ := Step.reaches_of_stretches.2 _ hhalt
  obtain ⟨rfl, hend⟩ := ends_of_step hstep
  refine ⟨e, s, ?_, moves_of_reaches hreach, hend⟩
  rw [run, hhalt]

/-- A run that fails names a call of the least family that fails. -/
theorem Moves.fails (hp : p.Finished) (he : p.entry = some entry)
    (h : Moves p π (start π entry) s) {e : AnalysisError} (hend : Ends p π s (some e)) :
    Fails p (leastFacts p π) e := by
  cases hend with
  | @failed t agenda _ ha herr =>
    have hmem : s.store.chore t ∈ s.chores := ⟨t, ha ▸ List.mem_cons_self, rfl⟩
    have hdue := h.due hp.wellFormed (closed_leastFacts p π) he _ hmem
    exact fails_of_perform (s := { s with agenda }) hp hdue herr

/-- A run with nothing left to do has found the least family, and its calls resolve. -/
theorem Moves.resolves (hp : p.Finished) (he : p.entry = some entry)
    (h : Moves p π (start π entry) s) (hend : Ends p π s none) :
    s.facts = leastFacts p π ∧ CallsResolve p (leastFacts p π) := by
  cases hend with
  | idle ha hq =>
    have hidle : s.Idle := .of_empty ha hq
    have hfacts := h.facts_eq hp.wellFormed he hidle
    have hres := (h.complete he).resolves hidle hp.wellFormed
    rw [hfacts] at hres
    exact ⟨hfacts, hres.dynamic, hres.staticCall, fun hm hs h _ => hres.instanceCall hm hs h⟩

end Propagation

/-- What the analysis of a program can come to, when any entry of the queue may be taken next. -/
inductive AnalyzesTo (p : Program) (π : Policy) : Except AnalysisError Solution → Prop
  | noEntry (h : p.entry = none) : AnalyzesTo p π (.error .noEntryMethod)
  | failed {entry : MethodId} {s : State} {e : AnalysisError} (he : p.entry = some entry)
      (h : Moves p π (start π entry) s) (hend : Ends p π s (some e)) : AnalyzesTo p π (.error e)
  | solved {entry : MethodId} {s : State} (he : p.entry = some entry)
      (h : Moves p π (start π entry) s) (hend : Ends p π s none) :
      AnalyzesTo p π (.ok ⟨p, s.store, s.flow, s.calls⟩)

theorem analyzesTo_analyze (hp : p.Finished) (π : Policy) : AnalyzesTo p π (analyze p π).1 := by
  rw [analyze]
  cases he : p.entry with
  | none => exact .noEntry he
  | some entry =>
    obtain ⟨e, s, hrun, hmoves, hend⟩ := run_ends (π := π) hp.wellFormed he
    simp only [hrun]
    cases e with
    | none => exact .solved he hmoves hend
    | some e => exact .failed he hmoves hend

theorem AnalyzesTo.of_error (hp : p.Finished) {e : AnalysisError}
    (h : AnalyzesTo p π (.error e)) :
    p.entry = none ∧ e = .noEntryMethod ∨ p.entry.isSome ∧ Fails p (leastFacts p π) e := by
  cases h with
  | noEntry h => exact .inl ⟨h, rfl⟩
  | failed he h hend => exact .inr ⟨by simp [he], h.fails hp he hend⟩

theorem AnalyzesTo.of_ok (hp : p.Finished) (h : AnalyzesTo p π (.ok r)) :
    p.entry.isSome ∧ r.facts = leastFacts p π ∧ CallsResolve p (leastFacts p π) := by
  cases h with
  | solved he h hend => exact ⟨by simp [he], h.resolves hp he hend⟩

/-- An outcome is a solution exactly if there is an entry method and the calls resolve. -/
theorem AnalyzesTo.isOk_iff (hp : p.Finished) {x : Except AnalysisError Solution}
    (h : AnalyzesTo p π x) :
    (∃ r, x = .ok r) ↔ p.entry.isSome ∧ CallsResolve p (leastFacts p π) := by
  cases x with
  | ok r =>
    obtain ⟨he, -, hres⟩ := h.of_ok hp
    exact ⟨fun _ => ⟨he, hres⟩, fun _ => ⟨r, rfl⟩⟩
  | error e =>
    refine ⟨fun ⟨r, hr⟩ => (nomatch hr), ?_⟩
    rintro ⟨he, hres⟩
    rcases h.of_error hp with ⟨hnone, -⟩ | ⟨-, hf⟩
    · rw [hnone] at he
      cases he
    · exact (hf.not_callsResolve hres).elim

/-- An analysis succeeds if and only if there is an entry method and every call that it has to look
at resolves and is not dynamic. When it fails, its error names a call that fails in this way. -/
theorem analyze_ok_iff {p : Program} (hp : p.Finished) {π : Policy} {M : Set Fact}
    (hM : IsLeast {K | Closed p π K} M) :
    ((∃ r, (analyze p π).1 = .ok r) ↔ p.entry.isSome ∧ CallsResolve p M) ∧
      ∀ e, (analyze p π).1 = .error e →
        p.entry = none ∧ e = .noEntryMethod ∨ p.entry.isSome ∧ Fails p M e := by
  have hrun := analyzesTo_analyze hp π
  rw [hM.unique (isLeast_leastFacts p π)]
  refine ⟨hrun.isOk_iff hp, fun e he => ?_⟩
  rw [he] at hrun
  exact hrun.of_error hp

/-- A method with a dynamic call, called on a variable that an object reaches or not, and a call to
a method that does not exist, on a variable that no object reaches. -/
def Description.strays (reached : Bool) : Description where
  entry := some { cls := "Main", method := "main()V" }
  classes := [
    { name := "Main"
      methods := [
        { signature := "main()V"
          isStatic := true
          locals := [{ name := "x", type := "LMain;" }, { name := "y", type := "LMain;" }]
          body := (if reached then [.new "x" "LMain;"] else []) ++
            [.invoke .virtual "Main.lost()V" (some "x") [] none,
             .invoke .virtual "Main.missing()V" (some "y") [] none] },
        { signature := "lost()V"
          body := [.invoke .dynamic "Main.lost()V" none [] none] }] }]

theorem analyze_ok_iff_strays :
    ((Description.strays false).program.Finished ∧
      CallsResolve (Description.strays false).program
        (leastFacts (Description.strays false).program (.object 1))) ∧
    (Description.strays true).program.Finished ∧
      ∃ e, (analyze (Description.strays true).program (.object 1)).1 = .error e ∧
        Fails (Description.strays true).program
          (leastFacts (Description.strays true).program (.object 1)) e := by
  have hfinished (b : Bool) : (Description.strays b).program.Finished := by
    apply Description.program_finished
    cases b <;> decide +kernel
  refine ⟨⟨hfinished false, ?_⟩, hfinished true, ?_⟩
  · have hok : ∃ r, (analyze (Description.strays false).program (.object 1)).1 = .ok r :=
      exists_of_toOption (by decide +kernel)
    exact ((analyze_ok_iff (hfinished false) (isLeast_leastFacts _ _)).1.mp hok).2
  · have hfail :
        (analyze (Description.strays true).program (.object 1)).1.toOption.isSome = false := by
      decide +kernel
    have hentry : (Description.strays true).program.entry.isSome := by decide +kernel
    cases hr : (analyze (Description.strays true).program (.object 1)).1 with
    | ok r =>
      rw [hr] at hfail
      cases hfail
    | error e =>
      refine ⟨e, rfl, ?_⟩
      rcases (analyze_ok_iff (hfinished true) (isLeast_leastFacts _ _)).2 e hr with ⟨hn, -⟩ | hf
      · rw [hn] at hentry
        cases hentry
      · exact hf.2

namespace Propagation

/-- A step of the analysis that takes the newest entry of the queue and not the oldest. -/
def stepNewest (p : Program) (π : Policy) (s : State) : Step State Outcome :=
  match s.agenda, s.queue.toList.reverse with
  | [], (x, set) :: rest => .next ({ s with queue := ⟨rest.reverse, []⟩ }.arrive x set)
  | _, _ => step p π s

theorem move_of_stepNewest (h : stepNewest p π s = .next s') : Move p π s s' := by
  rw [stepNewest] at h
  split at h
  · next x set rest ha hq =>
    cases h
    apply Move.deliver ha
    have hperm : s.queue.toList.Perm ((x, set) :: rest) := hq ▸ (List.reverse_perm _).symm
    have hrest : (Queue.mk rest.reverse []).toList.Perm rest := by
      simp [Queue.toList, List.reverse_perm]
    exact hperm.trans (hrest.symm.cons _)
  · exact move_of_step h

theorem ends_of_stepNewest {e : Option AnalysisError} (h : stepNewest p π s = .halt (e, s')) :
    s' = s ∧ Ends p π s e := by
  rw [stepNewest] at h
  split at h
  · cases h
  · exact ends_of_step h

end Propagation

/-- What the analysis finds in `2 ^ rounds - 1` steps when it takes the newest entries first. -/
def solveNewest? (p : Program) (π : Policy) (rounds : Nat) : Option Solution :=
  match p.entry with
  | none => none
  | some entry =>
    match Step.run (stepNewest p π) rounds (start π entry) with
    | .halt (none, s) => some ⟨p, s.store, s.flow, s.calls⟩
    | _ => none

theorem analyzesTo_of_solveNewest {rounds : Nat} (h : solveNewest? p π rounds = some r) :
    AnalyzesTo p π (.ok r) := by
  rw [solveNewest?] at h
  split at h
  · cases h
  · next entry he =>
    split at h
    · next s hrun =>
      cases h
      obtain ⟨s₁, hreach, hstep⟩ := Step.reaches_of_stretches.2 _ hrun
      obtain ⟨rfl, hend⟩ := ends_of_stepNewest hstep
      exact .solved he (hreach.lift id fun _ _ => move_of_stepNewest) hend
    · cases h

/-- Two outcomes agree: both are errors, or both are solutions with the same facts. -/
def Agree : Except AnalysisError Solution → Except AnalysisError Solution → Prop
  | .ok r, .ok r' => r.facts = r'.facts
  | .error _, .error _ => True
  | _, _ => False

/-- The analysis is one of the runs that take the entries of the queue in some order, and any two of
these agree: both fail, or both find the same facts. -/
theorem analyzesTo_agree {p : Program} (hp : p.Finished) (π : Policy) :
    AnalyzesTo p π (analyze p π).1 ∧
      ∀ x y, AnalyzesTo p π x → AnalyzesTo p π y → Agree x y := by
  refine ⟨analyzesTo_analyze hp π, fun x y hx hy => ?_⟩
  have hiff := (hx.isOk_iff hp).trans (hy.isOk_iff hp).symm
  cases x with
  | ok r =>
    obtain ⟨r', rfl⟩ := hiff.mp ⟨r, rfl⟩
    exact (hx.of_ok hp).2.1.trans (hy.of_ok hp).2.1.symm
  | error e =>
    cases y with
    | ok r' =>
      obtain ⟨r, hr⟩ := hiff.mpr ⟨r', rfl⟩
      cases hr
    | error e' => trivial

theorem analyzesTo_agree_boxes :
    ∃ r r', (analyze Description.boxes.program (.object 1)).1 = .ok r ∧
      solveNewest? Description.boxes.program (.object 1) 12 = some r' ∧ r.facts = r'.facts := by
  obtain ⟨r, hr⟩ : ∃ r, (analyze Description.boxes.program (.object 1)).1 = .ok r :=
    exists_of_toOption (by decide +kernel)
  obtain ⟨r', hr'⟩ : ∃ r', solveNewest? Description.boxes.program (.object 1) 12 = some r' :=
    Option.isSome_iff_exists.mp (by decide +kernel)
  obtain ⟨hrun, hagree⟩ := analyzesTo_agree Description.boxes_finished (.object 1)
  rw [hr] at hrun
  exact ⟨r, r', hr, hr', hagree _ _ hrun (analyzesTo_of_solveNewest hr')⟩

end PointsTo
