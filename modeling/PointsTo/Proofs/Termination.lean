import PointsTo.Proofs.Leastness
import PointsTo.Proofs.Load
import PointsTo.Proofs.Universe

/-!
Every analysis ends. A state has as many steps before it as there is work that waits and as new
facts can still call for, and of these there are only so many.
-/
namespace PointsTo

namespace Step

variable {σ ρ : Type} {step : σ → Step σ ρ}

/-- Takes up to `n` steps. -/
def steps (step : σ → Step σ ρ) : (n : Nat) → σ → Step σ ρ
  | 0, s => next s
  | n + 1, s =>
    match step s with
    | next s => steps step n s
    | halt r => halt r

theorem steps_add (m n : Nat) (s : σ) : steps step (m + n) s =
    match steps step m s with
    | next s => steps step n s
    | halt r => halt r := by
  induction m generalizing s with
  | zero => rw [Nat.zero_add, steps]
  | succ m ih =>
    rw [Nat.succ_add, steps, steps]
    cases step s with
    | next s₁ => exact ih s₁
    | halt r => rfl

theorem stretch_eq_steps (n : Nat) (s : σ) : stretch step n s = steps step (2 ^ n) s := by
  induction n generalizing s with
  | zero =>
    change step s = match step s with
      | next s => next s
      | halt r => halt r
    cases step s <;> rfl
  | succ n ih =>
    rw [stretch, Nat.pow_succ, Nat.mul_two, steps_add, ih]
    cases steps step (2 ^ n) s with
    | next s₁ => exact ih s₁
    | halt r => rfl

theorem stretches_eq_steps (rounds n : Nat) (s : σ) :
    stretches step rounds n s = steps step (2 ^ (n + rounds) - 2 ^ n) s := by
  induction rounds generalizing n s with
  | zero => rw [stretches, Nat.add_zero, Nat.sub_self, steps]
  | succ rounds ih =>
    -- one stretch now, and the others from twice its length on
    have hle : 2 ^ (n + 1) ≤ 2 ^ (n + 1 + rounds) :=
      Nat.pow_le_pow_right (by decide) (Nat.le_add_right _ _)
    have hsplit : 2 ^ (n + (rounds + 1)) - 2 ^ n =
        2 ^ n + (2 ^ (n + 1 + rounds) - 2 ^ (n + 1)) := by
      rw [Nat.add_comm rounds, ← Nat.add_assoc]
      rw [Nat.pow_succ, Nat.mul_two] at hle ⊢
      generalize 2 ^ (n + 1 + rounds) = total at hle ⊢
      omega
    rw [stretches, hsplit, steps_add, ← stretch_eq_steps]
    cases stretch step n s with
    | next s₁ => exact ih (n + 1) s₁
    | halt r => rfl

/-- The runner takes its steps one after the other. -/
theorem run_eq_steps (rounds : Nat) (s : σ) :
    run step rounds s = steps step (2 ^ rounds - 1) s := by
  rw [run, stretches_eq_steps, Nat.zero_add, Nat.pow_zero]

/-- Applies a function to the state of a step, or another to its result. -/
def map {τ ρ' : Type} (f : σ → τ) (g : ρ → ρ') : Step σ ρ → Step τ ρ'
  | next s => next (f s)
  | halt r => halt (g r)

/-- A machine that takes the steps of another does so in any number of steps. -/
theorem steps_map {τ ρ' : Type} {step' : τ → Step τ ρ'} (f : σ → τ) (g : ρ → ρ') {s : σ}
    (h : ∀ s', Reaches step s s' → step' (f s') = (step s').map f g) (n : Nat) :
    steps step' n (f s) = (steps step n s).map f g := by
  induction n generalizing s with
  | zero => rfl
  | succ n ih =>
    rw [steps, steps, h s .refl]
    cases hstep : step s with
    | halt r => rfl
    | next s₁ => exact ih fun s' hreach => h s' (.head hstep hreach)

/-- A machine halts if each step makes a number smaller, as long as it goes on. -/
theorem steps_halts {I : σ → Prop} {μ : σ → Nat}
    (hstep : ∀ s s', I s → step s = .next s' → I s' ∧ μ s' < μ s) {s : σ} (hs : I s) {n : Nat}
    (hn : μ s < n) : ∃ r, steps step n s = .halt r := by
  induction n generalizing s with
  | zero => cases hn
  | succ n ih =>
    rw [steps]
    cases h : step s with
    | next s₁ =>
      obtain ⟨hs₁, hlt⟩ := hstep s s₁ hs h
      exact ih hs₁ (by omega)
    | halt r => exact ⟨r, rfl⟩

end Step

namespace Program.WellFormed

variable {p : Program}

theorem size_body_le (h : p.WellFormed) (m : MethodId) :
    (p.methodDecl m).stmts.size ≤ p.stmts.size :=
  Table.length_le_size h.body_nodup fun _ hs => (h.body.mp (Array.mem_toList_iff.mp hs)).1

theorem size_calls_le (h : p.WellFormed) (v : VarId) : (p.varDecl v).calls.size ≤ p.stmts.size := by
  refine Table.length_le_size (h.uses_nodup (u := .call)) fun s hs => ?_
  have hu : (p.stmt s).use? = some (v, .call) := h.uses.mp (Array.mem_toList_iff.mp hs)
  exact (h.body.mp (h.mem_body_of_use? hu)).1

end Program.WellFormed

namespace Propagation

variable {p : Program} {π : Policy} {entry : MethodId} {s s' : State}

/-- A bound on the facts that an analysis can find. -/
def factBound (p : Program) (π : Policy) : Nat := 8 * p.span π.bound ^ 2

/-- What a new fact can add to the work that waits. -/
def factCharge (p : Program) (π : Policy) : Nat := factBound p π + 2 * p.extent + 4

/-- The work that waits in a state, and what facts that are not found yet can add to it. -/
noncomputable def State.potential (p : Program) (π : Policy) (s : State) : Nat :=
  s.load p + factCharge p π * (factBound p π - s.facts.ncard)

theorem Moves.ncard_facts_le (hwf : p.WellFormed) (he : p.entry = some entry)
    (h : Moves p π (start π entry) s) : s.facts.ncard ≤ factBound p π := by
  refine (atMost_facts p π.bound).ncard_le fun f hf => ?_
  exact ((h.inside hwf (closed_fits hwf π) he).facts hf).1

theorem potential_lt (hs : s.facts.ncard ≤ factBound p π) (hs' : s'.facts.ncard ≤ factBound p π)
    (h : s'.load p + factCharge p π * s.facts.ncard <
      s.load p + factCharge p π * s'.facts.ncard) :
    s'.potential p π < s.potential p π := by
  have hmul := Nat.mul_le_mul_left (factCharge p π) hs
  have hmul' := Nat.mul_le_mul_left (factCharge p π) hs'
  rw [State.potential, State.potential, Nat.mul_sub, Nat.mul_sub]
  omega

/-- Each move brings the analysis nearer to its end, whichever entry of the queue it takes. -/
theorem Move.potential_lt (hwf : p.WellFormed) (he : p.entry = some entry)
    (hs : Moves p π (start π entry) s) (h : Move p π s s') :
    s'.potential p π < s.potential p π := by
  have hvalid := hs.valid
  have hcard := hs.ncard_facts_le hwf he
  have hcard' := Moves.ncard_facts_le hwf he (hs.tail h)
  have hstmts : p.stmts.size ≤ p.extent := Nat.le_add_left _ _
  refine Propagation.potential_lt hcard hcard' ?_
  cases h with
  | @perform _ task agenda ha h =>
    obtain ⟨hs₀, ht⟩ := hvalid.popTask ha
    have hbody (m : MethodId) : 2 * (p.methodDecl m).stmts.size ≤ factCharge p π := by
      have hsize := hwf.size_body_le m
      rw [factCharge]
      omega
    have hcost : s'.load p + factCharge p π * s.facts.ncard ≤ State.load p { s with agenda } +
        (task.weight p - 1) + factCharge p π * s'.facts.ncard :=
      (State.charged_perform hs₀ ht (Nat.le_add_left 4 _) hbody h).cost
    have hload : s.load p = task.weight p + State.load p { s with agenda } := by
      simp only [State.load, ha, List.map_cons, List.sum_cons, Nat.add_assoc]
    have hpos : 0 < task.weight p := by cases task <;> simp [Task.weight]
    omega
  | @deliver i set queue ha hq =>
    obtain ⟨hs₀, hi, hset⟩ := hvalid.popEntry hq
    have hcharge (v : VarId) : 2 + 2 * (p.varDecl v).calls.size + s.facts.ncard ≤
        factCharge p π := by
      have hsize := hwf.size_calls_le v
      rw [factCharge]
      omega
    have hcost : _ + factCharge p π * s.facts.ncard ≤ State.load p { s with queue } + _ :=
      State.cost_arrive hs₀ hi hset hcharge
    have hload : s.load p = State.load p { s with queue } + 1 := by
      simp only [State.load, hq.length_eq, List.length_cons, Nat.add_assoc]
    omega

section Bound

theorem three_mul_le_two_pow (n : Nat) : 3 * n + 1 ≤ 2 ^ (n + 2) := by
  induction n with
  | zero => decide
  | succ n ih =>
    have hpos := Nat.two_pow_pos n
    rw [Nat.pow_succ, Nat.pow_succ] at ih ⊢
    omega

theorem span_le_two_pow (p : Program) (k : Nat) :
    p.span k ≤ 2 ^ ((k + 2) * (p.extent + 2)) := by
  calc
    p.span k ≤ (2 ^ (p.extent + 2)) ^ k * (2 ^ (p.extent + 2)) ^ 2 :=
      Nat.mul_le_mul (Nat.pow_le_pow_left (three_mul_le_two_pow _) k)
        (Nat.pow_le_pow_left Nat.lt_two_pow_self.le 2)
    _ = 2 ^ ((k + 2) * (p.extent + 2)) := by
      rw [← Nat.pow_mul, ← Nat.pow_mul, ← Nat.pow_add, ← Nat.mul_add, Nat.mul_comm]

theorem factCharge_le (p : Program) (π : Policy) : factCharge p π ≤ 2 * factBound p π := by
  have hspan : p.extent + 2 ≤ p.span π.bound := by
    calc
      p.extent + 2 ≤ (p.extent + 2) ^ 2 := Nat.le_self_pow (by decide) _
      _ ≤ p.span π.bound := Nat.le_mul_of_pos_left _ (Nat.pow_pos (Nat.succ_pos _))
  have hsq : p.span π.bound ≤ p.span π.bound ^ 2 := Nat.le_self_pow (by decide) _
  rw [factCharge, factBound]
  omega

/-- The number of steps that the analysis is given is larger than it needs. -/
theorem work_lt_two_pow (p : Program) (π : Policy) :
    3 + factCharge p π * factBound p π < 2 ^ stepExponent p π := by
  have hM := p.one_le_span π.bound
  have hspan := span_le_two_pow p π.bound
  calc
    3 + factCharge p π * factBound p π ≤ 3 + 2 * factBound p π * factBound p π :=
      Nat.add_le_add_left (Nat.mul_le_mul_right _ (factCharge_le p π)) 3
    _ = 3 + 128 * p.span π.bound ^ 4 := by rw [factBound]; ring
    _ ≤ 2 ^ 8 * p.span π.bound ^ 4 := by
      have hpos : 1 ≤ p.span π.bound ^ 4 := Nat.pow_pos hM
      omega
    _ ≤ 2 ^ 8 * (2 ^ ((π.bound + 2) * (p.extent + 2))) ^ 4 :=
      Nat.mul_le_mul_left _ (Nat.pow_le_pow_left hspan 4)
    _ = 2 ^ (8 + (π.bound + 2) * (p.extent + 2) * 4) := by rw [← Nat.pow_mul, ← Nat.pow_add]
    _ < 2 ^ stepExponent p π := by
      refine Nat.pow_lt_pow_right (by decide) ?_
      change _ < 32 * (π.bound + 1) * (p.extent + 2)
      ring_nf
      omega

theorem potential_start (p : Program) (π : Policy) (entry : MethodId) :
    (start π entry).potential p π = 2 + factCharge p π * factBound p π := by
  have hE := effect_start p π entry
  have hfacts : (start π entry).facts = ∅ := by
    ext f
    rw [hE.facts, facts_empty]
    simp
  have hload : (start π entry).load p = 2 := rfl
  rw [State.potential, hfacts, Set.ncard_empty, hload, Nat.sub_zero]

end Bound

/-- The analysis halts within the number of steps that it is given. -/
theorem halts_of_entry (hwf : p.WellFormed) (he : p.entry = some entry) :
    ∃ outcome, Step.steps (step p π) (2 ^ stepExponent p π - 1) (start π entry) =
      .halt outcome := by
  refine Step.steps_halts (I := Moves p π (start π entry)) (μ := State.potential p π) ?_ .refl ?_
  · intro s s' hs h
    have hmove := move_of_step h
    exact ⟨hs.tail hmove, hmove.potential_lt hwf he hs⟩
  · have hlt := work_lt_two_pow p π
    rw [potential_start]
    omega

section Errors

variable {e : AnalysisError}

theorem callAt_error {site : StmtId} (h : p.callAt site = .error e) : e ≠ .outOfSteps := by
  rintro rfl
  rw [Program.callAt] at h
  split at h <;> cases h

theorem objectAt_error {site : StmtId} (h : p.objectAt site = .error e) : e ≠ .outOfSteps := by
  rintro rfl
  rw [Program.objectAt] at h
  split at h
  · split at h
    · split at h <;> cases h
    · cases h
  · cases h

theorem calleeAt_error {recv : Option ClassId} {site : StmtId}
    (h : p.calleeAt recv site = .error e) : e ≠ .outOfSteps := by
  rintro rfl
  have hat {c : ClassId} {g : Signature} : p.dispatchAt site c g ≠ .error .outOfSteps := by
    intro h
    rw [Program.dispatchAt] at h
    split at h <;> cases h
  rw [Program.calleeAt] at h
  cases hcall : p.callAt site with
  | error e =>
    rw [hcall] at h
    cases h
    exact callAt_error hcall rfl
  | ok call =>
    simp only [hcall, bind, Except.bind] at h
    split at h
    · split at h <;> cases h
    · exact hat h
    · exact hat h
    · exact hat h
    · cases h

/-- No task fails for want of steps. -/
theorem perform_error {t : Task} (h : s.perform p π t = .error e) : e ≠ .outOfSteps := by
  cases t with
  | enter m => cases h
  | exec c st =>
    have hcase := State.exec_case p π s c st
    rw [show s.exec p π c st = .error e from h] at hcase
    cases hcase with
    | noObject hst ho => exact objectAt_error ho
    | noCallee hst hk hc => exact calleeAt_error hc
    | dynamic hst hk => rintro ⟨⟩
  | bindCall site m =>
    change s.bindCall p site m = .error e at h
    rw [State.bindCall] at h
    cases hcall : p.callAt site.id with
    | error e' =>
      rw [hcall] at h
      cases h
      exact callAt_error hcall
    | ok call =>
      simp only [hcall, bind, Except.bind] at h
      split at h <;> cases h
  | receive v o => cases h
  | invoke site o =>
    have hcase := State.invoke_case p π s site o
    rw [show s.invoke p π site o = .error e from h] at hcase
    cases hcase with
    | notCall hcall => exact callAt_error hcall
    | noCallee hst hc => exact calleeAt_error hc

theorem step_error (h : step p π s = .halt (some e, s')) : e ≠ .outOfSteps := by
  rw [step] at h
  split at h
  · next task agenda ha =>
    cases hp : State.perform p π { s with agenda } task with
    | ok s₁ => rw [hp] at h; cases h
    | error e' =>
      rw [hp] at h
      cases h
      exact perform_error hp
  · split at h <;> cases h

end Errors

theorem run_error (hwf : p.WellFormed) (he : p.entry = some entry) {e : AnalysisError}
    (h : run p π entry = (some e, s)) : e ≠ .outOfSteps := by
  obtain ⟨outcome, hhalt⟩ := halts_of_entry (π := π) hwf he
  rw [← Step.run_eq_steps] at hhalt
  rw [run, hhalt] at h
  cases h
  obtain ⟨s', -, hs'⟩ := Step.reaches_of_stretches.2 _ hhalt
  exact step_error hs'

end Propagation

open Propagation in
/-- Every analysis ends, with a solution or with an error. It takes finitely many steps, each of
them with walks up the hierarchy that end by themselves and not at their bounds. -/
theorem analyze_terminates {p : Program} (hp : p.Finished) (hc : p.FiniteChains) (π : Policy) :
    (∀ entry, p.entry = some entry → ∃ n outcome, n < 2 ^ stepExponent p π ∧
      Step.steps (step p π) n (start π entry) = .halt outcome) ∧
    ((∃ r, (analyze p π).1 = .ok r) ∨
      ∃ e, (analyze p π).1 = .error e ∧ e ≠ .outOfSteps) ∧
    ∀ c g fuel, p.classes.size ≤ fuel → p.hierarchy.links.size < fuel →
      p.dispatchWithin fuel c g = p.dispatch c g := by
  have hwf := hp.wellFormed
  refine ⟨fun entry he => ?_, ?_, fun c g fuel => hwf.dispatchWithin_eq hc c g⟩
  · obtain ⟨outcome, h⟩ := halts_of_entry (π := π) hwf he
    exact ⟨_, outcome, Nat.sub_lt (Nat.two_pow_pos _) Nat.one_pos, h⟩
  · cases hr : (analyze p π).1 with
    | ok r => exact .inl ⟨r, rfl⟩
    | error e =>
      refine .inr ⟨e, rfl, ?_⟩
      rcases run_of_analyze hr with ⟨-, rfl⟩ | ⟨entry, s, he, hrun⟩
      · rintro ⟨⟩
      · exact run_error hwf he hrun

theorem boxes_finiteChains : Description.boxes.program.FiniteChains := by
  refine Program.finiteChains_of_lt (fun c => 2 - c.index) fun c hc => ?_
  have hrank : ∀ i < Description.boxes.program.classes.size,
      ∀ sup ∈ (Description.boxes.program.classDecl ⟨i⟩).superclass, 2 - sup.index < 2 - i := by
    decide +kernel
  exact hrank c.index hc

open Propagation in
theorem analyze_terminates_boxes : Description.boxes.program.Finished ∧
    Description.boxes.program.FiniteChains ∧ ∃ n outcome,
      Step.steps (step Description.boxes.program (.callSite 0)) n (start (.callSite 0) ⟨1⟩) =
        .halt outcome := by
  have h := analyze_terminates Description.boxes_finished boxes_finiteChains (.callSite 0)
  obtain ⟨n, outcome, -, hn⟩ := h.1 ⟨1⟩ (by decide +kernel)
  exact ⟨Description.boxes_finished, boxes_finiteChains, n, outcome, hn⟩

end PointsTo
