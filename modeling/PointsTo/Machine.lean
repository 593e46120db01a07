/-!
Running a step function until it halts. The number of steps is bounded by a power of two whose
exponent can be as large as one likes: the runner tries ever longer stretches of steps, and pays
only for those it takes.
-/
namespace PointsTo

/-- A machine goes on from a state or halts with a result. -/
inductive Step (σ ρ : Type) where
  | next (state : σ)
  | halt (result : ρ)
deriving DecidableEq, Repr

namespace Step

variable {σ ρ : Type}

/-- Takes up to `2 ^ n` steps. -/
def stretch (step : σ → Step σ ρ) : (n : Nat) → σ → Step σ ρ
  | 0, s => step s
  | n + 1, s =>
    match stretch step n s with
    | next s => stretch step n s
    | halt r => halt r

/-- Takes stretches of `2 ^ n`, `2 ^ (n + 1)` and so on, up to `rounds` of them. -/
def stretches (step : σ → Step σ ρ) : (rounds n : Nat) → σ → Step σ ρ
  | 0, _, s => next s
  | rounds + 1, n, s =>
    match stretch step n s with
    | next s => stretches step rounds (n + 1) s
    | halt r => halt r

/-- Takes up to `2 ^ rounds - 1` steps. -/
def run (step : σ → Step σ ρ) (rounds : Nat) (s : σ) : Step σ ρ := stretches step rounds 0 s

end Step

end PointsTo
