import Mathlib.Order.SetNotation
import PointsTo.Proofs.Leastness

namespace PointsTo

variable {p : Program} {π : Policy} {K L : Set Fact}

/-- More facts have more consequences. -/
theorem Infers.mono (hKL : K ⊆ L) {f : Fact} (h : Infers p π K f) : Infers p π L f := by
  cases h with
  | entry h => exact .entry h
  | new hm hs h ho => exact .new (hKL hm) hs h ho
  | copy hm hs h => exact .copy (hKL hm) hs h
  | loadStatic hm hs h => exact .loadStatic (hKL hm) hs h
  | storeStatic hm hs h => exact .storeStatic (hKL hm) hs h
  | load hm hs h ho => exact .load (hKL hm) hs h (hKL ho)
  | store hm hs h ho => exact .store (hKL hm) hs h (hKL ho)
  | arrayLoad hm hs h ho => exact .arrayLoad (hKL hm) hs h (hKL ho)
  | arrayStore hm hs h ho => exact .arrayStore (hKL hm) hs h (hKL ho)
  | staticCall hm hs h hk hc => exact .staticCall (hKL hm) hs h hk hc
  | instanceCall hm hs h hk hb ho hc => exact .instanceCall (hKL hm) hs h hk hb (hKL ho) hc
  | receiver hm hs h hk hb ho hc ht => exact .receiver (hKL hm) hs h hk hb (hKL ho) hc ht
  | callee h => exact .callee (hKL h)
  | argument hc h ha => exact .argument (hKL hc) h ha
  | result hc h hx hv => exact .result (hKL hc) h hx hv
  | along hf ho => exact .along (hKL hf) (hKL ho)

/-- The facts that are in every family that is closed under the inclusion rules. -/
def leastFacts (p : Program) (π : Policy) : Set Fact := ⋂₀ {K | Closed p π K}

theorem leastFacts_subset (hK : Closed p π K) : leastFacts p π ⊆ K := fun _ hf => hf K hK

theorem closed_leastFacts (p : Program) (π : Policy) : Closed p π (leastFacts p π) := by
  intro f hf K hK
  exact hK f (hf.mono (leastFacts_subset hK))

theorem isLeast_leastFacts (p : Program) (π : Policy) :
    IsLeast {K | Closed p π K} (leastFacts p π) :=
  ⟨closed_leastFacts p π, fun _ hK => leastFacts_subset hK⟩

/-- No fact is there without a rule that gives it. -/
theorem infers_of_mem_leastFacts {f : Fact} (hf : f ∈ leastFacts p π) :
    Infers p π (leastFacts p π) f := by
  -- what the rules give is closed in its turn, as it does not go beyond the family
  have hclosed : Closed p π {g | Infers p π (leastFacts p π) g} := by
    intro g hg
    exact hg.mono (closed_leastFacts p π)
  exact leastFacts_subset hclosed hf

/-- What each rule keeps true, assuming it of the facts that the rule uses, is true of all facts. -/
theorem leastFacts_induction {P : Fact → Prop}
    (h : ∀ f, Infers p π {g | g ∈ leastFacts p π ∧ P g} f → P f) {f : Fact}
    (hf : f ∈ leastFacts p π) : P f := by
  have hclosed : Closed p π {g | g ∈ leastFacts p π ∧ P g} := by
    intro g hg
    constructor
    · exact closed_leastFacts p π g (hg.mono fun _ hg => hg.1)
    · exact h g hg
  exact (leastFacts_subset hclosed hf).2

namespace Propagation

variable {entry : MethodId} {s : State}

theorem Moves.complete (he : p.entry = some entry) (h : Moves p π (start π entry) s) :
    s.Complete p π :=
  (h.invariant (effect_start p π entry).valid (complete_start he)
    fun _ _ _ hs ht => ht.complete hs).2

/-- A run with nothing left to do has found the least family. -/
theorem Moves.facts_eq (hwf : p.WellFormed) (he : p.entry = some entry)
    (h : Moves p π (start π entry) s) (hidle : s.Idle) : s.facts = leastFacts p π := by
  apply Set.Subset.antisymm
  · intro f hf
    exact ((h.inside hwf (closed_leastFacts p π) he).facts hf).1
  · exact leastFacts_subset ((h.complete he).closed hidle hwf)

end Propagation

end PointsTo
