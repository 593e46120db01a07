import PointsTo.Proofs.Closure

namespace PointsTo

variable {p : Program} {π : Policy} {K : Set Fact}

/-- A variable of a method that `K` reaches, in the same context, or no variable at all. -/
def Location.Housed (p : Program) (K : Set Fact) : Location → Prop
  | var c v => .reach c (p.varDecl v).method ∈ K
  | _ => True

/-- A fact about statements and variables of methods that `K` reaches. -/
def Fact.Housed (p : Program) (K : Set Fact) : Fact → Prop
  | reach .. => True
  | call _ c s _ _ => .reach c (p.container s) ∈ K
  | flow _ y => y.Housed p K
  | pts x _ => x.Housed p K

/-- The housed facts of a family. -/
def housed (p : Program) (K : Set Fact) : Set Fact := {f | f ∈ K ∧ f.Housed p K}

/-- A chore that finds nothing beyond the housed facts of `K`, and leads to such chores only. -/
inductive Chore.Within (p : Program) (π : Policy) (K : Set Fact) : Chore → Prop
  | mk {ch} (ha : ch.asserts p π ⊆ housed p K) (hf : ∀ ch' ∈ ch.follows p, Within p π K ch') :
      Within p π K ch

section Closed

variable (hwf : p.WellFormed) (hK : Closed p π K)
include hwf hK

theorem within_exec {c : Context} {m : MethodId} (hm : .reach c m ∈ K) {s : StmtId}
    (hs : s ∈ (p.methodDecl m).stmts) : (Chore.exec c s).Within p π K := by
  refine ⟨?_, fun _ h => h.elim⟩
  have hcont : p.container s = m := (hwf.body.mp hs).2
  have hvar {v : VarId} (hv : v ∈ (p.stmt s).vars) : (Location.var c v).Housed p K := by
    rw [Location.Housed, (hwf.operand hv).2, hcont]
    exact hm
  intro f hf
  rw [Chore.asserts] at hf
  cases hst : p.stmt s with
  | new x t =>
    simp only [hst] at hf
    obtain ⟨obj, ho, rfl⟩ := hf
    exact ⟨hK _ (.new hm hs hst ho), hvar (by simp [hst, Stmt.vars])⟩
  | copy x y =>
    simp only [hst] at hf
    cases hf
    exact ⟨hK _ (.copy hm hs hst), hvar (by simp [hst, Stmt.vars])⟩
  | load x b g =>
    cases b with
    | none =>
      simp only [hst] at hf
      cases hf
      exact ⟨hK _ (.loadStatic hm hs hst), hvar (by simp [hst, Stmt.vars])⟩
    | some b =>
      simp only [hst] at hf
      exact hf.elim
  | store b g y =>
    cases b with
    | none =>
      simp only [hst] at hf
      cases hf
      exact ⟨hK _ (.storeStatic hm hs hst), trivial⟩
    | some b =>
      simp only [hst] at hf
      exact hf.elim
  | invoke call =>
    simp only [hst] at hf
    obtain ⟨hk, callee, hc, rfl⟩ := hf
    refine ⟨hK _ (.staticCall hm hs hst hk hc), ?_⟩
    rw [Fact.Housed, hcont]
    exact hm
  | arrayLoad | arrayStore | ret =>
    simp only [hst] at hf
    exact hf.elim

theorem within_bindCall {k : CallKind} {c d : Context} {s : StmtId} {m : MethodId}
    (hcall : .call k c s d m ∈ housed p K) : (Chore.bindCall c s d m).Within p π K := by
  refine ⟨?_, fun _ h => h.elim⟩
  rintro f ⟨call, hst, ⟨a, ha, rfl⟩ | ⟨x, hx, v, hv, rfl⟩⟩
  · refine ⟨hK _ (.argument hcall.1 hst ha), ?_⟩
    have hparam : a.2 ∈ (p.methodDecl m).params := Array.mem_toList_iff.mp (List.of_mem_zip ha).2
    change .reach d (p.varDecl a.2).method ∈ K
    rw [(hwf.param hparam).2]
    exact hK _ (.callee hcall.1)
  · refine ⟨hK _ (.result hcall.1 hst hx (Array.mem_toList_iff.mp hv)), ?_⟩
    have hmem : x ∈ (p.stmt s).vars := by simp [hst, Stmt.vars, hx]
    change .reach c (p.varDecl x).method ∈ K
    rw [(hwf.operand hmem).2]
    exact hcall.2

theorem within_invoke {c : Context} {v : VarId} {o : HeapObj}
    (ho : .pts (.var c v) o ∈ housed p K) {s : StmtId} (hs : (p.stmt s).use? = some (v, .call)) :
    (Chore.invoke c s o).Within p π K := by
  refine ⟨?_, fun _ h => h.elim⟩
  have hbody := hwf.mem_body_of_use? hs
  rintro f ⟨call, callee, hst, hcallee, h⟩
  have hb : call.receiver = some v := by simpa [hst, Stmt.use?] using hs
  have hk : call.kind ≠ .static := fun hk => by simp [hwf.receiver hst hk] at hb
  have hcall := hK _ (.instanceCall ho.2 hbody hst hk hb ho.1 hcallee)
  rcases h with ⟨this, ht, rfl⟩ | rfl
  · refine ⟨hK _ (.receiver ho.2 hbody hst hk hb ho.1 hcallee ht), ?_⟩
    rw [Fact.Housed, Location.Housed, (hwf.this ht).2]
    exact hK _ (.callee hcall)
  · refine ⟨hcall, ?_⟩
    rw [Fact.Housed, (hwf.body.mp hbody).2]
    exact ho.2

theorem within_receive {c : Context} {v : VarId} {o : HeapObj}
    (ho : .pts (.var c v) o ∈ housed p K) : (Chore.receive c v o).Within p π K := by
  constructor
  · rintro f ⟨s, hs, hf⟩
    obtain ⟨u, hu, hs⟩ := VarDecl.mem_accesses.mp hs
    have hs := hwf.uses.mp hs
    have hbody := hwf.mem_body_of_use? hs
    have hvar {x : VarId} (hx : x ∈ (p.stmt s).vars) : (Location.var c x).Housed p K := by
      rw [Location.Housed, (hwf.operand hx).2, (hwf.body.mp hbody).2]
      exact ho.2
    cases hst : p.stmt s with
    | load x b g =>
      cases b with
      | none => simp [hst, Stmt.use?] at hs
      | some b =>
        obtain ⟨rfl, -⟩ : b = v ∧ Use.load = u := by simpa [hst, Stmt.use?] using hs
        rw [hst] at hf
        cases hf
        exact ⟨hK _ (.load ho.2 hbody hst ho.1), hvar (by simp [hst, Stmt.vars])⟩
    | store b g y =>
      cases b with
      | none => simp [hst, Stmt.use?] at hs
      | some b =>
        obtain ⟨rfl, -⟩ : b = v ∧ Use.store = u := by simpa [hst, Stmt.use?] using hs
        rw [hst] at hf
        cases hf
        exact ⟨hK _ (.store ho.2 hbody hst ho.1), trivial⟩
    | arrayLoad x b i =>
      obtain ⟨rfl, -⟩ : b = v ∧ Use.arrayLoad = u := by simpa [hst, Stmt.use?] using hs
      rw [hst] at hf
      cases hf
      exact ⟨hK _ (.arrayLoad ho.2 hbody hst ho.1), hvar (by simp [hst, Stmt.vars])⟩
    | arrayStore b i y =>
      obtain ⟨rfl, -⟩ : b = v ∧ Use.arrayStore = u := by simpa [hst, Stmt.use?] using hs
      rw [hst] at hf
      cases hf
      exact ⟨hK _ (.arrayStore ho.2 hbody hst ho.1), trivial⟩
    | new | copy | invoke | ret =>
      rw [hst] at hf
      exact hf.elim
  · rintro _ ⟨s, hs, rfl⟩
    exact within_invoke hwf hK ho (hwf.uses.mp (Array.mem_toList_iff.mp hs))

/-- The chores of a housed fact find nothing but housed facts. -/
theorem within_of_mem {f : Fact} (hf : f ∈ housed p K) {ch : Chore} (hch : ch ∈ f.chores p) :
    ch.Within p π K := by
  cases f with
  | reach c m =>
    obtain ⟨s, hs, rfl⟩ := hch
    exact within_exec hwf hK hf.1 hs
  | call k c s d m =>
    rcases hch with rfl | rfl
    · refine ⟨?_, fun _ h => h.elim⟩
      rintro _ rfl
      exact ⟨hK _ (.callee hf.1), trivial⟩
    · exact within_bindCall hwf hK hf
  | flow x y => exact hch.elim
  | pts x o =>
    cases x with
    | var c v =>
      cases hch
      exact within_receive hwf hK hf
    | _ => exact hch.elim

omit hwf in
theorem along_housed {x y : Location} {o : HeapObj} (hf : .flow x y ∈ housed p K)
    (ho : .pts x o ∈ housed p K) : .pts y o ∈ housed p K :=
  ⟨hK _ (.along hf.1 ho.1), hf.2⟩

end Closed

namespace Propagation

variable {s s' : State}

/-- Nothing in a state is beyond the housed facts of `K`. -/
structure State.Inside (p : Program) (π : Policy) (K : Set Fact) (s : State) : Prop where
  facts : s.facts ⊆ housed p K
  pending : s.pending ⊆ housed p K
  chore {ch} (h : ch ∈ s.chores) : ch.Within p π K

theorem Turn.inside (hwf : p.WellFormed) (hK : Closed p π K) (h : Turn p π s s')
    (hs : s.Inside p π K) : s'.Inside p π K := by
  cases h with
  | work s₀ ch hf hq hc hE =>
    obtain ⟨ha, hfollow⟩ := hs.chore ((hc ch).mpr (.inl rfl))
    have hfacts : s₀.facts ⊆ housed p K := hf ▸ hs.facts
    refine ⟨fun f h => ?_, fun f h => ?_, fun {ch'} h => ?_⟩
    · rcases (hE.facts f).mp h with h | h
      exacts [hfacts h, ha h.1]
    · rcases (hE.pending f).mp h with h | h | ⟨x, y, o, rfl, hxy, -, ho⟩
      exacts [hs.pending (hq ▸ h), ha h.1, along_housed hK (ha hxy) (hfacts ho)]
    · rcases (hE.chores ch').mp h with h | h | ⟨f, hf, -, -, h⟩
      exacts [hs.chore ((hc ch').mpr (.inr h)), hfollow ch' h, within_of_mem hwf hK (ha hf) h]
  | arrive s₀ C hf hq hc hA =>
    have hfacts : s₀.facts ⊆ housed p K := hf ▸ hs.facts
    have hC : C ⊆ housed p K := fun f h => hs.pending ((hq f).mpr (.inl h))
    refine ⟨fun f h => ?_, fun f h => ?_, fun {ch'} h => ?_⟩
    · rcases (hA.facts f).mp h with h | h
      exacts [hfacts h, hC h]
    · rcases (hA.pending f).mp h with h | ⟨x, y, o, rfl, hxy, ho, -⟩
      exacts [hs.pending ((hq f).mpr (.inr h)), along_housed hK (hfacts hxy) (hC ho)]
    · rcases (hA.chores ch').mp h with h | ⟨f, hf, -, h⟩
      exacts [hs.chore (hc ▸ h), within_of_mem hwf hK (hC hf) h]

theorem inside_start (hK : Closed p π K) {entry : MethodId} (he : p.entry = some entry) :
    (start π entry).Inside p π K := by
  have hE := effect_start p π entry
  refine ⟨fun f h => ?_, fun f h => ?_, fun {ch} h => ?_⟩
  · rw [hE.facts, facts_empty] at h
    rcases h with h | h
    exacts [h.elim, h.1.elim]
  · rcases (hE.pending f).mp h with h | h | ⟨x, y, o, -, h, -⟩
    · rw [State.pending] at h
      exact (State.queued_nil ▸ h : f ∈ (∅ : Set Fact)).elim
    exacts [h.1.elim, h.elim]
  · rcases (hE.chores ch).mp h with ⟨t, h, -⟩ | rfl | ⟨f, h, -⟩
    · cases h
    · refine ⟨?_, fun _ h => h.elim⟩
      rintro _ rfl
      exact ⟨hK _ (.entry he), trivial⟩
    · exact h.elim

/-- A run stays inside of every closed family. -/
theorem Moves.inside (hwf : p.WellFormed) (hK : Closed p π K) {entry : MethodId}
    (he : p.entry = some entry) (h : Moves p π (start π entry) s) : s.Inside p π K :=
  (h.invariant (effect_start p π entry).valid (inside_start hK he)
    fun _ _ _ hs ht => ht.inside hwf hK hs).2

end Propagation

/-- The result of an analysis is the least family of facts that is closed under the inclusion
rules. -/
theorem analyze_isLeast {p : Program} (hp : p.Finished) {π : Policy} {r : Solution}
    (h : (analyze p π).1 = .ok r) : IsLeast {K | Closed p π K} r.facts := by
  obtain ⟨entry, s, he, hmoves, hidle, hc, rfl⟩ := Propagation.idle_of_analyze h
  refine ⟨hc.closed hidle hp.wellFormed, fun K hK f hf => ?_⟩
  exact ((hmoves.inside hp.wellFormed hK he).facts hf).1

theorem analyze_isLeast_boxes : ∃ r, Description.boxes.program.Finished ∧
    (analyze Description.boxes.program (.object 2)).1 = .ok r ∧
    IsLeast {K | Closed Description.boxes.program (.object 2) K} r.facts := by
  obtain ⟨r, hr⟩ : ∃ r, (analyze Description.boxes.program (.object 2)).1 = .ok r :=
    exists_of_toOption (by decide +kernel)
  exact ⟨r, Description.boxes_finished, hr, analyze_isLeast Description.boxes_finished hr⟩

end PointsTo
