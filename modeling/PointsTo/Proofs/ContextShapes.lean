import PointsTo.Proofs.Grounding
import PointsTo.Proofs.Numbering
import PointsTo.Proofs.Receivers

namespace PointsTo

/-- A context with at most `k` elements, for each of which `P` holds. -/
structure Context.MadeOf (P : ContextElem → Prop) (k : Nat) (c : Context) : Prop where
  length : c.elems.length ≤ k
  elem : ∀ e ∈ c.elems, P e

namespace Context

variable {P Q : ContextElem → Prop} {j k : Nat} {c : Context}

theorem MadeOf.mono (hPQ : ∀ e, P e → Q e) (h : c.MadeOf P k) : c.MadeOf Q k :=
  ⟨h.length, fun e he => hPQ e (h.elem e he)⟩

theorem madeOf_empty (P : ContextElem → Prop) (k : Nat) : empty.MadeOf P k :=
  ⟨Nat.zero_le k, fun _ he => by cases he⟩

theorem madeOf_recent (k : Nat) (h : ∀ e ∈ c.elems, P e) : (c.recent k).MadeOf P k := by
  constructor
  · rw [recent, List.length_drop]
    omega
  · intro e he
    exact h e (List.mem_of_mem_drop he)

theorem madeOf_extend (k : Nat) {e : ContextElem} (h : ∀ e ∈ c.elems, P e) (he : P e) :
    (c.extend e k).MadeOf P k := by
  apply madeOf_recent
  intro d hd
  rcases List.mem_append.mp hd with hd | hd
  · exact h d hd
  · rw [List.mem_singleton.mp hd]
    exact he

theorem MadeOf.eq_empty (h : c.MadeOf P 0) : c = empty := by
  apply Context.ext
  exact List.eq_nil_of_length_eq_zero (Nat.le_zero.mp h.length)

/-- Objects are told apart by one element fewer than methods. -/
theorem madeOf_forObject (π : Policy) (h : ∀ e ∈ c.elems, P e) :
    (π.forObject c).MadeOf P (π.bound - 1) := by
  cases π with
  | insensitive => exact madeOf_empty P 0
  | callSite k | object k | type k => exact madeOf_recent (k - 1) h

end Context

namespace Propagation

variable {p : Program} {π : Policy} {entry : MethodId} {s s' : State}

/-- What an element of a context stands for: a call site of a reachable method, the allocation site
of a numbered object or the class whose code allocates one, depending on the policy. -/
def State.Names (p : Program) (s : State) : Policy → ContextElem → Prop
  | .callSite _, .call site => (∃ call, p.stmt site = .invoke call) ∧
      ∃ m ∈ s.calls.reachable, site ∈ (p.methodDecl m.id).stmts
  | .object _, .alloc site => (∃ x t, p.stmt site = .new x t) ∧
      ∃ o, s.store.ctxObjects.values.Holds o ∧ (s.store.objectOf o).site = site
  | .type _, .type cls => ∃ o, s.store.ctxObjects.values.Holds o ∧
      (p.methodDecl (p.container (s.store.objectOf o).site)).cls = cls
  | _, _ => False

theorem State.Names.mono (hs : s.Valid p) (hfacts : s.facts ⊆ s'.facts)
    (hstore : s'.store.Extends s.store) {e : ContextElem} (h : s.Names p π e) : s'.Names p π e := by
  have hobject {o : CtxObjId} (ho : s.store.ctxObjects.values.Holds o) :
      s'.store.objectOf o = s.store.objectOf o :=
    congrArg HeapObj.obj (hstore.heapObj hs.store ho)
  cases π with
  | insensitive => exact h.elim
  | callSite k =>
    cases e with
    | call site =>
      obtain ⟨hst, m, hm, hsite⟩ := h
      obtain ⟨q, hq, -, hid⟩ := hfacts (a := .reach _ m.id) ⟨m, hm, rfl, rfl⟩
      rw [← hid] at hsite
      exact ⟨hst, q, hq, hsite⟩
    | _ => exact h.elim
  | object k =>
    cases e with
    | alloc site =>
      obtain ⟨hst, o, ho, hsite⟩ := h
      rw [← hobject ho] at hsite
      exact ⟨hst, o, hstore.ctxObjects.holds ho, hsite⟩
    | _ => exact h.elim
  | type k =>
    cases e with
    | type cls =>
      obtain ⟨o, ho, hcls⟩ := h
      rw [← hobject ho] at hcls
      exact ⟨o, hstore.ctxObjects.holds ho, hcls⟩
    | _ => exact h.elim

theorem Move.extends (hs : s.Valid p) (h : Move p π s s') : s'.store.Extends s.store := by
  cases h with
  | perform ha h =>
    obtain ⟨hs₀, ht⟩ := hs.popTask ha
    exact (State.effect_perform hs₀ ht h).1.store
  | @deliver i set queue ha hq =>
    obtain ⟨sets, hstore⟩ := store_arrive { s with queue } i set
    rw [hstore]
    exact ⟨.refl _, .refl _, .refl _, .refl _⟩

theorem Moves.extends (h : Moves p π (start π entry) s) :
    s.store.Extends (start π entry).store := by
  induction h with
  | refl => exact .refl _
  | tail hprev hmove ih => exact (hmove.extends (Moves.valid hprev)).trans ih

/-- All contexts of a state are made of what the policy adds. -/
structure State.Shaped (p : Program) (π : Policy) (s : State) : Prop where
  context {c} (hc : s.store.contexts.values.Holds c) :
    (s.store.context c).MadeOf (s.Names p π) π.bound
  heap {o} (ho : s.store.ctxObjects.values.Holds o) :
    (s.store.heapContextOf o).elems.length ≤ π.bound - 1

theorem State.Shaped.heapContextOf (h : s.Shaped p π) (hs : s.Valid p) {o : CtxObjId}
    (ho : s.store.ctxObjects.values.Holds o) :
    (s.store.heapContextOf o).MadeOf (s.Names p π) (π.bound - 1) := by
  have hcontext := (hs.store.ctxObject (Table.get?_of_holds ho)).1
  exact ⟨h.heap ho, (h.context hcontext).elem⟩

theorem State.Shaped.forStaticCall (h : s.Shaped p π) {c : ContextId} {st : StmtId}
    (hc : s.store.contexts.values.Holds c)
    (hsite : ∀ k, s.Names p (.callSite k) (.call st)) :
    (π.forStaticCall (s.store.context c) st).MadeOf (s.Names p π) π.bound := by
  have hcontext := h.context hc
  cases π with
  | insensitive => exact Context.madeOf_empty _ _
  | callSite k => exact Context.madeOf_extend k hcontext.elem (hsite k)
  | object k | type k => exact hcontext

section Step

variable (hs : s.Valid p) (hshaped : s.Shaped p π)
include hs hshaped

theorem madeOf_calleeContext {c : ContextId} {st : StmtId} {o : CtxObjId}
    (hc : s.store.contexts.values.Holds c) (ho : s.store.ctxObjects.values.Holds o)
    (hsite : ∀ k, s.Names p (.callSite k) (.call st)) :
    (π.calleeContext (s.store.context c) st (s.store.heapObj o)).MadeOf (s.Names p π) π.bound := by
  have hheap := (hshaped.heapContextOf hs ho).elem
  have hobject := hs.store.object
    (Table.get?_of_holds (hs.store.ctxObject (Table.get?_of_holds ho)).2)
  obtain ⟨⟨x, name, hst, -⟩, -, hcls⟩ := Program.of_objectAt hobject
  cases π with
  | insensitive => exact Context.madeOf_empty _ _
  | callSite k => exact Context.madeOf_extend k (hshaped.context hc).elem (hsite k)
  | object k => exact Context.madeOf_extend k hheap ⟨⟨x, _, hst⟩, o, ho, rfl⟩
  | type k => exact Context.madeOf_extend k hheap ⟨o, ho, hcls.symm⟩

/-- The context that a task numbers is made of names, if the task is due. -/
theorem madeOf_of_numbers (hwf : p.WellFormed) {t : Task} (ht : s.store.HasTask t)
    (hdue : (s.store.chore t).Due p s.facts) {d : Context}
    (hd : (s.store.chore t).Numbers p π d) : d.MadeOf (s.Names p π) π.bound := by
  have hsite {c m st call} (hst : p.stmt st = .invoke call) (hm : .reach c m ∈ s.facts)
      (hbody : st ∈ (p.methodDecl m).stmts) (k : Nat) :
      s.Names p (.callSite k) (.call st) := by
    obtain ⟨q, hq, -, rfl⟩ := hm
    exact ⟨⟨call, hst⟩, q, hq, hbody⟩
  cases t with
  | exec c st =>
    obtain ⟨m, hm, hbody⟩ := hdue
    rw [AbstractStore.chore] at hd
    cases hd with
    | heap hst =>
      have h := Context.madeOf_forObject π (hshaped.context ht).elem
      exact ⟨h.length.trans (Nat.sub_le _ 1), h.elem⟩
    | staticCall hst => exact hshaped.forStaticCall ht (hsite hst hm hbody)
  | invoke site o =>
    obtain ⟨v, hv, hcall⟩ := hdue
    have huse : (p.stmt site.id).use? = some (v, .call) := hwf.uses.mp hcall
    have hbody := hwf.mem_body_of_use? huse
    rw [AbstractStore.chore] at hd
    cases hd with
    | instanceCall hst =>
      exact madeOf_calleeContext hs hshaped ht.1 ht.2 (hsite hst hv.2 hbody)
  | enter m =>
    rw [AbstractStore.chore] at hd
    cases hd
  | bindCall site m =>
    rw [AbstractStore.chore] at hd
    cases hd
  | receive v o =>
    rw [AbstractStore.chore] at hd
    cases hd

theorem Move.shaped (hwf : p.WellFormed) (hgrounded : s.Grounded p) (h : Move p π s s') :
    s'.Shaped p π := by
  have hstore := h.extends hs
  have hmono (e : ContextElem) (he : s.Names p π e) : s'.Names p π e :=
    he.mono hs (h.turn hs).facts_subset hstore
  cases h with
  | @perform _ task agenda ha h =>
    obtain ⟨-, ht⟩ := hs.popTask ha
    have hnumbering := State.numbering_perform h
    have hdue := hgrounded.due ⟨task, ha ▸ List.mem_cons_self, rfl⟩
    refine ⟨fun {c} hc => ?_, fun {o} ho => ?_⟩
    · rcases hnumbering.context hc with hold | hnew
      · rw [hstore.context hold]
        exact (hshaped.context hold).mono hmono
      · exact (madeOf_of_numbers hs hshaped hwf ht hdue hnew).mono hmono
    · rcases hnumbering.heap ho with hold | ⟨c, hc⟩
      · have hheap : s'.store.heapContextOf o = s.store.heapContextOf o :=
          congrArg HeapObj.heap (hstore.heapObj hs.store hold)
        rw [hheap]
        exact hshaped.heap hold
      · rw [hc]
        exact (Context.madeOf_forObject (P := fun _ => True) π fun _ _ => trivial).length
  | @deliver i set queue ha hq =>
    have hagrees := State.agrees_arrive { s with queue } i set
    refine ⟨fun {c} hc => ?_, fun {o} ho => ?_⟩
    · rw [hagrees.contexts] at hc
      rw [hagrees.context]
      exact (hshaped.context hc).mono hmono
    · rw [hagrees.ctxObjects] at ho
      rw [hagrees.heapContextOf]
      exact hshaped.heap ho

end Step

theorem shaped_start (p : Program) (π : Policy) (entry : MethodId) :
    (start π entry).Shaped p π := by
  refine ⟨fun {c} hc => ?_, fun {o} ho => (Nat.not_lt_zero _ ho).elim⟩
  let contexts : Interner .context Context Context.key := .empty
  have hc : (contexts.intern .empty).2.values.Holds c := hc
  rcases Interner.get?_of_intern (Table.get?_of_holds hc) with hold | ⟨-, -, hnew⟩
  · exact (Nat.not_lt_zero _ (Table.holds_of_get? hold)).elim
  · have hcontext : (start π entry).store.context c = .empty := hnew
    rw [hcontext]
    exact Context.madeOf_empty _ _

theorem Moves.shaped (hwf : p.WellFormed) (he : p.entry = some entry)
    (h : Moves p π (start π entry) s) : s.Shaped p π := by
  induction h with
  | refl => exact shaped_start p π entry
  | tail hprev hmove ih =>
    exact hmove.shaped (Moves.valid hprev) ih hwf (Moves.grounded hwf he hprev)

section BoundZero

variable (hwf : p.WellFormed) (he : p.entry = some entry) (hπ : π.bound = 0)
  (h : Moves p π (start π entry) s)
include hwf he hπ h

/-- With bound zero there is no context but the empty one. -/
theorem Moves.context_eq_empty (c : ContextId) : s.store.context c = .empty := by
  by_cases hc : s.store.contexts.values.Holds c
  · have hmade := (h.shaped hwf he).context hc
    rw [hπ] at hmade
    exact hmade.eq_empty
  · rw [AbstractStore.context, Interner.get, Table.get_of_not_holds hc]
    rfl

theorem Moves.contexts_toList : s.store.contexts.values.toList = [.empty] := by
  have hempty := h.context_eq_empty hwf he hπ
  have hfirst : s.store.contexts.values.Holds ⟨0⟩ := h.extends.contexts.holds (Nat.zero_lt_one)
  have hlength : s.store.contexts.values.toList.length = 1 := by
    by_contra hne
    have hpos : 0 < s.store.contexts.values.toList.length := hfirst
    have hsecond : s.store.contexts.values.Holds ⟨1⟩ := by
      change 1 < s.store.contexts.values.toList.length
      omega
    have hid := AbstractStore.Valid.context_injective hfirst hsecond
      ((hempty ⟨0⟩).trans (hempty ⟨1⟩).symm)
    cases hid
  obtain ⟨c, hc⟩ := List.length_eq_one_iff.mp hlength
  have hmem : c ∈ s.store.contexts.values.toList := by
    rw [hc]
    exact List.mem_singleton_self c
  obtain ⟨i, hi⟩ := Table.mem_toList.mp hmem
  have hcontext : s.store.context i = c := Table.get_of_get? hi
  rw [hc, ← hcontext, hempty]

end BoundZero

/-- In every state of a run the contexts are no longer than the policy allows, those of objects one
shorter, and all their elements are of the policy's own kind and name what the run has found. -/
theorem contexts_of_reaches (hp : p.Finished) (he : p.entry = some entry)
    (h : Step.Reaches (step p π) (start π entry) s) :
    (∀ m ∈ s.calls.reachable, (s.store.context m.context).MadeOf (s.Names p π) π.bound) ∧
    (∀ o, s.store.ctxObjects.values.Holds o →
      (s.store.heapContextOf o).MadeOf (s.Names p π) (π.bound - 1)) ∧
    (π = .insensitive → s.store.contexts.values.toList = [.empty]) := by
  have hmoves := moves_of_reaches h
  have hs := hmoves.valid
  have hshaped := hmoves.shaped hp.wellFormed he
  refine ⟨fun m hm => ?_, fun o ho => ?_, fun hπ => ?_⟩
  · exact hshaped.context (hs.reachable hm)
  · exact hshaped.heapContextOf hs ho
  · subst hπ
    exact hmoves.contexts_toList hp.wellFormed he rfl

/-- With two objects to a context, both name the allocation in the method that is called. -/
theorem contexts_of_reaches_chain : ∃ entry s m,
    Description.chain.program.entry = some entry ∧
    Step.Reaches (step Description.chain.program (.object 2)) (start (.object 2) entry) s ∧
    m ∈ s.calls.reachable ∧ s.store.context m.context = ⟨[.alloc ⟨0⟩, .alloc ⟨0⟩]⟩ ∧
    (s.store.context m.context).MadeOf (s.Names Description.chain.program (.object 2)) 2 := by
  obtain ⟨r, hr, hany⟩ := exists_of_toOption_map (b := true)
    (x := (analyze Description.chain.program (.object 2)).1)
    (f := fun r => r.calls.reachable.toList.any fun m =>
      r.store.context m.context = ⟨[.alloc ⟨0⟩, .alloc ⟨0⟩]⟩) (by decide +kernel)
  obtain ⟨m, hm, hcontext⟩ := List.any_eq_true.mp hany
  obtain ⟨entry, s, he, hs, -, -, rfl⟩ := reaches_of_analyze hr
  have hm := Array.mem_toList_iff.mp hm
  exact ⟨entry, s, m, he, hs, hm, of_decide_eq_true hcontext,
    (contexts_of_reaches Description.chain_finished he hs).1 m hm⟩

end Propagation

end PointsTo
