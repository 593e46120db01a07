import PointsTo.Proofs.Housing

namespace PointsTo

/-- Two stores with the same contexts and objects, under the same identifiers. -/
structure AbstractStore.Agrees (B A : AbstractStore) : Prop where
  contexts : B.contexts = A.contexts
  objects : B.objects = A.objects
  ctxObjects : B.ctxObjects = A.ctxObjects

namespace AbstractStore.Agrees

variable {A B C : AbstractStore}

theorem refl (A : AbstractStore) : A.Agrees A := ⟨rfl, rfl, rfl⟩

theorem trans (h₁ : C.Agrees B) (h₂ : B.Agrees A) : C.Agrees A :=
  ⟨h₁.contexts.trans h₂.contexts, h₁.objects.trans h₂.objects, h₁.ctxObjects.trans h₂.ctxObjects⟩

variable (h : B.Agrees A)
include h

theorem context (c : ContextId) : B.context c = A.context c := by
  rw [AbstractStore.context, h.contexts, AbstractStore.context]

theorem heapContextOf (o : CtxObjId) : B.heapContextOf o = A.heapContextOf o := by
  rw [AbstractStore.heapContextOf, h.context, ctxObject, h.ctxObjects]
  rfl

end AbstractStore.Agrees

/-- The context that a chore can number. -/
inductive Chore.Numbers (p : Program) (π : Policy) : Chore → Context → Prop
  | heap {c st x t} (hst : p.stmt st = .new x t) : Numbers p π (.exec c st) (π.forObject c)
  | staticCall {c st call} (hst : p.stmt st = .invoke call) :
      Numbers p π (.exec c st) (π.forStaticCall c st)
  | instanceCall {c st call o} (hst : p.stmt st = .invoke call) :
      Numbers p π (.invoke c st o) (π.calleeContext c st o)

namespace Propagation.State

variable {p : Program} {π : Policy} {s s' : State} {ch : Chore}

section Agrees

theorem FlowOnly.agrees (h : s.FlowOnly s') : s'.store.Agrees s.store :=
  ⟨h.contexts, h.objects, h.ctxObjects⟩

theorem agrees_addCall (s : State) (k : CallKind) (site : CtxSite) (m : CtxMethod) :
    (s.addCall k site m).store.Agrees s.store := by
  rw [addCall]
  split
  · exact .refl _
  · exact .refl _

theorem agrees_enter (s : State) (p : Program) (m : CtxMethod) :
    (s.enter p m).store.Agrees s.store := by
  simp only [enter]
  split
  · exact .refl _
  · exact .refl _

theorem agrees_arrive (s : State) (i : PointerId) (set : ObjSet) :
    (s.arrive i set).store.Agrees s.store := by
  obtain ⟨sets, h⟩ := store_arrive s i set
  rw [h]
  exact ⟨rfl, rfl, rfl⟩

end Agrees

/-- From `s` to `s'` nothing is numbered but what a chore can number. -/
structure Numbering (p : Program) (π : Policy) (ch : Chore) (s s' : State) : Prop where
  context {c} (hc : s'.store.contexts.values.Holds c) :
    s.store.contexts.values.Holds c ∨ ch.Numbers p π (s'.store.context c)
  heap {o} (ho : s'.store.ctxObjects.values.Holds o) :
    s.store.ctxObjects.values.Holds o ∨ ∃ c, s'.store.heapContextOf o = π.forObject c

theorem Numbering.of_agrees (h : s'.store.Agrees s.store) : Numbering p π ch s s' := by
  refine ⟨fun {c} hc => ?_, fun {o} ho => ?_⟩
  · rw [h.contexts] at hc
    exact .inl hc
  · rw [h.ctxObjects] at ho
    exact .inl ho

theorem Numbering.after {s₁ : State} (h₁ : Numbering p π ch s s₁)
    (h : s'.store.Agrees s₁.store) : Numbering p π ch s s' := by
  refine ⟨fun {c} hc => ?_, fun {o} ho => ?_⟩
  · rw [h.contexts] at hc
    rw [h.context]
    exact h₁.context hc
  · rw [h.ctxObjects] at ho
    rw [h.heapContextOf]
    exact h₁.heap ho

theorem numbering_internContext {D : Context} (hD : ch.Numbers p π D) :
    Numbering p π ch s (s.internContext D).2 := by
  refine ⟨fun {c} hc => ?_, fun {o} ho => .inl ho⟩
  rcases Interner.get?_of_intern (Table.get?_of_holds hc) with hold | ⟨-, -, hnew⟩
  · exact .inl (Table.holds_of_get? hold)
  · have hcontext : (s.internContext D).2.store.context c = D := hnew
    rw [hcontext]
    exact .inr hD

theorem numbering_internObject {c : Context} (hD : ch.Numbers p π (π.forObject c)) (o : Obj) :
    let h := s.internContext (π.forObject c)
    Numbering p π ch s (h.2.internObject h.1 o).2 := by
  intro h
  refine ⟨(numbering_internContext hD).context, fun {u} hu => ?_⟩
  rcases Interner.get?_of_intern (Table.get?_of_holds hu) with hold | ⟨-, -, hnew⟩
  · exact .inl (Table.holds_of_get? hold)
  · refine .inr ⟨c, ?_⟩
    have hobject : (h.2.internObject h.1 o).2.store.ctxObject u = ⟨h.1, _⟩ := hnew
    rw [AbstractStore.heapContextOf, hobject]
    exact AbstractStore.context_internContext _

theorem numbering_exec {c : ContextId} {st : StmtId} (h : s.exec p π c st = .ok s') :
    Numbering p π (.exec (s.store.context c) st) s s' := by
  have hcase := exec_case p π s c st
  rw [h] at hcase
  cases hcase with
  | new hst ho =>
    exact (numbering_internObject (.heap hst) _).after (flowOnly_internPointer _ _).agrees
  | copy hst => exact .of_agrees (flowOnly_connect s _ _).agrees
  | loadStatic hst => exact .of_agrees (flowOnly_connect s _ _).agrees
  | storeStatic hst => exact .of_agrees (flowOnly_connect s _ _).agrees
  | staticCall hst hk hc hd =>
    have h₁ := numbering_internContext (s := s) (.staticCall (π := π) (c := s.store.context c) hst)
    rw [hd] at h₁
    exact h₁.after (agrees_addCall _ _ _ _)
  | wait hst => exact .of_agrees (.refl _)

theorem numbering_invoke {site : CtxSite} {o : CtxObjId} (h : s.invoke p π site o = .ok s') :
    Numbering p π (.invoke (s.store.context site.context) site.id (s.store.heapObj o)) s s' := by
  have hcase := invoke_case p π s site o
  rw [h] at hcase
  cases hcase with
  | @call call callee d s₁ hst hc hd =>
    have h₁ := numbering_internContext (s := s) (.instanceCall (π := π)
      (c := s.store.context site.context) (o := s.store.heapObj o) hst)
    rw [hd] at h₁
    exact (h₁.after (flowOnly_sendReceiver s₁ p d o callee).agrees).after (agrees_addCall _ _ _ _)

theorem numbering_perform {t : Task} (h : s.perform p π t = .ok s') :
    Numbering p π (s.store.chore t) s s' := by
  cases t with
  | enter m =>
    cases h
    exact .of_agrees (agrees_enter s p m)
  | exec c st => exact numbering_exec h
  | bindCall site m => exact .of_agrees (flowOnly_bindCall h).agrees
  | receive v o =>
    cases h
    exact .of_agrees (flowOnly_accesses s p v o).agrees
  | invoke site o => exact numbering_invoke h

end Propagation.State

end PointsTo
