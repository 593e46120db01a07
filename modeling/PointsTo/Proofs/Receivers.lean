import PointsTo.Proofs.CallPaths
import PointsTo.Proofs.Coherence
import PointsTo.Proofs.Representation
import PointsTo.Proofs.SubtypeCalls

namespace PointsTo

/-- The variable that a statement assigns to. -/
def Stmt.target? : Stmt → Option VarId
  | new x _ | copy x _ | load x _ _ | arrayLoad x _ _ => some x
  | invoke call => call.result
  | store .. | arrayStore .. | ret _ => none

variable {p : Program} {π : Policy} {m : MethodId} {this : VarId}

section Least

variable (hp : p.Finished) (hthis : (p.methodDecl m).this = some this)
  (hfree : ∀ s, (p.stmt s).target? ≠ some this)
include hp hthis hfree

/-- Nothing flows into a receiver variable. -/
theorem not_flow_receiver {x : Location} {c : Context} :
    .flow x (.var c this) ∉ leastFacts p π := by
  intro hflow
  cases infers_of_mem_leastFacts hflow with
  | @copy _ _ s _ _ _ _ hst => exact hfree s (by rw [hst]; rfl)
  | @loadStatic _ _ s _ _ _ _ hst => exact hfree s (by rw [hst]; rfl)
  | @load _ _ s _ _ _ _ _ _ hst => exact hfree s (by rw [hst]; rfl)
  | @arrayLoad _ _ s _ _ _ _ _ _ hst => exact hfree s (by rw [hst]; rfl)
  | @argument _ _ _ _ callee _ _ _ _ _ ha =>
    have hparam : this ∈ (p.methodDecl callee).params :=
      Array.mem_toList_iff.mp (List.of_mem_zip ha).2
    have hcallee : callee = m := by
      rw [← (hp.wellFormed.param hparam).2, (hp.wellFormed.this hthis).2]
    rw [hcallee] at hparam
    exact hp.edits.1.represented.this_not_mem_params hthis hparam
  | @result _ _ s _ _ _ _ _ _ hst hx =>
    apply hfree s
    rw [hst]
    exact hx

/-- An object in a receiver variable was called on, and the context is the one of the call. -/
theorem call_of_receiver {c : Context} {o : HeapObj} (h : .pts (.var c this) o ∈ leastFacts p π) :
    ∃ d s call, p.stmt s = .invoke call ∧ p.calleeAt (some o.obj.cls) s = .ok m ∧
      c = π.calleeContext d s o ∧ .call call.kind d s c m ∈ leastFacts p π := by
  cases infers_of_mem_leastFacts h with
  | @new _ _ s _ _ _ _ _ hst => exact (hfree s (by rw [hst]; rfl)).elim
  | along hf => exact (not_flow_receiver hp hthis hfree hf).elim
  | @receiver d _ s call _ _ callee _ hm hs hst hk hb ho hc ht =>
    have hcallee : callee = m := by
      rw [← (hp.wellFormed.this ht).2, (hp.wellFormed.this hthis).2]
    rw [hcallee] at hc
    exact ⟨d, s, call, hst, hc, rfl,
      closed_leastFacts p π _ (.instanceCall hm hs hst hk hb ho hc)⟩

end Least

namespace Solution

variable {r : Solution}

theorem pts_of_varPointeesIn {c : ContextId} {v : VarId} {set : ObjSet} {o : CtxObjId}
    (hset : r.varPointeesIn c v = some set) (ho : set.contains o) :
    .pts (.var (r.store.context c) v) (r.store.heapObj o) ∈ r.facts := by
  obtain ⟨i, hi, rfl⟩ := Option.map_eq_some_iff.mp hset
  refine ⟨i, o, ho, ?_, rfl⟩
  rw [AbstractStore.place, AbstractStore.pointer, Interner.get,
    Table.get_of_get? (AbstractStore.findPointer?_eq_some.mp hi)]
  rfl

/-- The context of a method is made by any object that its receiver variable can be. If the method
is called by dispatch only, then it is the one that the class of the object runs. -/
def MadeByReceiver (r : Solution) (p : Program) (m : MethodId) (this : VarId) (k : Nat)
    (elem : Obj → ContextElem) : Prop :=
  ∀ c set o, r.varPointeesIn c this = some set → set.contains o →
    (r.store.context c).IsRecent k
      ⟨(r.store.heapContextOf o).elems ++ [elem (r.store.objectOf o)]⟩ ∧
    ((∀ e ∈ r.plainCalls.edges, e.callee = m → e.kind.IsDispatched) →
      p.dispatch (r.store.objectOf o).cls (p.methodDecl m).signature = some m)

/-- It is enough to know the context that a call on an object leads to. -/
theorem madeByReceiver (hp : p.Finished) (hthis : (p.methodDecl m).this = some this)
    (hfree : ∀ s, (p.stmt s).target? ≠ some this) (h : (analyze p π).1 = .ok r) {k : Nat}
    {elem : Obj → ContextElem}
    (helem : ∀ c s (o : HeapObj), p.objectAt o.obj.site = .ok o.obj →
      π.calleeContext c s o = o.heap.extend (elem o.obj) k) :
    r.MadeByReceiver p m this k elem := by
  intro c set o hset ho
  have hr := valid_of_analyze h
  have hrun := analyzesTo_analyze hp π
  rw [h] at hrun
  obtain ⟨-, hfacts, -⟩ := hrun.of_ok hp
  have hpts := pts_of_varPointeesIn hset ho
  have hobject := hr.objectAt_of_pts hpts
  rw [hfacts] at hpts
  obtain ⟨d, s, call, hst, hcallee, hcontext, hcall⟩ := call_of_receiver hp hthis hfree hpts
  rw [helem d s _ hobject] at hcontext
  refine ⟨?_, ?_⟩
  · rw [hcontext]
    exact Context.isRecent_recent k _
  · intro hdispatched
    rw [← hfacts] at hcall
    have hkind : call.kind.IsDispatched :=
      hdispatched _ ((r.plainCalls_spec.2 call.kind s m).mpr ⟨d, _, hcall⟩) rfl
    have hdispatch := Program.dispatch_of_calleeAt_dispatched hst hkind hcallee
    obtain ⟨call', hst', hsignature, -⟩ := hp.listed.of_calleeAt hcallee
    rw [hst] at hst'
    cases hst'
    rw [hsignature]
    exact hdispatch

end Solution

/-- The receiver of a method that does not assign to it makes its context: with object sensitivity
by the allocation site, and with type sensitivity by the class that contains the allocation. -/
theorem analyze_receiver_contexts {p : Program} (hp : p.Finished) {m : MethodId} {this : VarId}
    (hthis : (p.methodDecl m).this = some this) (hfree : ∀ s, (p.stmt s).target? ≠ some this)
    (k : Nat) :
    (∀ r, (analyze p (.object k)).1 = .ok r →
      r.MadeByReceiver p m this k fun o => .alloc o.site) ∧
    ∀ r, (analyze p (.type k)).1 = .ok r →
      r.MadeByReceiver p m this k fun o => .type (p.methodDecl (p.container o.site)).cls := by
  refine ⟨fun r h => ?_, fun r h => ?_⟩
  · exact Solution.madeByReceiver hp hthis hfree h fun _ _ _ _ => rfl
  · refine Solution.madeByReceiver hp hthis hfree h fun c s o ho => ?_
    obtain ⟨-, -, hclass⟩ := Program.of_objectAt ho
    rw [← hclass]
    rfl

/-- A method that allocates objects of its own class, called on what it has allocated. -/
def Description.chain : Description where
  entry := some { cls := "Node", method := "main()V" }
  classes := [
    { name := "Node"
      methods := [
        { signature := "next()LNode;"
          locals := [{ name := "x", type := "LNode;" }]
          body := [.new "x" "LNode;", .ret (some "x")] },
        { signature := "main()V"
          isStatic := true
          locals := [{ name := "a", type := "LNode;" }, { name := "b", type := "LNode;" }]
          body := [.new "a" "LNode;",
            .invoke .virtual "Node.next()LNode;" (some "a") [] (some "b"),
            .invoke .virtual "Node.next()LNode;" (some "b") [] (some "b")] }] }]

theorem Description.chain_finished : chain.program.Finished := program_finished (by decide +kernel)

/-- An object that was allocated in the context of another is the receiver in a context of two
elements. -/
theorem analyze_receiver_contexts_chain : ∃ r set o,
    (analyze Description.chain.program (.object 2)).1 = .ok r ∧
    r.varPointeesIn ⟨4⟩ ⟨0⟩ = some set ∧ set.contains o ∧
    r.store.context ⟨4⟩ = ⟨[.alloc ⟨0⟩, .alloc ⟨0⟩]⟩ ∧
    Context.IsRecent 2 ⟨[.alloc ⟨0⟩, .alloc ⟨0⟩]⟩
      ⟨(r.store.heapContextOf o).elems ++ [.alloc (r.store.objectOf o).site]⟩ ∧
    Description.chain.program.dispatch (r.store.objectOf o).cls
      (Description.chain.program.methodDecl ⟨0⟩).signature = some ⟨0⟩ := by
  let p := Description.chain.program
  have hthis : (p.methodDecl ⟨0⟩).this = some ⟨0⟩ := by decide +kernel
  have hfree : ∀ s, (p.stmt s).target? ≠ some ⟨0⟩ := by
    intro s
    by_cases hs : p.stmts.Holds s
    · have hall : ∀ s ∈ p.stmts.ids, (p.stmt s).target? ≠ some ⟨0⟩ := by decide +kernel
      exact hall s (Table.mem_ids.mpr hs)
    · rw [Program.stmt, Table.get_of_not_holds hs]
      intro h
      cases h
  obtain ⟨r, hr, hvalue⟩ := exists_of_toOption_map
    (b := (some ⟨4⟩, ⟨[.alloc ⟨0⟩, .alloc ⟨0⟩]⟩, true))
    (x := (analyze Description.chain.program (.object 2)).1)
    (f := fun r => (r.varPointeesIn ⟨4⟩ ⟨0⟩, r.store.context ⟨4⟩,
      r.plainCalls.edges.toList.all (·.kind = .virtual))) (by decide +kernel)
  obtain ⟨hset, hrest⟩ := Prod.mk.inj hvalue
  obtain ⟨hcontext, hvirtual⟩ := Prod.mk.inj hrest
  obtain ⟨hmade, -⟩ :=
    analyze_receiver_contexts Description.chain_finished hthis hfree 2
  obtain ⟨hrecent, hdispatch⟩ := hmade r hr ⟨4⟩ ⟨4⟩ ⟨2⟩ hset (by decide)
  rw [hcontext] at hrecent
  have hcalls : ∀ e ∈ r.plainCalls.edges, e.callee = ⟨0⟩ → e.kind.IsDispatched := by
    intro e he _
    exact .inl (of_decide_eq_true
      (List.all_eq_true.mp hvirtual e (Std.TreeSet.mem_toList.mpr he)))
  exact ⟨r, ⟨4⟩, ⟨2⟩, hr, hset, by decide, hcontext, hrecent, hdispatch hcalls⟩

end PointsTo
