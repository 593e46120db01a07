import Mathlib.Data.Set.Card
import PointsTo.Proofs.Runs

namespace PointsTo.Propagation

/-- The steps that a task can take without any new fact: one for itself, one for an object that it
sends, and the calls on an object that it receives. -/
def Task.weight (p : Program) : Task → Nat
  | receive v _ => 2 + 2 * (p.varDecl v.id).calls.size
  | _ => 2

namespace State

variable {p : Program} {π : Policy} {s s' s'' : State} {W m n : Nat}

def load (p : Program) (s : State) : Nat :=
  (s.agenda.map (Task.weight p)).sum + s.queue.toList.length

theorem load_plan (tasks : List Task) :
    (s.plan tasks).load p = (tasks.map (Task.weight p)).sum + s.load p := by
  simp [load, plan, Nat.add_assoc]

theorem load_send (i : PointerId) (set : ObjSet) : (s.send i set).load p = s.load p + 1 := by
  simp [load, send, Queue.toList_push, Nat.add_assoc]

theorem finite_facts (s : State) : s.facts.Finite := by
  let pointees : Set (PointerId × CtxObjId) := {q | (s.store.pointees q.1).contains q.2}
  have hpointees : pointees.Finite := by
    let ids : List PointerId := (List.range s.store.sets.size).map Id.mk
    refine (ids.flatMap fun i => (s.store.pointees i).toList.map (i, ·)).finite_toSet.subset ?_
    intro q hq
    have hi : s.store.sets.Holds q.1 := by
      by_contra hn
      simp [pointees, AbstractStore.pointees, Table.get_of_not_holds hn, default] at hq
    refine List.mem_flatMap.mpr ⟨q.1, ?_, List.mem_map.mpr ⟨q.2, ObjSet.mem_toList.mpr hq, rfl⟩⟩
    exact List.mem_map.mpr ⟨q.1.index, List.mem_range.mpr hi, rfl⟩
  have hreach := (s.calls.reachable.toList.finite_toSet).image
    fun q => Fact.reach (s.store.context q.context) q.id
  have hcall := (s.calls.edges.toList.finite_toSet).image fun e => Fact.call e.kind
    (s.store.context e.site.context) e.site.id (s.store.context e.callee.context) e.callee.id
  have hflow := (s.flow.edges.toList.finite_toSet).image
    fun e => Fact.flow (s.store.place e.1) (s.store.place e.2)
  have hpts := hpointees.image fun q => Fact.pts (s.store.place q.1) (s.store.heapObj q.2)
  refine (((hreach.union hcall).union hflow).union hpts).subset fun f hf => ?_
  cases f with
  | reach c m =>
    obtain ⟨q, hq, rfl, rfl⟩ := hf
    exact .inl (.inl (.inl ⟨q, Array.mem_toList_iff.mpr hq, rfl⟩))
  | call k c st d m =>
    obtain ⟨e, he, rfl, rfl, rfl, rfl, rfl⟩ := hf
    exact .inl (.inl (.inr ⟨e, Std.TreeSet.mem_toList.mpr he, rfl⟩))
  | flow x y =>
    obtain ⟨i, j, hij, rfl, rfl⟩ := hf
    exact .inl (.inr ⟨(i, j), Array.mem_toList_iff.mpr hij, rfl⟩)
  | pts x o =>
    obtain ⟨i, u, hu, rfl, rfl⟩ := hf
    exact .inr ⟨(i, u), hu, rfl⟩

/-- From `s` to `s'` no more is added to the work than `n`, and `W` for each new fact. -/
structure Charged (p : Program) (W : Nat) (s s' : State) (n : Nat) : Prop where
  valid : s'.Valid p
  store : s'.store.Extends s.store
  cost : s'.load p + W * s.facts.ncard ≤ s.load p + n + W * s'.facts.ncard

namespace Charged

theorem trans (h₁ : Charged p W s s' m) (h₂ : Charged p W s' s'' n) :
    Charged p W s s'' (m + n) := by
  refine ⟨h₂.valid, h₂.store.trans h₁.store, ?_⟩
  have hc₁ := h₁.cost
  have hc₂ := h₂.cost
  omega

theorem mono (h : Charged p W s s' m) (hmn : m ≤ n) : Charged p W s s' n := by
  refine ⟨h.valid, h.store, ?_⟩
  have hc := h.cost
  omega

/-- What is added is paid for apart from any facts. -/
theorem of_effect {C : Set Fact} {N : Set Chore} (hE : Effect p s s' C N)
    (hload : s'.load p ≤ s.load p + n) : Charged p W s s' n := by
  refine ⟨hE.valid, hE.store, ?_⟩
  have hcard := Nat.mul_le_mul_left W (Set.ncard_le_ncard hE.facts_subset s'.finite_facts)
  omega

theorem refl (hs : s.Valid p) : Charged p W s s 0 := of_effect (.refl hs) le_rfl

/-- What is added is paid for by a new fact. -/
theorem of_new {C : Set Fact} {N : Set Chore} (hE : Effect p s s' C N) {f : Fact}
    (hf : f ∈ s'.facts) (hnew : f ∉ s.facts) (hload : s'.load p ≤ s.load p + W) :
    Charged p W s s' 0 := by
  refine ⟨hE.valid, hE.store, ?_⟩
  have hsub : insert f s.facts ⊆ s'.facts := Set.insert_subset hf hE.facts_subset
  have hcard : s.facts.ncard + 1 ≤ s'.facts.ncard := by
    rw [← Set.ncard_insert_of_notMem hnew s.finite_facts]
    exact Set.ncard_le_ncard hsub s'.finite_facts
  have hmul := Nat.mul_le_mul_left W hcard
  rw [Nat.mul_add] at hmul
  omega

theorem foldl {α : Type} (hs : s.Valid p) (l : List α) (op : State → α → State)
    (h : ∀ s', s'.Valid p → s'.store.Extends s.store → ∀ a ∈ l, Charged p W s' (op s' a) 0) :
    Charged p W s (l.foldl op s) 0 := by
  induction l generalizing s with
  | nil => exact refl hs
  | cons a l ih =>
    have ha := h s hs (.refl _) a List.mem_cons_self
    exact ha.trans (ih ha.valid fun s' hs' hE b hb =>
      h s' hs' (hE.trans ha.store) b (List.mem_cons_of_mem a hb))

end Charged

theorem charged_grows (hs : s.Valid p) {B : AbstractStore} (hB : B.Grows p s.store) :
    Charged p W s { s with store := B } 0 :=
  .of_effect (effect_grows hs hB) le_rfl

theorem charged_internContext (hs : s.Valid p) {D : Context} {d : ContextId}
    (hd : s.internContext D = (d, s')) :
    s'.store.contexts.values.Holds d ∧ Charged p W s s' 0 := by
  obtain ⟨hE, hdh, -⟩ := effect_internContext hs hd
  refine ⟨hdh, .of_effect hE ?_⟩
  cases hd
  exact le_rfl

theorem charged_connect (hs : s.Valid p) {x y : Pointer} (hx : s.store.HasPointer x)
    (hy : s.store.HasPointer y) (hW : 1 ≤ W) : Charged p W s (s.connect x y) 0 := by
  have hE := effect_connect hs hx hy
  obtain ⟨i, j, B, hB, hi, hj, hix, hjy, he⟩ := connect_spec hs hx hy
  have hG : Effect p s { s with store := B } ∅ ∅ := effect_grows hs hB
  by_cases hc : s.flow.contains i j
  · refine .of_effect hE ?_
    rw [he, if_pos hc]
    exact le_rfl
  · refine .of_new hE ((hE.facts _).mpr (.inr ⟨rfl, id⟩)) ?_ ?_
    · intro hf
      rw [← hix, ← hjy] at hf
      have hmem := (mem_facts_flow hG.valid hi hj).mp (hG.facts_subset hf)
      exact hc (hs.flow.contains_iff.mpr hmem)
    · rw [he, if_neg hc]
      split
      · exact Nat.le_add_right _ W
      · rw [load_send]
        exact Nat.add_le_add_left hW _

theorem charged_addCall (hs : s.Valid p) {k : CallKind} {site : CtxSite} {m : CtxMethod}
    (hc : s.store.contexts.values.Holds site.context)
    (hm : s.store.contexts.values.Holds m.context) (hW : 4 ≤ W) :
    Charged p W s (s.addCall k site m) 0 := by
  have hE := effect_addCall (k := k) hs hc hm
  have hmem := mem_facts_call (k := k) hs hc hm
  by_cases he : ⟨k, site, m⟩ ∈ s.calls.edges
  · refine .of_effect hE ?_
    rw [addCall, CallGraph.insertEdge_of_mem he]
    exact le_rfl
  · refine .of_new hE ((hE.facts _).mpr (.inr ⟨rfl, id⟩)) (mt hmem.mp he) ?_
    rw [addCall, CallGraph.insertEdge_of_not_mem he]
    dsimp only
    rw [load_plan, Nat.add_comm]
    exact Nat.add_le_add_left hW _

theorem charged_enter (hs : s.Valid p) {m : CtxMethod}
    (hm : s.store.contexts.values.Holds m.context)
    (hW : 2 * (p.methodDecl m.id).stmts.size ≤ W) : Charged p W s (s.enter p m) 0 := by
  have hE := effect_enter hs hm
  have hmem := mem_facts_reach hs hm
  by_cases hr : s.calls.contains m
  · refine .of_effect hE ?_
    rw [enter, CallGraph.insertMethod_of_mem hr]
    exact le_rfl
  · refine .of_new hE ((hE.facts _).mpr (.inr ⟨rfl, id⟩))
      (fun h => hr ((hs.calls m).mpr (hmem.mp h))) ?_
    rw [enter, CallGraph.insertMethod_of_not_mem hr]
    dsimp only
    rw [load_plan, Nat.add_comm]
    refine Nat.add_le_add_left ?_ _
    simpa [Function.comp_def, Task.weight, Nat.mul_comm] using hW

theorem charged_exec (hs : s.Valid p) {c : ContextId} {st : StmtId}
    (hc : s.store.contexts.values.Holds c) (hW : 4 ≤ W) (h : s.exec p π c st = .ok s') :
    Charged p W s s' 1 := by
  have hW' : 1 ≤ W := by omega
  have hfree {s' : State} (h : Charged p W s s' 0) : Charged p W s s' 1 := h.mono (Nat.zero_le 1)
  have hcase := exec_case p π s c st
  rw [h] at hcase
  cases hcase with
  | new hst ho =>
    rw [← Program.site_of_objectAt ho] at ho
    exact .of_effect (effect_allocate hs hc ho _ _) (load_send _ _).le
  | copy hst => exact hfree (charged_connect hs hc hc hW')
  | loadStatic hst => exact hfree (charged_connect hs trivial hc hW')
  | storeStatic hst => exact hfree (charged_connect hs hc trivial hW')
  | staticCall hst hk hcallee hd =>
    obtain ⟨hdh, h₁⟩ := charged_internContext (W := W) hs hd
    have hc₁ := h₁.store.contexts.holds hc
    exact hfree (h₁.trans (charged_addCall h₁.valid hc₁ hdh hW))
  | wait hst => exact hfree (.refl hs)

theorem charged_bindCall (hs : s.Valid p) {site : CtxSite} {m : CtxMethod}
    (hc : s.store.contexts.values.Holds site.context)
    (hm : s.store.contexts.values.Holds m.context) (hW : 1 ≤ W)
    (h : s.bindCall p site m = .ok s') : Charged p W s s' 0 := by
  rw [bindCall] at h
  cases hcall : p.callAt site.id with
  | error e => rw [hcall] at h; cases h
  | ok call =>
    rw [hcall] at h
    have hargs := Charged.foldl hs (call.args.zip (p.methodDecl m.id).params.toList)
      (fun s (a : VarId × VarId) => s.connect (.var ⟨site.context, a.1⟩) (.var ⟨m.context, a.2⟩))
      fun s' hs' hE a _ => charged_connect hs' (hE.contexts.holds hc) (hE.contexts.holds hm) hW
    cases hres : call.result with
    | none =>
      simp only [bind, Except.bind, hres] at h
      cases h
      exact hargs
    | some x =>
      simp only [bind, Except.bind, hres] at h
      cases h
      have hc' := hargs.store.contexts.holds hc
      have hx := hargs.trans (charged_grows hargs.valid
        (AbstractStore.internPointer_grows (x := .var ⟨site.context, x⟩) hargs.valid.store hc'))
      refine hx.trans (.foldl hx.valid _ _ fun s' hs' hE v _ => ?_)
      have hE := hE.trans hx.store
      exact charged_connect hs' (hE.contexts.holds hm) (hE.contexts.holds hc) hW

theorem charged_access (hs : s.Valid p) {c : ContextId} {o : CtxObjId}
    (hc : s.store.contexts.values.Holds c) (ho : s.store.ctxObjects.values.Holds o) (hW : 1 ≤ W)
    (st : StmtId) : Charged p W s (s.access p c o st) 0 := by
  rw [access]
  cases hst : p.stmt st with
  | store b f y => exact charged_connect hs hc ho hW
  | load x b f => exact charged_connect hs ho hc hW
  | arrayStore b i y => exact charged_connect hs hc ho hW
  | arrayLoad x b i => exact charged_connect hs ho hc hW
  | _ => exact .refl hs

theorem charged_receive (hs : s.Valid p) {v : CtxVar} {o : CtxObjId}
    (hc : s.store.contexts.values.Holds v.context) (ho : s.store.ctxObjects.values.Holds o)
    (hW : 1 ≤ W) :
    Charged p W s (s.receive p v o) (2 * (p.varDecl v.id).calls.size) := by
  let s₁ := (p.varDecl v.id).accesses.toList.foldl (fun s st => s.access p v.context o st) s
  have h₁ : Charged p W s s₁ 0 := .foldl hs _ _ fun s' hs' hE st _ =>
    charged_access hs' (hE.contexts.holds hc) (hE.ctxObjects.holds ho) hW st
  let tasks : List Task := (p.varDecl v.id).calls.toList.map fun site =>
    .invoke ⟨v.context, site⟩ o
  have ht (t : Task) (ht : t ∈ tasks) : s₁.store.HasTask t := by
    obtain ⟨site, -, rfl⟩ := List.mem_map.mp ht
    exact ⟨h₁.store.contexts.holds hc, h₁.store.ctxObjects.holds ho⟩
  have h₂ : Charged p W s₁ (s₁.plan tasks) (2 * (p.varDecl v.id).calls.size) := by
    refine .of_effect (effect_plan h₁.valid ht) ?_
    rw [load_plan, Nat.add_comm]
    simp [tasks, Function.comp_def, Task.weight, Nat.mul_comm]
  have h := h₁.trans h₂
  rwa [Nat.zero_add] at h

theorem charged_sendReceiver (hs : s.Valid p) {d : ContextId} {o : CtxObjId}
    (hd : s.store.contexts.values.Holds d) (ho : s.store.ctxObjects.values.Holds o)
    (callee : MethodId) : Charged p W s (s.sendReceiver p d o callee) 1 := by
  refine .of_effect (effect_sendReceiver hs hd ho callee) ?_
  rw [sendReceiver]
  cases (p.methodDecl callee).this with
  | none => exact Nat.le_add_right _ 1
  | some this => exact (load_send _ _).le

theorem charged_invoke (hs : s.Valid p) {site : CtxSite} {o : CtxObjId}
    (hc : s.store.contexts.values.Holds site.context) (ho : s.store.ctxObjects.values.Holds o)
    (hW : 4 ≤ W) (h : s.invoke p π site o = .ok s') : Charged p W s s' 1 := by
  have hcase := invoke_case p π s site o
  rw [h] at hcase
  cases hcase with
  | @call call callee d s₁ hst hcallee hd =>
    obtain ⟨hdh, h₁⟩ := charged_internContext (W := W) hs hd
    have h₂ := charged_sendReceiver (W := W) h₁.valid hdh (h₁.store.ctxObjects.holds ho) callee
    have h₃ := charged_addCall (k := call.kind) (m := ⟨d, callee⟩) h₂.valid
      (h₂.store.contexts.holds (h₁.store.contexts.holds hc)) (h₂.store.contexts.holds hdh) hW
    exact (h₁.trans h₂).trans h₃

/-- A task adds less to the work than it takes from it, new facts apart. -/
theorem charged_perform (hs : s.Valid p) {t : Task} (ht : s.store.HasTask t) (hW : 4 ≤ W)
    (hbody : ∀ m, 2 * (p.methodDecl m).stmts.size ≤ W) (h : s.perform p π t = .ok s') :
    Charged p W s s' (t.weight p - 1) := by
  have hW' : 1 ≤ W := by omega
  cases t with
  | enter m =>
    cases h
    exact (charged_enter hs ht (hbody m.id)).mono (Nat.zero_le _)
  | exec c st => exact charged_exec hs ht hW h
  | bindCall site m => exact (charged_bindCall hs ht.1 ht.2 hW' h).mono (Nat.zero_le _)
  | receive v o =>
    cases h
    refine (charged_receive hs ht.1 ht.2 hW').mono ?_
    rw [Task.weight]
    omega
  | invoke site o => exact charged_invoke hs ht.1 ht.2 hW h

section Arrive

variable {i : PointerId} {set : ObjSet}

theorem length_le_ncard {α β : Type} {l : List α} {S : Set β} (hl : l.Nodup) (hS : S.Finite)
    (f : α → β) (hf : Set.InjOn f {a | a ∈ l}) (hsub : ∀ a ∈ l, f a ∈ S) :
    l.length ≤ S.ncard := by
  classical
  have hcard : l.length = {a | a ∈ l}.ncard := by
    rw [← List.toFinset_card_of_nodup hl, ← Set.ncard_coe_finset, List.coe_toFinset]
  rw [hcard, ← hf.ncard_image]
  refine Set.ncard_le_ncard ?_ hS
  rintro _ ⟨a, ha, rfl⟩
  exact hsub a ha

/-- A pointer has no more successors than there are facts. -/
theorem size_successors_le (hs : s.Valid p) (i : PointerId) :
    (s.flow.successors i).size ≤ s.facts.ncard := by
  refine length_le_ncard (hs.flow.nodup i) s.finite_facts
    (fun j => .flow (s.store.place i) (s.store.place j)) ?_ ?_
  · intro a ha b hb hab
    rw [Set.mem_ofPred_eq, Array.mem_toList_iff, hs.flow.mem_successors] at ha hb
    exact hs.store.place_injective (hs.edge ha).2 (hs.edge hb).2 (Fact.flow.inj hab).2
  · intro j hj
    rw [Array.mem_toList_iff, hs.flow.mem_successors] at hj
    exact ⟨i, j, hj, rfl, rfl⟩

/-- Each object that is new at a pointer is a new fact. -/
theorem ncard_arrive (hs : s.Valid p) (hi : s.store.pointers.values.Holds i)
    (hset : ∀ u, set.contains u → s.store.ctxObjects.values.Holds u) :
    s.facts.ncard + ((s.store.pointees i).missing set).toList.length ≤
      (s.arrive i set).facts.ncard := by
  have hA := arrival hs hi hset
  have hdelta (u : CtxObjId) (hu : u ∈ ((s.store.pointees i).missing set).toList) :
      set.contains u ∧ (s.store.pointees i).contains u = false := by
    simpa [ObjSet.mem_toList] using hu
  have hle := length_le_ncard (ObjSet.nodup_toList ((s.store.pointees i).missing set))
    ((s.arrive i set).finite_facts.sdiff (t := s.facts))
    (fun u => .pts (s.store.place i) (s.store.heapObj u)) ?_ ?_
  · have hsub : s.facts ⊆ (s.arrive i set).facts := fun f hf => (hA.facts f).mpr (.inl hf)
    have hdiff := Set.ncard_sdiff_add_ncard_of_subset hsub (s.arrive i set).finite_facts
    omega
  · intro u hu w hw huw
    exact hs.store.heapObj_injective (hset u (hdelta u hu).1) (hset w (hdelta w hw).1)
      (Fact.pts.inj huw).2
  · intro u hu
    obtain ⟨hu, hnew⟩ := hdelta u hu
    refine ⟨(hA.facts _).mpr (.inr ⟨u, hu, rfl⟩), fun hf => ?_⟩
    rw [mem_facts_pts hs hi (hset u hu), hnew] at hf
    cases hf

theorem weight_arrivalTasks_le {w : Nat} (hw : ∀ v, 2 + 2 * (p.varDecl v).calls.size ≤ w)
    (delta : ObjSet) :
    ((s.arrivalTasks i delta).map (Task.weight p)).sum ≤ delta.toList.length * w := by
  rw [arrivalTasks]
  cases s.store.pointer i with
  | var v =>
    have hsum : ((delta.toList.map (Task.receive v)).map (Task.weight p)).sum =
        delta.toList.length * (2 + 2 * (p.varDecl v.id).calls.size) := by
      simp [Function.comp_def, Task.weight]
    exact hsum.le.trans (Nat.mul_le_mul_left _ (hw v.id))
  | _ => exact Nat.zero_le _

/-- What objects that arrive add to the work is paid for by the facts that are new. -/
theorem cost_arrive (hs : s.Valid p) (hi : s.store.pointers.values.Holds i)
    (hset : ∀ u, set.contains u → s.store.ctxObjects.values.Holds u)
    (hW : ∀ v, 2 + 2 * (p.varDecl v).calls.size + s.facts.ncard ≤ W) :
    (s.arrive i set).load p + W * s.facts.ncard ≤
      s.load p + W * (s.arrive i set).facts.ncard := by
  have hcard := Nat.mul_le_mul_left W (ncard_arrive hs hi hset)
  rw [Nat.mul_add] at hcard
  by_cases hknown : ((s.store.pointees i).missing set).isEmpty
  · rw [arrive_of_known hknown]
  · obtain ⟨queue, events, he, hq⟩ := arrive_of_new hknown
    generalize hd : (s.store.pointees i).missing set = delta at *
    have hpos : 1 ≤ delta.toList.length := by
      obtain ⟨u, hu⟩ : ∃ u, delta.contains u := by
        simpa [ObjSet.isEmpty_iff] using hknown
      exact List.length_pos_of_mem (ObjSet.mem_toList.mpr hu)
    have hload : (s.arrive i set).load p = ((s.arrivalTasks i delta).map (Task.weight p)).sum +
        (s.flow.successors i).size + s.load p := by
      simp only [he, load, hq, List.map_append, List.sum_append, List.length_append,
        List.length_map, Array.length_toList]
      omega
    have htasks := weight_arrivalTasks_le (s := s) (i := i)
      (fun v => Nat.le_sub_of_add_le (hW v)) delta
    have hsucc := size_successors_le hs i
    -- each new object pays for its own task and for all successors
    have hpay : delta.toList.length * (W - s.facts.ncard) + s.facts.ncard ≤
        W * delta.toList.length := by
      obtain ⟨w, rfl⟩ := Nat.exists_eq_add_of_le (le_trans (Nat.le_add_left _ _) (hW default))
      rw [Nat.add_sub_cancel_left, Nat.add_mul, Nat.mul_comm w, Nat.add_comm]
      exact Nat.add_le_add_right (Nat.le_mul_of_pos_right _ hpos) _
    omega

end Arrive

end State

end PointsTo.Propagation
