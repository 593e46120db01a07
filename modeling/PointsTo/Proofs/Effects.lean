import Mathlib.Data.Set.Insert
import PointsTo.Proofs.Decoding
import PointsTo.Proofs.Graphs

/-!
What the operations of the analysis do, said in terms of facts. Every operation asserts some facts:
those that are new are added, or sent if they are about objects, and call for chores of their own.
-/
namespace PointsTo

/-- A task, with a context and an object in place of their identifiers. -/
inductive Chore where
  | enter (c : Context) (m : MethodId)
  | exec (c : Context) (s : StmtId)
  | bindCall (c : Context) (site : StmtId) (d : Context) (callee : MethodId)
  | receive (c : Context) (v : VarId) (o : HeapObj)
  | invoke (c : Context) (site : StmtId) (o : HeapObj)
deriving DecidableEq, Repr

/-- The fact that something points to an object. -/
def Fact.IsPts : Fact → Prop
  | pts .. => True
  | _ => False

/-- The chores that a fact calls for when it is found. -/
def Fact.chores (p : Program) : Fact → Set Chore
  | reach c m => {ch | ∃ s ∈ (p.methodDecl m).stmts, ch = .exec c s}
  | call _ c s d m => {.enter d m, .bindCall c s d m}
  | flow .. => ∅
  | pts (.var c v) o => {.receive c v o}
  | pts .. => ∅

namespace AbstractStore

/-- The chore that a task stands for. -/
def chore (A : AbstractStore) : Propagation.Task → Chore
  | .enter m => .enter (A.context m.context) m.id
  | .exec c s => .exec (A.context c) s
  | .bindCall site callee =>
    .bindCall (A.context site.context) site.id (A.context callee.context) callee.id
  | .receive v o => .receive (A.context v.context) v.id (A.heapObj o)
  | .invoke site o => .invoke (A.context site.context) site.id (A.heapObj o)

/-- The identifiers in a task are in use. -/
def HasTask (A : AbstractStore) : Propagation.Task → Prop
  | .enter m => A.contexts.values.Holds m.context
  | .exec c _ => A.contexts.values.Holds c
  | .bindCall site callee =>
    A.contexts.values.Holds site.context ∧ A.contexts.values.Holds callee.context
  | .receive v o => A.contexts.values.Holds v.context ∧ A.ctxObjects.values.Holds o
  | .invoke site o => A.contexts.values.Holds site.context ∧ A.ctxObjects.values.Holds o

variable {p : Program} {A B : AbstractStore} {t : Propagation.Task}

theorem Extends.hasTask (hE : B.Extends A) (ht : A.HasTask t) : B.HasTask t := by
  cases t with
  | enter m => exact hE.contexts.holds ht
  | exec c s => exact hE.contexts.holds ht
  | bindCall site callee => exact ⟨hE.contexts.holds ht.1, hE.contexts.holds ht.2⟩
  | receive v o => exact ⟨hE.contexts.holds ht.1, hE.ctxObjects.holds ht.2⟩
  | invoke site o => exact ⟨hE.contexts.holds ht.1, hE.ctxObjects.holds ht.2⟩

theorem Extends.chore (hE : B.Extends A) (hA : A.Valid p) (ht : A.HasTask t) :
    B.chore t = A.chore t := by
  cases t with
  | enter m => simp only [AbstractStore.chore, hE.context ht]
  | exec c s => simp only [AbstractStore.chore, hE.context ht]
  | bindCall site callee => simp only [AbstractStore.chore, hE.context ht.1, hE.context ht.2]
  | receive v o => simp only [AbstractStore.chore, hE.context ht.1, hE.heapObj hA ht.2]
  | invoke site o => simp only [AbstractStore.chore, hE.context ht.1, hE.heapObj hA ht.2]

end AbstractStore

namespace Propagation.State

variable {p : Program} {π : Policy} {s s' s'' : State}

/-- The facts found so far. -/
def facts (s : State) : Set Fact := s.store.facts s.flow s.calls

/-- The facts on their way in a queue. -/
def queued (A : AbstractStore) (entries : List (PointerId × ObjSet)) : Set Fact
  | .pts x o => ∃ i set u, (i, set) ∈ entries ∧ set.contains u ∧ A.place i = x ∧ A.heapObj u = o
  | _ => False

def pending (s : State) : Set Fact := queued s.store s.queue.toList

/-- The chores on the agenda. -/
def chores (s : State) : Set Chore := {ch | ∃ t ∈ s.agenda, s.store.chore t = ch}

/-- All identifiers in a state are in use. -/
structure Valid (p : Program) (s : State) : Prop where
  store : s.store.Valid p
  flow : s.flow.Consistent
  calls : s.calls.Consistent
  edge {i j} (h : (i, j) ∈ s.flow.edges) :
    s.store.pointers.values.Holds i ∧ s.store.pointers.values.Holds j
  reachable {m} (h : m ∈ s.calls.reachable) : s.store.contexts.values.Holds m.context
  call {e} (h : e ∈ s.calls.edges) : s.store.contexts.values.Holds e.site.context ∧
    s.store.contexts.values.Holds e.callee.context
  queue {i set} (h : (i, set) ∈ s.queue.toList) : s.store.pointers.values.Holds i ∧
    ∀ o, set.contains o → s.store.ctxObjects.values.Holds o
  agenda {t} (h : t ∈ s.agenda) : s.store.HasTask t

/-- A pointer with an object is one that is in use. -/
theorem Valid.holds_of_pointee (hs : s.Valid p) {i : PointerId} {u : CtxObjId}
    (h : (s.store.pointees i).contains u) : s.store.pointers.values.Holds i := by
  by_contra hn
  have hsets : ¬s.store.sets.Holds i := mt hs.store.holds_sets.mp hn
  rw [AbstractStore.pointees, Table.get_of_not_holds hsets] at h
  simp [default] at h

theorem mem_facts_flow (hs : s.Valid p) {i j : PointerId} (hi : s.store.pointers.values.Holds i)
    (hj : s.store.pointers.values.Holds j) :
    .flow (s.store.place i) (s.store.place j) ∈ s.facts ↔ (i, j) ∈ s.flow.edges := by
  constructor
  · rintro ⟨a, b, hab, ha, hb⟩
    obtain ⟨hha, hhb⟩ := hs.edge hab
    rw [hs.store.place_injective hha hi ha, hs.store.place_injective hhb hj hb] at hab
    exact hab
  · intro h
    exact ⟨i, j, h, rfl, rfl⟩

theorem mem_facts_pts (hs : s.Valid p) {i : PointerId} {u : CtxObjId}
    (hi : s.store.pointers.values.Holds i) (hu : s.store.ctxObjects.values.Holds u) :
    .pts (s.store.place i) (s.store.heapObj u) ∈ s.facts ↔ (s.store.pointees i).contains u := by
  constructor
  · rintro ⟨j, w, hw, hj, hwu⟩
    have hjh := hs.holds_of_pointee hw
    rw [hs.store.place_injective hjh hi hj,
      hs.store.heapObj_injective (hs.store.member hw) hu hwu] at hw
    exact hw
  · intro h
    exact ⟨i, u, h, rfl, rfl⟩

theorem mem_facts_reach (hs : s.Valid p) {m : CtxMethod}
    (hm : s.store.contexts.values.Holds m.context) :
    .reach (s.store.context m.context) m.id ∈ s.facts ↔ m ∈ s.calls.reachable := by
  constructor
  · rintro ⟨q, hq, hc, hid⟩
    have hqm : q = m := Qualified.ext
      (AbstractStore.Valid.context_injective (hs.reachable hq) hm hc) hid
    exact hqm ▸ hq
  · intro h
    exact ⟨m, h, rfl, rfl⟩

theorem mem_facts_call (hs : s.Valid p) {k : CallKind} {site : CtxSite} {m : CtxMethod}
    (hc : s.store.contexts.values.Holds site.context)
    (hm : s.store.contexts.values.Holds m.context) :
    .call k (s.store.context site.context) site.id (s.store.context m.context) m.id ∈ s.facts ↔
      ⟨k, site, m⟩ ∈ s.calls.edges := by
  constructor
  · rintro ⟨e, he, hk, hsite, hid, hcallee, hmid⟩
    obtain ⟨hec, hem⟩ := hs.call he
    have hesite : e.site = site := Qualified.ext
      (AbstractStore.Valid.context_injective hec hc hsite) hid
    have hecallee : e.callee = m := Qualified.ext
      (AbstractStore.Valid.context_injective hem hm hcallee) hmid
    have hem : e = ⟨k, site, m⟩ := by rw [← hk, ← hesite, ← hecallee]
    exact hem ▸ he
  · intro h
    exact ⟨_, h, rfl, rfl, rfl, rfl, rfl⟩

/-- The objects that new flow edges among `C` let on their way. -/
def Spreads (s : State) (C : Set Fact) (f : Fact) : Prop :=
  ∃ x y o, f = .pts y o ∧ .flow x y ∈ C ∧ .flow x y ∉ s.facts ∧ .pts x o ∈ s.facts

/-- The chores that new facts among `C` call for. -/
def Triggers (p : Program) (s : State) (C : Set Fact) (ch : Chore) : Prop :=
  ∃ f ∈ C, f ∉ s.facts ∧ ¬f.IsPts ∧ ch ∈ f.chores p

/-- `s'` is what becomes of `s` when the facts of `C` are asserted and the chores of `N` planned.
Facts about objects are sent, all others are there at once. -/
structure Effect (p : Program) (s s' : State) (C : Set Fact) (N : Set Chore) : Prop where
  valid : s'.Valid p
  store : s'.store.Extends s.store
  facts (f : Fact) : f ∈ s'.facts ↔ f ∈ s.facts ∨ f ∈ C ∧ ¬f.IsPts
  pending (f : Fact) : f ∈ s'.pending ↔ f ∈ s.pending ∨ f ∈ C ∧ f.IsPts ∨ s.Spreads C f
  chores (ch : Chore) : ch ∈ s'.chores ↔ ch ∈ s.chores ∨ ch ∈ N ∨ s.Triggers p C ch

namespace Effect

variable {C D : Set Fact} {N M : Set Chore}

theorem facts_pts (h : Effect p s s' C N) (x : Location) (o : HeapObj) :
    .pts x o ∈ s'.facts ↔ .pts x o ∈ s.facts := by
  rw [h.facts]
  exact ⟨fun h => h.elim id fun h => (h.2 trivial).elim, Or.inl⟩

theorem facts_subset (h : Effect p s s' C N) : s.facts ⊆ s'.facts :=
  fun f hf => (h.facts f).mpr (.inl hf)

theorem trans (h₁ : Effect p s s' C N) (h₂ : Effect p s' s'' D M) :
    Effect p s s'' (C ∪ D) (N ∪ M) := by
  refine ⟨h₂.valid, h₂.store.trans h₁.store, fun f => ?_, fun f => ?_, fun ch => ?_⟩
  · rw [h₂.facts, h₁.facts, Set.mem_union]
    tauto
  · have hspread : s.Spreads (C ∪ D) f ↔ s.Spreads C f ∨ s'.Spreads D f := by
      constructor
      · rintro ⟨x, y, o, rfl, hf, hnew, hpts⟩
        by_cases hC : .flow x y ∈ C
        · exact .inl ⟨x, y, o, rfl, hC, hnew, hpts⟩
        · refine .inr ⟨x, y, o, rfl, hf.resolve_left hC, ?_, h₁.facts_subset hpts⟩
          rw [h₁.facts]
          exact fun h => h.elim hnew fun h => hC h.1
      · rintro (⟨x, y, o, rfl, hf, hnew, hpts⟩ | ⟨x, y, o, rfl, hf, hnew, hpts⟩)
        · exact ⟨x, y, o, rfl, .inl hf, hnew, hpts⟩
        · exact ⟨x, y, o, rfl, .inr hf, fun h => hnew (h₁.facts_subset h),
            (h₁.facts_pts x o).mp hpts⟩
    rw [h₂.pending, h₁.pending, hspread, Set.mem_union]
    tauto
  · have hnew : s.Triggers p (C ∪ D) ch ↔ s.Triggers p C ch ∨ s'.Triggers p D ch := by
      constructor
      · rintro ⟨f, hf, hnew, hpts, hch⟩
        by_cases hC : f ∈ C
        · exact .inl ⟨f, hC, hnew, hpts, hch⟩
        · refine .inr ⟨f, hf.resolve_left hC, ?_, hpts, hch⟩
          rw [h₁.facts]
          exact fun h => h.elim hnew fun h => hC h.1
      · rintro (⟨f, hf, hnew, hpts, hch⟩ | ⟨f, hf, hnew, hpts, hch⟩)
        · exact ⟨f, .inl hf, hnew, hpts, hch⟩
        · exact ⟨f, .inr hf, fun h => hnew (h₁.facts_subset h), hpts, hch⟩
    rw [h₂.chores, h₁.chores, hnew, Set.mem_union]
    tauto

/-- What is only prepared can be left out. -/
theorem after (h₁ : Effect p s s' ∅ ∅) (h₂ : Effect p s' s'' C N) : Effect p s s'' C N := by
  have h := h₁.trans h₂
  rwa [Set.empty_union, Set.empty_union] at h

end Effect

theorem facts_grows (hs : s.Valid p) {B : AbstractStore} (hB : B.Grows p s.store) :
    B.facts s.flow s.calls = s.facts := by
  ext f
  cases f with
  | reach c m =>
    refine exists_congr fun q => and_congr_right fun hq => ?_
    rw [hB.context (hs.reachable hq)]
  | call k c site d m =>
    refine exists_congr fun e => and_congr_right fun he => ?_
    rw [hB.context (hs.call he).1, hB.context (hs.call he).2]
  | flow x y =>
    refine exists_congr fun i => exists_congr fun j => and_congr_right fun hij => ?_
    rw [hB.place hs.store (hs.edge hij).1, hB.place hs.store (hs.edge hij).2]
  | pts x o =>
    refine exists_congr fun i => exists_congr fun u => ?_
    rw [hB.pointees]
    refine and_congr_right fun hu => ?_
    rw [hB.place hs.store (hs.holds_of_pointee hu), hB.heapObj hs.store (hs.store.member hu)]

theorem effect_grows (hs : s.Valid p) {B : AbstractStore} (hB : B.Grows p s.store) :
    Effect p s { s with store := B } ∅ ∅ := by
  refine ⟨⟨hB.valid, hs.flow, hs.calls, ?_, ?_, ?_, ?_, ?_⟩, hB.toExtends, fun f => ?_, fun f => ?_,
    fun ch => ?_⟩
  · intro i j h
    exact ⟨hB.pointers.holds (hs.edge h).1, hB.pointers.holds (hs.edge h).2⟩
  · intro m h
    exact hB.contexts.holds (hs.reachable h)
  · intro e h
    exact ⟨hB.contexts.holds (hs.call h).1, hB.contexts.holds (hs.call h).2⟩
  · intro i set h
    exact ⟨hB.pointers.holds (hs.queue h).1, fun o ho => hB.ctxObjects.holds ((hs.queue h).2 o ho)⟩
  · intro t h
    exact hB.hasTask (hs.agenda h)
  · change f ∈ B.facts s.flow s.calls ↔ _
    rw [facts_grows hs hB]
    simp
  · have hp : queued B s.queue.toList = s.pending := by
      ext f
      cases f with
      | pts x o =>
        refine exists_congr fun i => exists_congr fun set => exists_congr fun u =>
          and_congr_right fun hi => and_congr_right fun hu => ?_
        rw [hB.place hs.store (hs.queue hi).1, hB.heapObj hs.store ((hs.queue hi).2 u hu)]
      | _ => exact Iff.rfl
    change f ∈ queued B s.queue.toList ↔ _
    rw [hp]
    simp [Spreads]
  · have hc : ch ∈ State.chores { s with store := B } ↔ ch ∈ s.chores :=
      exists_congr fun t => and_congr_right fun ht => by rw [hB.chore hs.store (hs.agenda ht)]
    rw [hc]
    simp [Triggers]

theorem Effect.report {C : Set Fact} {N : Set Chore} (h : Effect p s s' C N) (e : Event) :
    Effect p s (s'.report e) C N :=
  ⟨⟨h.valid.store, h.valid.flow, h.valid.calls, h.valid.edge, h.valid.reachable, h.valid.call,
    h.valid.queue, h.valid.agenda⟩, h.store, h.facts, h.pending, h.chores⟩

theorem Effect.refl (hs : s.Valid p) : Effect p s s ∅ ∅ := effect_grows hs (.refl hs.store)

theorem mem_pending_send {i : PointerId} {set : ObjSet} (f : Fact) :
    f ∈ (s.send i set).pending ↔ f ∈ s.pending ∨
      ∃ u, set.contains u ∧ f = .pts (s.store.place i) (s.store.heapObj u) := by
  cases f with
  | pts x o =>
    change (∃ _ _ _, _) ↔ (∃ _ _ _, _) ∨ _
    simp only [send, Queue.toList_push, List.mem_append, List.mem_singleton, Prod.mk.injEq]
    constructor
    · rintro ⟨j, t, u, h | ⟨rfl, rfl⟩, hu, rfl, rfl⟩
      · exact .inl ⟨j, t, u, h, hu, rfl, rfl⟩
      · exact .inr ⟨u, hu, rfl⟩
    · rintro (⟨j, t, u, h, hu, rfl, rfl⟩ | ⟨u, hu, h⟩)
      · exact ⟨j, t, u, .inl h, hu, rfl, rfl⟩
      · cases h
        exact ⟨i, set, u, .inr ⟨rfl, rfl⟩, hu, rfl, rfl⟩
  | _ => exact ⟨fun h => h.elim, fun h => h.elim id fun ⟨u, _, hu⟩ => nomatch hu⟩

theorem Valid.send (hs : s.Valid p) {i : PointerId} {set : ObjSet}
    (hi : s.store.pointers.values.Holds i)
    (hset : ∀ u, set.contains u → s.store.ctxObjects.values.Holds u) : (s.send i set).Valid p := by
  refine ⟨hs.store, hs.flow, hs.calls, hs.edge, hs.reachable, hs.call, ?_, hs.agenda⟩
  intro j t h
  rw [State.send, Queue.toList_push, List.mem_append, List.mem_singleton] at h
  rcases h with h | h
  · exact hs.queue h
  · cases h
    exact ⟨hi, hset⟩

theorem effect_send (hs : s.Valid p) {i : PointerId} {u : CtxObjId}
    (hi : s.store.pointers.values.Holds i) (hu : s.store.ctxObjects.values.Holds u) :
    Effect p s (s.send i (.singleton u)) {.pts (s.store.place i) (s.store.heapObj u)} ∅ := by
  have hset (w : CtxObjId) (hw : (ObjSet.singleton u).contains w) :
      s.store.ctxObjects.values.Holds w := by
    simp only [ObjSet.contains_singleton, decide_eq_true_eq] at hw
    exact hw ▸ hu
  refine ⟨hs.send hi hset, .refl _, fun f => ?_, fun f => ?_, fun ch => ?_⟩
  · exact ⟨.inl, fun h => h.elim id fun ⟨hf, hn⟩ => (hn (hf ▸ trivial)).elim⟩
  · rw [mem_pending_send]
    refine or_congr_right ⟨?_, ?_⟩
    · rintro ⟨w, hw, rfl⟩
      simp only [ObjSet.contains_singleton, decide_eq_true_eq] at hw
      subst hw
      exact .inl ⟨rfl, trivial⟩
    · rintro (⟨rfl, -⟩ | ⟨x, y, o, -, hxy, -⟩)
      · exact ⟨u, by simp, rfl⟩
      · cases hxy
  · refine ⟨.inl, ?_⟩
    rintro (h | h | ⟨f, rfl, -, hn, -⟩)
    · exact h
    · exact h.elim
    · exact (hn trivial).elim

theorem effect_plan (hs : s.Valid p) {tasks : List Task} (ht : ∀ t ∈ tasks, s.store.HasTask t) :
    Effect p s (s.plan tasks) ∅ {ch | ∃ t ∈ tasks, s.store.chore t = ch} := by
  refine ⟨⟨hs.store, hs.flow, hs.calls, hs.edge, hs.reachable, hs.call, hs.queue, ?_⟩, .refl _,
    fun f => ?_, fun f => ?_, fun ch => ?_⟩
  · intro t h
    exact (List.mem_append.mp h).elim (ht t) hs.agenda
  · exact ⟨.inl, fun h => h.elim id fun h => h.1.elim⟩
  · refine ⟨.inl, ?_⟩
    rintro (h | h | ⟨x, y, o, -, h, -⟩)
    exacts [h, h.1.elim, h.elim]
  · constructor
    · rintro ⟨t, h, rfl⟩
      rcases List.mem_append.mp h with h | h
      · exact .inr (.inl ⟨t, h, rfl⟩)
      · exact .inl ⟨t, h, rfl⟩
    · rintro (⟨t, h, rfl⟩ | ⟨t, h, rfl⟩ | ⟨f, h, -⟩)
      · exact ⟨t, List.mem_append.mpr (.inr h), rfl⟩
      · exact ⟨t, List.mem_append.mpr (.inl h), rfl⟩
      · exact h.elim

/-- A fact that is there already has no effect. -/
theorem effect_of_mem (hs : s.Valid p) {f : Fact} (hf : f ∈ s.facts) (hn : ¬f.IsPts) :
    Effect p s s {f} ∅ := by
  refine ⟨hs, .refl _, fun g => ?_, fun g => ?_, fun ch => ?_⟩
  · exact ⟨.inl, fun h => h.elim id fun h => h.1 ▸ hf⟩
  · refine ⟨.inl, ?_⟩
    rintro (h | ⟨rfl, h⟩ | ⟨x, y, o, -, h, hnew, -⟩)
    exacts [h, (hn h).elim, (hnew (h ▸ hf)).elim]
  · refine ⟨.inl, ?_⟩
    rintro (h | h | ⟨g, rfl, hnew, -⟩)
    exacts [h, h.elim, (hnew hf).elim]

section Flow

variable {i j : PointerId}

theorem mem_facts_insertFlow (hs : s.Valid p) (f : Fact) :
    f ∈ State.facts { s with flow := (s.flow.insertEdge i j).2 } ↔
      f ∈ s.facts ∨ f = .flow (s.store.place i) (s.store.place j) := by
  cases f with
  | flow x y =>
    constructor
    · rintro ⟨a, b, hab, rfl, rfl⟩
      rcases (FlowGraph.mem_edges_insertEdge hs.flow).mp hab with hab | ⟨rfl, rfl⟩
      · exact .inl ⟨a, b, hab, rfl, rfl⟩
      · exact .inr rfl
    · rintro (⟨a, b, hab, rfl, rfl⟩ | h)
      · exact ⟨a, b, (FlowGraph.mem_edges_insertEdge hs.flow).mpr (.inl hab), rfl, rfl⟩
      · cases h
        exact ⟨i, j, (FlowGraph.mem_edges_insertEdge hs.flow).mpr (.inr ⟨rfl, rfl⟩), rfl, rfl⟩
  | _ => exact ⟨.inl, fun h => h.elim id fun h => nomatch h⟩

theorem Valid.insertFlow (hs : s.Valid p) (hi : s.store.pointers.values.Holds i)
    (hj : s.store.pointers.values.Holds j) :
    Valid p { s with flow := (s.flow.insertEdge i j).2 } := by
  refine ⟨hs.store, hs.flow.insertEdge, hs.calls, ?_, hs.reachable, hs.call, hs.queue, hs.agenda⟩
  intro a b hab
  rcases (FlowGraph.mem_edges_insertEdge hs.flow).mp hab with hab | ⟨rfl, rfl⟩
  · exact hs.edge hab
  · exact ⟨hi, hj⟩

/-- The objects of the source of a new edge are sent to its target. -/
theorem effect_insertFlow (hs : s.Valid p) (hi : s.store.pointers.values.Holds i)
    (hj : s.store.pointers.values.Holds j) (hnew : (i, j) ∉ s.flow.edges) :
    Effect p s ({ s with flow := (s.flow.insertEdge i j).2 }.send j (s.store.pointees i))
      {.flow (s.store.place i) (s.store.place j)} ∅ := by
  refine ⟨(hs.insertFlow hi hj).send hj fun u hu => hs.store.member hu, .refl _, fun f => ?_,
    fun f => ?_, fun ch => ?_⟩
  · refine (mem_facts_insertFlow hs f).trans (or_congr_right ⟨?_, And.left⟩)
    rintro rfl
    exact ⟨rfl, id⟩
  · rw [mem_pending_send]
    refine or_congr_right ⟨?_, ?_⟩
    · rintro ⟨u, hu, rfl⟩
      refine .inr ⟨_, _, _, rfl, rfl, ?_, ⟨i, u, hu, rfl, rfl⟩⟩
      rwa [mem_facts_flow hs hi hj]
    · rintro (⟨rfl, h⟩ | ⟨x, y, o, rfl, h, -, a, u, hu, ha, rfl⟩)
      · exact h.elim
      · cases h
        have hai := hs.store.place_injective (hs.holds_of_pointee hu) hi ha
        exact ⟨u, hai ▸ hu, rfl⟩
  · refine ⟨.inl, ?_⟩
    rintro (h | h | ⟨f, rfl, -, -, h⟩)
    exacts [h, h.elim, h.elim]

/-- What connecting two pointers comes to, once both have an identifier. -/
theorem connect_spec (hs : s.Valid p) {x y : Pointer} (hx : s.store.HasPointer x)
    (hy : s.store.HasPointer y) :
    ∃ i j B, B.Grows p s.store ∧ B.pointers.values.Holds i ∧ B.pointers.values.Holds j ∧
      B.place i = s.store.location x ∧ B.place j = s.store.location y ∧
      s.connect x y =
        if s.flow.contains i j then { s with store := B }
        else if (B.pointees i).isEmpty then
          { s with store := B, flow := (s.flow.insertEdge i j).2 }
        else { s with store := B, flow := (s.flow.insertEdge i j).2 }.send j (B.pointees i) := by
  let i := (s.internPointer x).1
  let s₁ := (s.internPointer x).2
  let j := (s₁.internPointer y).1
  let s₂ := (s₁.internPointer y).2
  have hG₁ : s₁.store.Grows p s.store := AbstractStore.internPointer_grows hs.store hx
  have hy₁ : s₁.store.HasPointer y := hG₁.hasPointer hy
  have hG₂ : s₂.store.Grows p s₁.store := AbstractStore.internPointer_grows hG₁.valid hy₁
  have hi : s₁.store.pointers.values.Holds i := AbstractStore.holds_internPointer x
  refine ⟨i, j, s₂.store, hG₂.trans hG₁, hG₂.pointers.holds hi,
    AbstractStore.holds_internPointer y,
    (hG₂.place hG₁.valid hi).trans (AbstractStore.place_internPointer hs.store hx),
    (AbstractStore.place_internPointer hG₁.valid hy₁).trans (hG₁.location hs.store hy), ?_⟩
  by_cases hc : s.flow.contains i j
  · have h : s₂.flow.insertEdge i j = (false, s₂.flow) := FlowGraph.insertEdge_of_mem hc
    rw [if_pos hc]
    simp only [connect, s₂, j, s₁, i] at h ⊢
    rw [h]
    rfl
  · have h := FlowGraph.insertEdge_of_not_mem hc
    have h₂ : s₂.flow.insertEdge i j = _ := h
    rw [if_neg hc, h]
    simp only [connect, s₂, j, s₁, i] at h₂ ⊢
    rw [h₂]
    rfl

theorem effect_connect (hs : s.Valid p) {x y : Pointer} (hx : s.store.HasPointer x)
    (hy : s.store.HasPointer y) :
    Effect p s (s.connect x y) {.flow (s.store.location x) (s.store.location y)} ∅ := by
  obtain ⟨i, j, B, hB, hi, hj, hix, hjy, he⟩ := connect_spec hs hx hy
  have hG : Effect p s { s with store := B } ∅ ∅ := effect_grows hs hB
  rw [he, ← hix, ← hjy]
  refine hG.after ?_
  split
  · next hc =>
    rw [hs.flow.contains_iff] at hc
    exact effect_of_mem hG.valid ((mem_facts_flow hG.valid hi hj).mpr hc) id
  · next hc =>
    rw [hs.flow.contains_iff] at hc
    have hE := effect_insertFlow hG.valid hi hj hc
    split
    · next hempty =>
      refine ⟨⟨hE.valid.store, hE.valid.flow, hE.valid.calls, hE.valid.edge, hE.valid.reachable,
        hE.valid.call, hG.valid.queue, hE.valid.agenda⟩, hE.store, hE.facts, fun f => ?_, hE.chores⟩
      rw [← hE.pending, mem_pending_send]
      simp only [ObjSet.isEmpty_iff] at hempty
      simp [hempty, pending]
    · exact hE

end Flow

section Calls

/-- A new fact about calls is added together with the chores that it calls for. -/
theorem effect_calls {calls : CallGraph CtxSite CtxMethod} {f : Fact}
    {tasks : List Task} (hf : ¬f.IsPts) (hflow : ∀ x y, f ≠ .flow x y) (hnew : f ∉ s.facts)
    (hv : Valid p { s with calls })
    (hfacts : ∀ g, g ∈ State.facts { s with calls } ↔ g ∈ s.facts ∨ g = f)
    (ht : ∀ t ∈ tasks, s.store.HasTask t)
    (hch : ∀ ch, (∃ t ∈ tasks, s.store.chore t = ch) ↔ ch ∈ f.chores p) (e : Event) :
    Effect p s ({ s with calls }.report e |>.plan tasks) {f} ∅ := by
  have hp := (effect_plan (s := { s with calls }) hv ht).report e
  refine ⟨hp.valid, hp.store, fun g => ?_, fun g => ?_, fun ch => ?_⟩
  · refine (hfacts g).trans (or_congr_right ⟨?_, And.left⟩)
    rintro rfl
    exact ⟨rfl, hf⟩
  · refine ⟨.inl, ?_⟩
    rintro (h | ⟨rfl, h⟩ | ⟨x, y, o, -, h, -⟩)
    exacts [h, (hf h).elim, (hflow x y h.symm).elim]
  · refine (hp.chores ch).trans (or_congr_right ⟨?_, ?_⟩)
    · rintro (h | ⟨g, h, -⟩)
      · exact .inr ⟨f, rfl, hnew, hf, (hch ch).mp h⟩
      · exact h.elim
    · rintro (h | ⟨g, rfl, -, -, h⟩)
      · exact h.elim
      · exact .inl ((hch ch).mpr h)

theorem effect_addCall (hs : s.Valid p) {k : CallKind} {site : CtxSite} {m : CtxMethod}
    (hc : s.store.contexts.values.Holds site.context)
    (hm : s.store.contexts.values.Holds m.context) :
    Effect p s (s.addCall k site m)
      {.call k (s.store.context site.context) site.id (s.store.context m.context) m.id} ∅ := by
  have hmem := mem_facts_call (k := k) hs hc hm
  by_cases he : ⟨k, site, m⟩ ∈ s.calls.edges
  · rw [addCall, CallGraph.insertEdge_of_mem he]
    exact effect_of_mem hs (hmem.mpr he) id
  · have hv : Valid p { s with calls := (s.calls.insertEdge ⟨k, site, m⟩).2 } := by
      refine ⟨hs.store, hs.flow, ?_, hs.edge, ?_, ?_, hs.queue, hs.agenda⟩
      · rw [CallGraph.insertEdge_of_not_mem he]
        exact hs.calls
      · rw [CallGraph.insertEdge_of_not_mem he]
        exact hs.reachable
      · intro e h
        rcases CallGraph.mem_edges_insertEdge.mp h with h | rfl
        exacts [hs.call h, ⟨hc, hm⟩]
    have hfacts (g : Fact) :
        g ∈ State.facts { s with calls := (s.calls.insertEdge ⟨k, site, m⟩).2 } ↔ g ∈ s.facts ∨
          g = .call k (s.store.context site.context) site.id (s.store.context m.context) m.id := by
      cases g with
      | call k' c st d n =>
        constructor
        · rintro ⟨e, h, rfl, rfl, rfl, rfl, rfl⟩
          rcases CallGraph.mem_edges_insertEdge.mp h with h | rfl
          exacts [.inl ⟨e, h, rfl, rfl, rfl, rfl, rfl⟩, .inr rfl]
        · rintro (⟨e, h, hfields⟩ | h)
          · exact ⟨e, CallGraph.mem_edges_insertEdge.mpr (.inl h), hfields⟩
          · cases h
            exact ⟨_, CallGraph.mem_edges_insertEdge.mpr (.inr rfl), rfl, rfl, rfl, rfl, rfl⟩
      | reach c n =>
        rw [CallGraph.insertEdge_of_not_mem he]
        exact ⟨.inl, fun h => h.elim id fun h => nomatch h⟩
      | _ => exact ⟨.inl, fun h => h.elim id fun h => nomatch h⟩
    rw [CallGraph.insertEdge_of_not_mem he] at hv hfacts
    rw [addCall, CallGraph.insertEdge_of_not_mem he]
    refine effect_calls id (by rintro _ _ ⟨⟩) (mt hmem.mp he) hv hfacts ?_ ?_ _
    · intro t ht
      simp only [List.mem_cons, List.not_mem_nil, or_false] at ht
      rcases ht with rfl | rfl
      exacts [hm, ⟨hc, hm⟩]
    · intro ch
      simp only [List.mem_cons, List.not_mem_nil, or_false, exists_eq_or_imp, exists_eq_left,
        AbstractStore.chore, Fact.chores, Set.mem_insert_iff, Set.mem_singleton_iff]
      rw [eq_comm, eq_comm (b := ch)]

theorem effect_enter (hs : s.Valid p) {m : CtxMethod}
    (hm : s.store.contexts.values.Holds m.context) :
    Effect p s (s.enter p m) {.reach (s.store.context m.context) m.id} ∅ := by
  have hmem := mem_facts_reach hs hm
  rw [enter]
  generalize ((p.methodDecl m.id).calls.toList.map
    fun site => (⟨m.context, site⟩ : CtxSite)) = sites
  by_cases hr : s.calls.contains m
  · rw [CallGraph.insertMethod_of_mem hr]
    exact effect_of_mem hs (hmem.mpr ((hs.calls m).mp hr)) id
  · have hcalls : (s.calls.insertMethod m sites).2.Consistent := hs.calls.insertMethod
    rw [CallGraph.insertMethod_of_not_mem hr] at hcalls ⊢
    refine effect_calls id (by rintro _ _ ⟨⟩) (fun h => hr ((hs.calls m).mpr (hmem.mp h)))
      ?_ ?_ ?_ ?_ _
    · refine ⟨hs.store, hs.flow, hcalls, hs.edge, ?_, hs.call, hs.queue, hs.agenda⟩
      intro q hq
      rcases Array.mem_push.mp hq with hq | rfl
      exacts [hs.reachable hq, hm]
    · intro g
      cases g with
      | reach c n =>
        constructor
        · rintro ⟨q, hq, rfl, rfl⟩
          rcases Array.mem_push.mp hq with hq | rfl
          exacts [.inl ⟨q, hq, rfl, rfl⟩, .inr rfl]
        · rintro (⟨q, hq, hfields⟩ | h)
          · exact ⟨q, Array.mem_push.mpr (.inl hq), hfields⟩
          · cases h
            exact ⟨m, Array.mem_push.mpr (.inr rfl), rfl, rfl⟩
      | _ => exact ⟨.inl, fun h => h.elim id fun h => nomatch h⟩
    · intro t ht
      obtain ⟨st, -, rfl⟩ := List.mem_map.mp ht
      exact hm
    · intro ch
      simp [Fact.chores, AbstractStore.chore, eq_comm]

end Calls

end Propagation.State

end PointsTo
