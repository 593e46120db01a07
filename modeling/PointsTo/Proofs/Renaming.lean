import PointsTo.Proofs.Precision

namespace PointsTo

/-- Replaces the class that is named at a call. -/
def Call.mapClass (f : ClassId → ClassId) (call : Call) : Call :=
  { call with target := ⟨f call.target.cls, call.target.signature⟩ }

def Stmt.mapClass (f : ClassId → ClassId) : Stmt → Stmt
  | invoke call => invoke (call.mapClass f)
  | s => s

/-- The class on which a call is dispatched, given the class of the receiver object. -/
def Call.boundClass (call : Call) (receiver : Option ClassId) : ClassId :=
  match call.kind with
  | .virtual | .interface => receiver.getD call.target.cls
  | .static | .special | .dynamic => call.target.cls

namespace Program

variable {p q : Program} {s : StmtId} {m : MethodId}

theorem dispatchAt_eq_ok {c : ClassId} {g : Signature} :
    p.dispatchAt s c g = .ok m ↔ p.dispatch c g = some m := by
  rw [dispatchAt]
  cases p.dispatch c g with
  | none => simp
  | some i => simp

theorem calleeAt_eq_ok {call : Call} (h : p.stmt s = .invoke call) {recv : Option ClassId} :
    p.calleeAt recv s = .ok m ↔ call.kind ≠ .dynamic ∧
      p.dispatch (call.boundClass recv) call.target.signature = some m := by
  rw [calleeAt, callAt_eq_ok.mpr h, Call.boundClass]
  cases hk : call.kind with
  | static =>
    simp only [bind, Except.bind, hk]
    cases p.dispatch call.target.cls call.target.signature with
    | none => simp [throw, throwThe, MonadExceptOf.throw]
    | some i => simp [pure, Except.pure]
  | special | virtual | interface =>
    simp only [bind, Except.bind, hk, dispatchAt_eq_ok]
    simp
  | dynamic =>
    simp only [bind, Except.bind, hk]
    simp [throw, throwThe, MonadExceptOf.throw]

/-- Maps from the classes and statements of `p` to those of `q` that keep what an analysis looks at.
Methods, variables and fields keep their numbers. -/
structure Renaming (p q : Program) where
  cls : ClassId → ClassId
  site : StmtId → StmtId
  entry : q.entry = p.entry
  holds {s : StmtId} (h : p.stmts.Holds s) : q.stmts.Holds (site s)
  container {s : StmtId} (h : p.stmts.Holds s) : q.container (site s) = p.container s
  stmt {s : StmtId} (h : p.stmts.Holds s) : q.stmt (site s) = (p.stmt s).mapClass cls
  target {s : StmtId} {call : Call} (h : p.stmt s = .invoke call) :
    p.classes.Holds call.target.cls
  findClass? {name : String} {c : ClassId} (h : p.findClass? name = some c) :
    q.findClass? name = some (cls c)
  dispatch {c : ClassId} (h : p.classes.Holds c) (g : Signature) :
    q.dispatch (cls c) g = p.dispatch c g
  owner {m : MethodId} (h : p.methods.Holds m) : (q.methodDecl m).cls = cls (p.methodDecl m).cls
  this (m : MethodId) : (q.methodDecl m).this = (p.methodDecl m).this
  params (m : MethodId) : (q.methodDecl m).params = (p.methodDecl m).params

namespace Renaming

variable {π : Policy} {o : HeapObj} (ρ : Renaming p q)

def elem : ContextElem → ContextElem
  | .call s => .call (ρ.site s)
  | .alloc s => .alloc (ρ.site s)
  | .type c => .type (ρ.cls c)

def context (c : Context) : Context := c.map ρ.elem

def obj (o : Obj) : Obj :=
  { o with site := ρ.site o.site, cls := ρ.cls o.cls, containerClass := ρ.cls o.containerClass }

def heapObj (o : HeapObj) : HeapObj := ⟨ρ.context o.heap, ρ.obj o.obj⟩

def location : Location → Location
  | .var c v => .var (ρ.context c) v
  | .static f => .static f
  | .field o f => .field (ρ.heapObj o) f
  | .array o => .array (ρ.heapObj o)

def fact : Fact → Fact
  | .reach c m => .reach (ρ.context c) m
  | .call k c s d m => .call k (ρ.context c) (ρ.site s) (ρ.context d) m
  | .flow x y => .flow (ρ.location x) (ρ.location y)
  | .pts x o => .pts (ρ.location x) (ρ.heapObj o)

theorem forObject (c : Context) : ρ.context (π.forObject c) = π.forObject (ρ.context c) := by
  cases π with
  | insensitive => rfl
  | callSite k | object k | type k => exact c.map_recent ρ.elem (k - 1)

theorem forStaticCall (c : Context) (s : StmtId) :
    ρ.context (π.forStaticCall c s) = π.forStaticCall (ρ.context c) (ρ.site s) := by
  cases π with
  | insensitive | object k | type k => rfl
  | callSite k => exact c.map_extend ρ.elem (.call s) k

theorem calleeContext (c : Context) (s : StmtId) (o : HeapObj) :
    ρ.context (π.calleeContext c s o) =
      π.calleeContext (ρ.context c) (ρ.site s) (ρ.heapObj o) := by
  cases π with
  | insensitive => rfl
  | callSite k => exact c.map_extend ρ.elem (.call s) k
  | object k => exact o.heap.map_extend ρ.elem (.alloc o.obj.site) k
  | type k => exact o.heap.map_extend ρ.elem (.type o.obj.containerClass) k

theorem stmt_eq {st : Stmt} (h : p.stmt s = st) (hst : st ≠ .ret none) :
    q.stmt (ρ.site s) = st.mapClass ρ.cls := by
  rw [ρ.stmt (holds_of_stmt_ne (by rwa [h])), h]

theorem stmt_invoke {call : Call} (h : p.stmt s = .invoke call) :
    q.stmt (ρ.site s) = .invoke (call.mapClass ρ.cls) :=
  ρ.stmt_eq h (by simp)

theorem objectAt (hwf : p.WellFormed) {obj : Obj} (h : p.objectAt s = .ok obj) :
    q.objectAt (ρ.site s) = .ok (ρ.obj obj) := by
  rw [Program.objectAt] at h
  split at h
  · next x t hst =>
    split at h
    · next name hname =>
      split at h
      · next cls hcls =>
        cases h
        have hs : p.stmts.Holds s := holds_of_stmt_ne (by simp [hst])
        have hstmt : q.stmt (ρ.site s) = .new x t := ρ.stmt_eq hst (by simp)
        have howner := ρ.owner (hwf.container hs)
        simp only [Program.objectAt, hstmt, hname, ρ.findClass? hcls, ρ.container hs, howner]
        rfl
      · cases h
    · cases h
  · cases h

/-- The same calls resolve, and to the same methods. -/
theorem calleeAt {call : Call} (h : p.stmt s = .invoke call) {recv : Option ClassId}
    (hrecv : ∀ c ∈ recv, p.classes.Holds c) :
    q.calleeAt (recv.map ρ.cls) (ρ.site s) = .ok m ↔ p.calleeAt recv s = .ok m := by
  have hbound : (call.mapClass ρ.cls).boundClass (recv.map ρ.cls) =
      ρ.cls (call.boundClass recv) := by
    simp only [Call.boundClass, Call.mapClass]
    cases call.kind <;> cases recv <;> rfl
  have hholds : p.classes.Holds (call.boundClass recv) := by
    have htarget := ρ.target h
    rw [Call.boundClass]
    cases recv with
    | none => cases call.kind <;> exact htarget
    | some c =>
      have hc := hrecv c rfl
      cases call.kind
      · exact htarget
      · exact htarget
      · exact hc
      · exact hc
      · exact htarget
  rw [calleeAt_eq_ok (ρ.stmt_invoke h), calleeAt_eq_ok h, hbound]
  exact and_congr_right' (by rw [← ρ.dispatch hholds]; rfl)

theorem holds_cls (hwf : p.WellFormed) (ho : p.objectAt o.obj.site = .ok o.obj) :
    ∀ c ∈ some o.obj.cls, p.classes.Holds c := by
  obtain ⟨⟨x, name, -, -, hc⟩, -⟩ := of_objectAt ho
  intro c h
  rw [← Option.some.inj h]
  exact hwf.names name _ hc

theorem mem_body (hp : p.WellFormed) (hq : q.WellFormed) (h : s ∈ (p.methodDecl m).stmts) :
    ρ.site s ∈ (q.methodDecl m).stmts := by
  obtain ⟨hs, hm⟩ := hp.body.mp h
  exact hq.body.mpr ⟨ρ.holds hs, by rw [ρ.container hs, hm]⟩

theorem mem_returns (ρ : Renaming p q) (hp : p.WellFormed) (hq : q.WellFormed) {v : VarId}
    (h : v ∈ (p.methodDecl m).returns) : v ∈ (q.methodDecl m).returns := by
  obtain ⟨s, hst, hm⟩ := hp.returns.mp h
  have hs : p.stmts.Holds s := holds_of_stmt_ne (by simp [hst])
  exact hq.returns.mpr ⟨ρ.site s, ρ.stmt_eq hst (by simp), by rw [ρ.container hs, hm]⟩

/-- What follows from facts about one program follows from their images about the other. -/
theorem infers (hp : p.WellFormed) (hq : q.WellFormed) {L K : Set Fact}
    (hL : ∀ f ∈ L, ρ.fact f ∈ K) (hobj : ∀ x o, .pts x o ∈ L → p.objectAt o.obj.site = .ok o.obj)
    {f : Fact} (h : Infers p π L f) : Infers q π K (ρ.fact f) := by
  cases h with
  | entry h => exact .entry (ρ.entry.trans h)
  | @new c m s x t obj hm hs h ho =>
    rw [fact, heapObj, ρ.forObject]
    exact .new (hL _ hm) (ρ.mem_body hp hq hs) (ρ.stmt_eq h (by simp)) (ρ.objectAt hp ho)
  | copy hm hs h =>
    exact .copy (hL _ hm) (ρ.mem_body hp hq hs) (ρ.stmt_eq h (by simp))
  | loadStatic hm hs h =>
    exact .loadStatic (hL _ hm) (ρ.mem_body hp hq hs) (ρ.stmt_eq h (by simp))
  | storeStatic hm hs h =>
    exact .storeStatic (hL _ hm) (ρ.mem_body hp hq hs) (ρ.stmt_eq h (by simp))
  | load hm hs h ho =>
    exact .load (hL _ hm) (ρ.mem_body hp hq hs) (ρ.stmt_eq h (by simp)) (hL _ ho)
  | store hm hs h ho =>
    exact .store (hL _ hm) (ρ.mem_body hp hq hs) (ρ.stmt_eq h (by simp)) (hL _ ho)
  | arrayLoad hm hs h ho =>
    exact .arrayLoad (hL _ hm) (ρ.mem_body hp hq hs) (ρ.stmt_eq h (by simp)) (hL _ ho)
  | arrayStore hm hs h ho =>
    exact .arrayStore (hL _ hm) (ρ.mem_body hp hq hs) (ρ.stmt_eq h (by simp)) (hL _ ho)
  | staticCall hm hs h hk hc =>
    rw [fact, ρ.forStaticCall]
    exact .staticCall (hL _ hm) (ρ.mem_body hp hq hs) (ρ.stmt_invoke h) hk
      ((ρ.calleeAt h (by simp)).mpr hc)
  | instanceCall hm hs h hk hb ho hc =>
    rw [fact, ρ.calleeContext]
    have himage := Infers.instanceCall (π := π) (hL _ hm) (ρ.mem_body hp hq hs) (ρ.stmt_invoke h)
      hk hb (hL _ ho) ((ρ.calleeAt h (holds_cls hp (hobj _ _ ho))).mpr hc)
    exact himage
  | receiver hm hs h hk hb ho hc ht =>
    rw [fact, location, ρ.calleeContext]
    exact .receiver (hL _ hm) (ρ.mem_body hp hq hs) (ρ.stmt_invoke h) hk hb (hL _ ho)
      ((ρ.calleeAt h (holds_cls hp (hobj _ _ ho))).mpr hc) ((ρ.this _).trans ht)
  | callee h => exact .callee (hL _ h)
  | argument hc h ha =>
    refine .argument (hL _ hc) (ρ.stmt_invoke h) ?_
    rw [ρ.params]
    exact ha
  | result hc h hx hv =>
    exact .result (hL _ hc) (ρ.stmt_invoke h) hx (ρ.mem_returns hp hq hv)
  | along hf ho => exact .along (hL _ hf) (hL _ ho)

/-- Each fact about one program has its image among those about the other. -/
theorem fact_mem (hp : p.WellFormed) (hq : q.WellFormed) {f : Fact} (hf : f ∈ leastFacts p π) :
    ρ.fact f ∈ leastFacts q π := by
  let L : Set Fact := {g | ρ.fact g ∈ leastFacts q π ∧ g.Fits p π.bound}
  have hclosed : Closed p π L := by
    intro g hg
    constructor
    · apply closed_leastFacts q π
      exact ρ.infers hp hq (fun _ h => h.1) (fun _ _ h => h.2.2.obj) hg
    · apply closed_fits hp π
      exact hg.mono fun _ h => h.2
  exact (leastFacts_subset hclosed hf).1

theorem callsResolve (ρ : Renaming p q) (hp : p.WellFormed) (hq : q.WellFormed)
    (h : CallsResolve q (leastFacts q π)) : CallsResolve p (leastFacts p π) where
  dynamic hm hs hst := by
    have hkind := h.dynamic (ρ.fact_mem hp hq hm) (ρ.mem_body hp hq hs) (ρ.stmt_invoke hst)
    exact hkind
  staticCall hm hs hst hk := by
    obtain ⟨callee, hc⟩ :=
      h.staticCall (ρ.fact_mem hp hq hm) (ρ.mem_body hp hq hs) (ρ.stmt_invoke hst) hk
    exact ⟨callee, (ρ.calleeAt hst (by simp)).mp hc⟩
  instanceCall {_ _ _ _ _ o} hm hs hst hk hb ho := by
    have hfits := leastFacts_subset (closed_fits hp π) ho
    obtain ⟨callee, hc⟩ := h.instanceCall (ρ.fact_mem hp hq hm) (ρ.mem_body hp hq hs)
      (ρ.stmt_invoke hst) hk hb (ρ.fact_mem hp hq ho)
    exact ⟨callee, (ρ.calleeAt hst (holds_cls hp hfits.2.obj)).mp hc⟩

end Renaming

end Program

namespace Solution

variable {p q : Program} {r r' : Solution}

/-- With the contexts left out, what a solution says is said by another one of the statements that
`σ` gives in their place. -/
structure CarriedBy (σ : StmtId → StmtId) (r r' : Solution) : Prop where
  reachable {m} (h : m ∈ r.plainCalls.reachable) : m ∈ r'.plainCalls.reachable
  edges {k s m} (h : ⟨k, s, m⟩ ∈ r.plainCalls.edges) : ⟨k, σ s, m⟩ ∈ r'.plainCalls.edges
  varSites {v s} (h : s ∈ r.varSites v) : σ s ∈ r'.varSites v
  staticSites {f s} (h : s ∈ r.staticSites f) : σ s ∈ r'.staticSites f
  fieldSites {base f s} (h : s ∈ r.fieldSites base f) : σ s ∈ r'.fieldSites (σ base) f

theorem carriedBy_of_facts (ρ : p.Renaming q) (hr : r.Valid p) (hr' : r'.Valid q)
    (h : ∀ f ∈ r.facts, ρ.fact f ∈ r'.facts) : r.CarriedBy ρ.site r' where
  reachable {m} hm := by
    obtain ⟨c, hc⟩ := (r.plainCalls_spec.1 m).mp hm
    exact (r'.plainCalls_spec.1 m).mpr ⟨_, h _ hc⟩
  edges {k s m} he := by
    obtain ⟨c, d, hcall⟩ := (r.plainCalls_spec.2 k s m).mp he
    exact (r'.plainCalls_spec.2 k (ρ.site s) m).mpr ⟨_, _, h _ hcall⟩
  varSites hs := by
    obtain ⟨c, o, ho, rfl⟩ := (mem_varSites hr).mp hs
    exact (mem_varSites hr').mpr ⟨_, _, h _ ho, rfl⟩
  staticSites hs := by
    obtain ⟨o, ho, rfl⟩ := (mem_staticPointees hr).mp hs
    exact (mem_staticPointees hr').mpr ⟨_, h _ ho, rfl⟩
  fieldSites hs := by
    obtain ⟨b, o, ho, rfl, rfl⟩ := (mem_fieldSites hr).mp hs
    exact (mem_fieldSites hr').mpr ⟨_, _, h _ ho, rfl, rfl⟩

end Solution

/-- If the analysis of the renamed program succeeds then so does that of the program itself, and
what it finds is carried over. -/
theorem Program.Renaming.carries {p q : Program} (ρ : p.Renaming q) (hp : p.Finished)
    (hq : q.Finished) {π : Policy} {r' : Solution} (hr' : (analyze q π).1 = .ok r') :
    ∃ r, (analyze p π).1 = .ok r ∧ r.CarriedBy ρ.site r' := by
  have hto := analyzesTo_analyze hq π
  have hfrom := analyzesTo_analyze hp π
  rw [hr'] at hto
  obtain ⟨hentry, hfacts', hres⟩ := hto.of_ok hq
  rw [ρ.entry] at hentry
  obtain ⟨r, hr⟩ := (hfrom.isOk_iff hp).mpr
    ⟨hentry, ρ.callsResolve hp.wellFormed hq.wellFormed hres⟩
  rw [hr] at hfrom
  have hfacts := (hfrom.of_ok hp).2.1
  refine ⟨r, hr, Solution.carriedBy_of_facts ρ (Solution.valid_of_analyze hr)
    (Solution.valid_of_analyze hr') fun f hf => ?_⟩
  rw [hfacts] at hf
  rw [hfacts']
  exact ρ.fact_mem hp.wellFormed hq.wellFormed hf

end PointsTo
