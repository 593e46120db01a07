import PointsTo.Proofs.Checked
import PointsTo.Proofs.Coherence

namespace PointsTo

namespace Checked

open Propagation

section Definitions

variable (p : Program) (π : Policy)

def objectOf (A : AbstractStore) (o : CtxObjId) : Option Obj := do
  let q ← A.ctxObjects.values.get? o
  A.objects.values.get? q.id

def heapContextOf (A : AbstractStore) (o : CtxObjId) : Option Context := do
  let q ← A.ctxObjects.values.get? o
  A.contexts.values.get? q.context

def objectAt (site : StmtId) : Option (Except AnalysisError Obj) := do
  match ← p.stmts.get? site with
  | .new _ type =>
    match Program.runtimeClassName? type with
    | none => return .error (.primitiveAllocation type)
    | some name =>
      match p.findClass? name with
      | none => return .error (.unknownClass name)
      | some cls =>
        let place ← p.places.get? site
        let method ← p.methods.get? place.method
        return .ok { site, type, cls, container := place.method, containerClass := method.cls }
  | _ =>
    let label ← stmtLabel p site
    return .error (.notAnAllocation label)

def connect (s : State) (source target : Pointer) : Option State := do
  let (x, s) := s.internPointer source
  let (y, s) := s.internPointer target
  match s.flow.insertEdge x y with
  | (false, _) => return s
  | (true, flow) =>
    let s := { s with flow }
    let set ← s.store.sets.get? x
    return if set.isEmpty then s else s.send y set

def enter (s : State) (m : CtxMethod) : Option State := do
  let method ← p.methods.get? m.id
  let sites := method.calls.toList.map fun site => (⟨m.context, site⟩ : CtxSite)
  match s.calls.insertMethod m sites with
  | (false, _) => return s
  | (true, calls) =>
    return { s with calls }.report (.reached m)
      |>.plan (method.stmts.toList.map fun st => .exec m.context st)

def exec (s : State) (c : ContextId) (st : StmtId) : Option (Except AnalysisError State) := do
  match ← p.stmts.get? st with
  | .new target _ =>
    let obj ← objectAt p st
    let context ← s.store.contexts.values.get? c
    return obj.map fun obj =>
      let (h, s) := s.internContext (π.forObject context)
      let (o, s) := s.internObject h obj
      let (x, s) := s.internPointer (.var ⟨c, target⟩)
      s.send x (.singleton o)
  | .copy target source =>
    let s ← connect s (.var ⟨c, source⟩) (.var ⟨c, target⟩)
    return .ok s
  | .load target none field =>
    let s ← connect s (.static field) (.var ⟨c, target⟩)
    return .ok s
  | .store none field source =>
    let s ← connect s (.var ⟨c, source⟩) (.static field)
    return .ok s
  | .invoke call =>
    match call.kind with
    | .static =>
      let callee ← calleeAt p none st
      let context ← s.store.contexts.values.get? c
      return callee.map fun callee =>
        let (d, s) := s.internContext (π.forStaticCall context st)
        s.addCall .static ⟨c, st⟩ ⟨d, callee⟩
    | .dynamic =>
      let label ← stmtLabel p st
      return .error (.unrecognizedKind label .dynamic)
    | .special | .virtual | .interface => return .ok s
  | .load _ (some _) _ | .store (some _) _ _ | .arrayLoad .. | .arrayStore .. | .ret _ =>
    return .ok s

def bindCall (s : State) (site : CtxSite) (callee : CtxMethod) :
    Option (Except AnalysisError State) := do
  match ← callAt p site.id with
  | .error e => return .error e
  | .ok call =>
    let method ← p.methods.get? callee.id
    let s ← (call.args.zip method.params.toList).foldlM (fun s a =>
      connect s (.var ⟨site.context, a.1⟩) (.var ⟨callee.context, a.2⟩)) s
    match call.result with
    | none => return .ok s
    | some result =>
      let target := Pointer.var ⟨site.context, result⟩
      let (_, s) := s.internPointer target
      let s ← method.returns.toList.foldlM (fun s value =>
        connect s (.var ⟨callee.context, value⟩) target) s
      return .ok s

def access (s : State) (c : ContextId) (o : CtxObjId) (st : StmtId) : Option State := do
  match ← p.stmts.get? st with
  | .store _ field source => connect s (.var ⟨c, source⟩) (.field o field)
  | .load target _ field => connect s (.field o field) (.var ⟨c, target⟩)
  | .arrayStore _ _ source => connect s (.var ⟨c, source⟩) (.array o)
  | .arrayLoad target _ _ => connect s (.array o) (.var ⟨c, target⟩)
  | _ => return s

def receive (s : State) (v : CtxVar) (o : CtxObjId) : Option State := do
  let d ← p.vars.get? v.id
  let accesses := d.stores ++ d.loads ++ d.arrayStores ++ d.arrayLoads
  let s ← accesses.toList.foldlM (fun s st => access p s v.context o st) s
  return s.plan (d.calls.toList.map fun site => .invoke ⟨v.context, site⟩ o)

def invoke (s : State) (site : CtxSite) (o : CtxObjId) : Option (Except AnalysisError State) := do
  match ← callAt p site.id with
  | .error e => return .error e
  | .ok call =>
    let obj ← objectOf s.store o
    match ← calleeAt p (some obj.cls) site.id with
    | .error e => return .error e
    | .ok callee =>
      let context ← s.store.contexts.values.get? site.context
      let heap ← heapContextOf s.store o
      let method ← p.methods.get? callee
      let (d, s) := s.internContext (π.forInstanceCall context site.id heap obj)
      let s := match method.this with
        | none => s
        | some this =>
          let (x, s) := s.internPointer (.var ⟨d, this⟩)
          s.send x (.singleton o)
      return .ok (s.addCall call.kind site ⟨d, callee⟩)

def perform (s : State) : Task → Option (Except AnalysisError State)
  | .enter m => do
    let s ← enter p s m
    return .ok s
  | .exec c st => exec p π s c st
  | .bindCall site callee => bindCall p s site callee
  | .receive v o => do
    let s ← receive p s v o
    return .ok s
  | .invoke site o => invoke p π s site o

def arrive (s : State) (x : PointerId) (set : ObjSet) : Option State := do
  let known ← s.store.sets.get? x
  let (delta, grown) := known.absorb set
  if delta.isEmpty then return s
  else
    let s := { s with store := s.store.setPointees x grown }.report (.grown delta.size x)
    let s := (s.flow.successors x).foldl (fun s y => s.send y delta) s
    match ← s.store.pointers.values.get? x with
    | .var v => return s.plan (delta.toList.map (.receive v))
    | _ => return s

end Definitions

variable {p : Program} {π : Policy} {s s' : State} {site : StmtId} {c : ContextId} {o : CtxObjId}

theorem objectAt_eq (hp : p.Linked) (h : p.stmts.Holds site) :
    objectAt p site = some (p.objectAt site) := by
  have hs : p.stmts.get? site = some (p.stmts.get site) := Table.get?_of_holds h
  have hplace : p.places.get? site = some (p.places.get site) := Table.get?_of_holds (hp.place h)
  have hm : p.methods.get? (p.places.get site).method = some (p.methodDecl (p.container site)) :=
    Table.get?_of_holds (hp.wellFormed.container h)
  simp only [objectAt, Program.objectAt, hs, hplace, hm, stmtLabel_eq hp h, Option.bind_eq_bind,
    Option.bind_some, Program.stmt]
  cases p.stmts.get site with
  | new x t =>
    dsimp only
    cases Program.runtimeClassName? t with
    | none => rfl
    | some name =>
      dsimp only
      cases p.findClass? name with
      | none => rfl
      | some cls => rfl
  | _ => rfl

/-- A class that an object is of is one of the program. -/
theorem holds_class_of_objectAt (hwf : p.WellFormed) {obj : Obj} (h : p.objectAt site = .ok obj) :
    p.classes.Holds obj.cls := by
  obtain ⟨⟨x, name, -, -, hname⟩, -⟩ := Program.of_objectAt h
  exact hwf.names name obj.cls hname

theorem objectOf_eq (hs : s.store.Valid p) (ho : s.store.ctxObjects.values.Holds o) :
    objectOf s.store o = some (s.store.objectOf o) := by
  have hq := Table.get?_of_holds ho
  rw [objectOf, hq]
  exact Table.get?_of_holds (hs.ctxObject hq).2

theorem heapContextOf_eq (hs : s.store.Valid p) (ho : s.store.ctxObjects.values.Holds o) :
    heapContextOf s.store o = some (s.store.heapContextOf o) := by
  have hq := Table.get?_of_holds ho
  rw [heapContextOf, hq]
  exact Table.get?_of_holds (hs.ctxObject hq).1

theorem connect_eq (hs : s.Valid p) {x y : Pointer} (hx : s.store.HasPointer x)
    (hy : s.store.HasPointer y) : connect s x y = some (s.connect x y) := by
  have h₁ : (s.internPointer x).2.store.Grows p s.store :=
    AbstractStore.internPointer_grows hs.store hx
  have h₂ : ((s.internPointer x).2.internPointer y).2.store.Grows p (s.internPointer x).2.store :=
    AbstractStore.internPointer_grows h₁.valid (h₁.hasPointer hy)
  have hsource : ((s.internPointer x).2.internPointer y).2.store.sets.Holds (s.internPointer x).1 :=
    h₂.valid.holds_sets.mpr (h₂.pointers.holds (AbstractStore.holds_internPointer x))
  simp only [connect, State.connect]
  cases ((s.internPointer x).2.internPointer y).2.flow.insertEdge (s.internPointer x).1
      ((s.internPointer x).2.internPointer y).1 with
  | mk isNew flow =>
    cases isNew with
    | false => rfl
    | true =>
      dsimp only
      rw [Table.get?_of_holds hsource]
      rfl

theorem foldlM_eq {α : Type} {op? : State → α → Option State} {op : State → α → State}
    (hs : s.Valid p) (l : List α)
    (h : ∀ s', s'.Valid p → s'.store.Extends s.store → ∀ a ∈ l,
      op? s' a = some (op s' a) ∧ (op s' a).Valid p ∧ (op s' a).store.Extends s'.store) :
    l.foldlM op? s = some (l.foldl op s) := by
  induction l generalizing s with
  | nil => rfl
  | cons a l ih =>
    obtain ⟨ha, hvalid, hext⟩ := h s hs (.refl _) a List.mem_cons_self
    rw [List.foldlM_cons, ha, List.foldl_cons]
    apply ih hvalid
    intro s' hs' hext' b hb
    exact h s' hs' (hext'.trans hext) b (List.mem_cons_of_mem a hb)

theorem enter_eq {m : CtxMethod} (h : p.methods.Holds m.id) :
    enter p s m = some (s.enter p m) := by
  have hget : p.methods.get? m.id = some (p.methodDecl m.id) := Table.get?_of_holds h
  simp only [enter, hget, Option.bind_eq_bind, Option.bind_some, State.enter]
  generalize
    (p.methodDecl m.id).calls.toList.map (fun site => (⟨m.context, site⟩ : CtxSite)) = sites
  cases s.calls.insertMethod m sites with
  | mk isNew calls =>
    cases isNew with
    | false => rfl
    | true => rfl

theorem exec_eq (hp : p.Linked) (hs : s.Valid p) (hc : s.store.contexts.values.Holds c)
    (h : p.stmts.Holds site) : exec p π s c site = some (s.exec p π c site) := by
  have hget : p.stmts.get? site = some (p.stmts.get site) := Table.get?_of_holds h
  have hcontext : s.store.contexts.values.get? c = some (s.context c) := Table.get?_of_holds hc
  simp only [exec, hget, Option.bind_eq_bind, Option.bind_some, State.exec, Program.stmt]
  cases p.stmts.get site with
  | new x t =>
    simp only [objectAt_eq hp h, hcontext, Option.bind_some]
    cases p.objectAt site with
    | error e => rfl
    | ok obj => rfl
  | copy x y =>
    simp only [connect_eq hs (x := .var ⟨c, y⟩) (y := .var ⟨c, x⟩) hc hc, Option.bind_some]
    rfl
  | load x b f =>
    cases b with
    | none =>
      simp only [connect_eq hs (x := .static f) (y := .var ⟨c, x⟩) trivial hc, Option.bind_some]
      rfl
    | some b => rfl
  | store b f y =>
    cases b with
    | none =>
      simp only [connect_eq hs (x := .var ⟨c, y⟩) (y := .static f) hc trivial, Option.bind_some]
      rfl
    | some b => rfl
  | arrayLoad | arrayStore | ret => rfl
  | invoke call =>
    have hcallee : calleeAt p none site = some (p.calleeAt none site) :=
      calleeAt_eq hp h fun c hc => by cases hc
    dsimp only
    cases call.kind with
    | static =>
      simp only [hcallee, hcontext, Option.bind_some]
      cases p.calleeAt none site with
      | error e => rfl
      | ok callee => rfl
    | dynamic =>
      simp only [stmtLabel_eq hp h, Option.bind_some]
      rfl
    | special | virtual | interface => rfl

theorem connectAll_eq {α : Type} (hs : s.Valid p) (l : List α) {x y : α → Pointer}
    (hx : ∀ a ∈ l, s.store.HasPointer (x a)) (hy : ∀ a ∈ l, s.store.HasPointer (y a)) :
    l.foldlM (fun s a => connect s (x a) (y a)) s =
      some (l.foldl (fun s a => s.connect (x a) (y a)) s) := by
  apply foldlM_eq hs
  intro s' hs' hext a ha
  have hxa := hext.hasPointer (hx a ha)
  have hya := hext.hasPointer (hy a ha)
  have heffect := State.effect_connect hs' hxa hya
  exact ⟨connect_eq hs' hxa hya, heffect.valid, heffect.store⟩

theorem bindCall_eq (hp : p.Linked) (hs : s.Valid p) {call : CtxSite} {m : CtxMethod}
    (hc : s.store.contexts.values.Holds call.context) (hm : s.store.contexts.values.Holds m.context)
    (h : p.stmts.Holds call.id) (hcallee : p.methods.Holds m.id) :
    bindCall p s call m = some (s.bindCall p call m) := by
  have hget : p.methods.get? m.id = some (p.methodDecl m.id) := Table.get?_of_holds hcallee
  simp only [bindCall, callAt_eq hp h, hget, Option.bind_eq_bind, Option.bind_some, State.bindCall]
  cases p.callAt call.id with
  | error e => rfl
  | ok invoked =>
    have hargs := connectAll_eq hs (invoked.args.zip (p.methodDecl m.id).params.toList)
      (x := fun a => .var ⟨call.context, a.1⟩) (y := fun a => .var ⟨m.context, a.2⟩)
      (fun _ _ => hc) (fun _ _ => hm)
    have heffect := State.effect_arguments hs hc hm invoked m.id
    simp only [bind, Except.bind, hargs, Option.bind_some]
    cases invoked.result with
    | none => rfl
    | some result =>
      have hcr := heffect.store.contexts.holds hc
      have hintern := State.effect_grows heffect.valid
        (AbstractStore.internPointer_grows heffect.valid.store (x := .var ⟨call.context, result⟩)
          hcr)
      have hresults := connectAll_eq hintern.valid (p.methodDecl m.id).returns.toList
        (x := fun v => .var ⟨m.context, v⟩) (y := fun _ => .var ⟨call.context, result⟩)
        (fun _ _ => hintern.store.contexts.holds (heffect.store.contexts.holds hm))
        (fun _ _ => hintern.store.contexts.holds hcr)
      exact congrArg (Option.bind · fun s => some (Except.ok s)) hresults

theorem access_eq (hs : s.Valid p) (hc : s.store.contexts.values.Holds c)
    (ho : s.store.ctxObjects.values.Holds o) (h : p.stmts.Holds site) :
    access p s c o site = some (s.access p c o site) := by
  have hget : p.stmts.get? site = some (p.stmts.get site) := Table.get?_of_holds h
  simp only [access, hget, Option.bind_eq_bind, Option.bind_some, State.access, Program.stmt]
  cases p.stmts.get site with
  | store b f y => exact connect_eq hs hc ho
  | load x b f => exact connect_eq hs ho hc
  | arrayStore b i y => exact connect_eq hs hc ho
  | arrayLoad x b i => exact connect_eq hs ho hc
  | _ => rfl

theorem receive_eq (hwf : p.WellFormed) (hs : s.Valid p) {v : CtxVar}
    (hc : s.store.contexts.values.Holds v.context) (ho : s.store.ctxObjects.values.Holds o)
    (h : p.vars.Holds v.id) : receive p s v o = some (s.receive p v o) := by
  have hget : p.vars.get? v.id = some (p.varDecl v.id) := Table.get?_of_holds h
  have hall : (p.varDecl v.id).accesses.toList.foldlM (fun s st => access p s v.context o st) s =
      some ((p.varDecl v.id).accesses.toList.foldl (fun s st => s.access p v.context o st) s) := by
    apply foldlM_eq hs
    intro s' hs' hext st hst
    obtain ⟨u, -, huse⟩ := VarDecl.mem_accesses.mp hst
    have hbody := hwf.mem_body_of_use? (hwf.uses.mp huse)
    have hcs := hext.contexts.holds hc
    have hos := hext.ctxObjects.holds ho
    have heffect := State.effect_access hs' hcs hos st
    exact ⟨access_eq hs' hcs hos (hwf.body.mp hbody).1, heffect.valid, heffect.store⟩
  let tasks : List Task := (p.varDecl v.id).calls.toList.map fun call => .invoke ⟨v.context, call⟩ o
  simp only [receive, hget, Option.bind_eq_bind, Option.bind_some]
  exact congrArg (Option.bind · fun s => some (State.plan s tasks)) hall

theorem invoke_eq (hp : p.Linked) (hs : s.Valid p) {call : CtxSite}
    (hc : s.store.contexts.values.Holds call.context) (ho : s.store.ctxObjects.values.Holds o)
    (h : p.stmts.Holds call.id) : invoke p π s call o = some (s.invoke p π call o) := by
  have hobject : p.objectAt (s.store.objectOf o).site = .ok (s.store.objectOf o) :=
    hs.store.object (Table.get?_of_holds (hs.store.ctxObject (Table.get?_of_holds ho)).2)
  have hclass := holds_class_of_objectAt hp.wellFormed hobject
  have hcallee : calleeAt p (some (s.store.objectOf o).cls) call.id =
      some (p.calleeAt (some (s.store.objectOf o).cls) call.id) :=
    calleeAt_eq hp h fun d hd => Option.some.inj hd ▸ hclass
  have hcontext : s.store.contexts.values.get? call.context = some (s.context call.context) :=
    Table.get?_of_holds hc
  simp only [invoke, callAt_eq hp h, objectOf_eq hs.store ho, hcallee, hcontext,
    heapContextOf_eq hs.store ho, Option.bind_eq_bind, Option.bind_some, State.invoke]
  cases p.callAt call.id with
  | error e => rfl
  | ok invoked =>
    simp only [bind, Except.bind]
    cases hm : p.calleeAt (some (s.store.objectOf o).cls) call.id with
    | error e => rfl
    | ok callee =>
      have hget : p.methods.get? callee = some (p.methodDecl callee) :=
        Table.get?_of_holds (hp.wellFormed.holds_of_calleeAt hm)
      simp only [hget, Option.bind_some]
      rfl

end Checked

namespace Propagation

variable {p : Program} {π : Policy} {entry : MethodId} {s s' : State}

/-- What a task names in the program is there. -/
def Task.InRange (p : Program) : Task → Prop
  | enter m => p.methods.Holds m.id
  | exec _ st => p.stmts.Holds st
  | bindCall site callee => p.stmts.Holds site.id ∧ p.methods.Holds callee.id
  | receive v _ => p.vars.Holds v.id
  | invoke site _ => p.stmts.Holds site.id

/-- The facts of a run are about what is there. -/
theorem Moves.fits (hwf : p.WellFormed) (he : p.entry = some entry)
    (h : Moves p π (start π entry) s) : ∀ f ∈ s.facts, f.Fits p π.bound := by
  intro f hf
  exact ((h.inside hwf (closed_fits hwf π) he).facts hf).1

/-- The tasks of a run are about what is there. -/
theorem Moves.inRange (hwf : p.WellFormed) (he : p.entry = some entry)
    (h : Moves p π (start π entry) s) {t : Task} (ht : t ∈ s.agenda) : t.InRange p := by
  have hmem : s.store.chore t ∈ s.chores := ⟨t, ht, rfl⟩
  have hdue := h.due hwf (closed_fits hwf π) he _ hmem
  cases t with
  | enter m =>
    obtain ⟨hasserts, -⟩ := (h.inside hwf (closed_fits hwf π) he).chore hmem
    have hfits := (hasserts (Set.mem_singleton _)).1
    exact hfits.2
  | exec c st =>
    obtain ⟨m, -, hst⟩ := hdue
    exact (hwf.body.mp hst).1
  | bindCall site callee =>
    obtain ⟨k, -, hsite, -, hcallee⟩ := hdue
    exact ⟨hsite, hcallee⟩
  | receive v o => exact hdue.1.1.2
  | invoke site o =>
    obtain ⟨v, -, hsite⟩ := hdue
    have hbody := hwf.mem_body_of_use? (u := .call) (hwf.uses.mp hsite)
    exact (hwf.body.mp hbody).1

end Propagation

namespace Checked

open Propagation

variable {p : Program} {π : Policy} {entry : MethodId} {s s' : State}

theorem perform_eq (hp : p.Linked) (hs : s.Valid p) {t : Task} (ht : s.store.HasTask t)
    (h : t.InRange p) : perform p π s t = some (s.perform p π t) := by
  cases t with
  | enter m => exact congrArg (Option.bind · fun s => some (Except.ok s)) (enter_eq h)
  | exec c st => exact exec_eq hp hs ht h
  | bindCall site callee => exact bindCall_eq hp hs ht.1 ht.2 h.1 h.2
  | receive v o =>
    exact congrArg (Option.bind · fun s => some (Except.ok s))
      (receive_eq hp.wellFormed hs ht.1 ht.2 h)
  | invoke site o => exact invoke_eq hp hs ht.1 ht.2 h

theorem arrive_eq (hs : s.Valid p) {x : PointerId} (h : s.store.pointers.values.Holds x)
    (set : ObjSet) : arrive s x set = some (s.arrive x set) := by
  have hset : s.store.sets.get? x = some (s.store.pointees x) :=
    Table.get?_of_holds (hs.store.holds_sets.mpr h)
  simp only [arrive, hset, Option.bind_eq_bind, Option.bind_some, State.arrive, ObjSet.absorb]
  by_cases hd : ((s.store.pointees x).missing set).isEmpty
  · simp only [hd, if_true]
    rfl
  · simp only [hd, Bool.false_eq_true, if_false]
    rw [← Array.foldl_toList]
    generalize hfold : List.foldl _ _ _ = t
    have hstore : t.store = s.store.setPointees x ((s.store.pointees x).union set) := by
      obtain ⟨queue, hqueue, -⟩ := State.foldl_send _ _ _
      rw [← hfold, hqueue]
      rfl
    have hpointer : t.store.pointers.values.get? x = some (t.store.pointer x) := by
      apply Table.get?_of_holds
      rw [hstore]
      exact h
    rw [hpointer, Option.bind_some]
    cases t.store.pointer x with
    | var v => rfl
    | _ => rfl

end Checked

end PointsTo
