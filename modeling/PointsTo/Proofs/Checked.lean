import PointsTo.Proofs.Bodies
import PointsTo.Proofs.CallSearch
import PointsTo.Proofs.Frames
import PointsTo.Proofs.Naming

/-!
Lookups that are checked. A table gives a blank for an identifier that it does not hold, and here is
a copy of dispatch and of class hierarchy analysis that stops there instead. On a finished program
it never stops: what the analysis looks up is always there.
-/
namespace PointsTo

namespace Draft

variable {d : Draft}

/-- A statement more at most, and the one that is given. -/
theorem stmts_appendStmt (hd : d.program.Ready) (m : MethodId) (stmt : Stmt) :
    (exec (appendStmt m stmt) d).2.program.stmts = d.program.stmts ∨
      (exec (appendStmt m stmt) d).2.program.stmts = d.program.stmts.push stmt := by
  by_cases hcheck : d.program.checkStmt m stmt = .ok ()
  · obtain ⟨s, d', hx, hp⟩ := exec_appendStmt hd hcheck
    right
    rw [hx, hp, Program.stmts_pushStmt, Program.mention?_eq]
  · obtain ⟨e, hx⟩ := exec_appendStmt_error hcheck
    left
    rw [hx]

theorem stmts_run (hd : d.program.Ready) (a : Action) (ha : a.Known d.program) :
    (exec a.run d).2.program.stmts = d.program.stmts ∨ ∃ s, (exec a.run d).2.program.stmts =
      d.program.stmts.push s ∧ ∀ call ∈ s.call?, d.program.classes.Holds call.target.cls := by
  cases a with
  | defineClass name flags => exact .inl ((keeps_defineClass name flags).stmts.discard d)
  | extendClass c superclass => exact .inl ((keeps_extendClass c superclass).stmts.discard d)
  | implement c interface => exact .inl ((keeps_implement c interface).stmts.discard d)
  | declareField c name type flags =>
    exact .inl ((keeps_declareField c name type flags).stmts.discard d)
  | declareMethod c g flags names =>
    exact .inl ((keepsStmts_declareMethod c g flags names).discard d)
  | declareLocal m name type => exact .inl ((keepsStmts_declareLocal m name type).discard d)
  | referTo className g => exact .inl ((keeps_referTo className g).stmts.discard d)
  | startAt m => exact .inl rfl
  | appendStmt m stmt =>
    have hx : (exec (Action.appendStmt m stmt).run d).2 = (exec (appendStmt m stmt) d).2 :=
      exec_discard_snd _
    rw [hx]
    rcases stmts_appendStmt hd m stmt with h | h
    · exact .inl h
    · exact .inr ⟨stmt, h, ha.2.2⟩

/-- The classes named at calls are classes of the draft. -/
theorem Built.holds_target (h : Built d) {s : StmtId} {call : Call}
    (hst : d.program.stmt s = .invoke call) : d.program.classes.Holds call.target.cls := by
  induction h with
  | empty => cases hst
  | @act d hd a ha ih =>
    have hgrow : Program.Edits d.program (exec a.run d).2.program := (a.careful hd.ready ha).edits
    apply hgrow.holds_class
    rcases stmts_run hd.ready a ha with hs | ⟨t, hs, ht⟩
    · apply ih
      rw [Program.stmt, ← hs]
      exact hst
    · rw [Program.stmt, hs, Table.get_push] at hst
      split at hst
      · exact ht call (by rw [hst]; rfl)
      · exact ih hst

end Draft

namespace Program

variable {p : Program}

/-- The links and calls of a program lead to its classes. -/
structure Linked (p : Program) : Prop where
  wellFormed : p.WellFormed
  link {l} (h : l ∈ p.hierarchy.links) : p.classes.Holds l.sub ∧ p.classes.Holds l.sup
  target {s call} (h : p.stmt s = .invoke call) : p.classes.Holds call.target.cls
  place {s} (h : p.stmts.Holds s) : p.places.Holds s

theorem Finished.linked (h : p.Finished) : p.Linked where
  wellFormed := h.wellFormed
  link := h.registered.link
  target {s call} hst := by
    obtain ⟨d, d', hd, hx⟩ := h
    have hregistered := hd.edits.registered registered_empty
    have hstmts : p.stmts = d.program.stmts :=
      congrArg (·.2.2.1) (Draft.bodies_complete hregistered hx)
    obtain ⟨hedits, -⟩ := Draft.complete_edits hd.ready hx
    apply hedits.holds_class
    apply hd.holds_target (s := s)
    rw [stmt, ← hstmts]
    exact hst
  place {s} hs := by
    rw [Table.Holds, h.registered.counted.places]
    exact hs

end Program

section Lists

variable {α β : Type} {l : List α}

theorem mapM_eq_some {f? : α → Option β} {f : α → β} (h : ∀ a ∈ l, f? a = some (f a)) :
    l.mapM f? = some (l.map f) := by
  induction l with
  | nil => rfl
  | cons a l ih =>
    have ha := h a List.mem_cons_self
    have hl := ih fun b hb => h b (List.mem_cons_of_mem a hb)
    rw [List.mapM_cons, ha, hl]
    rfl

theorem findSomeM?_eq_some {f? : α → Option (Option β)} {f : α → Option β}
    (h : ∀ a ∈ l, f? a = some (f a)) : l.findSomeM? f? = some (l.findSome? f) := by
  induction l with
  | nil => rfl
  | cons a l ih =>
    have ha := h a List.mem_cons_self
    have hl := ih fun b hb => h b (List.mem_cons_of_mem a hb)
    rw [List.findSomeM?, ha, List.findSome?_cons]
    cases f a with
    | none => exact hl
    | some b => rfl

end Lists

namespace Checked

variable (p : Program)

def methodLabel (m : MethodId) : Option String := (p.methods.get? m).map (·.label)

def className (c : ClassId) : Option String := (p.classes.get? c).map (·.name)

def stmtLabel (s : StmtId) : Option String := do
  let place ← p.places.get? s
  let label ← methodLabel p place.method
  return label ++ "[" ++ toString place.position ++ "]"

/-- Keeps a method that was found if its declaration satisfies `keep`. -/
def filterMethod (keep : MethodDecl → Bool) : Option MethodId → Option (Option MethodId)
  | none => some none
  | some m => do
    let method ← p.methods.get? m
    return if keep method then some m else none

def concreteMethod (g : Signature) (c : ClassId) : Option (Option MethodId) := do
  let decl ← p.classes.get? c
  filterMethod p (!·.isAbstract) (decl.declaredMethod? g)

def defaultMethod (g : Signature) (c : ClassId) : Option (Option MethodId) := do
  let decl ← p.classes.get? c
  if decl.isInterface then
    let found ← concreteMethod p g c
    filterMethod p (!·.isStatic) found
  else
    return none

def superclassesWithin : (fuel : Nat) → Option ClassId → Option (List ClassId)
  | 0, _ => some []
  | _, none => some []
  | fuel + 1, some c => do
    let decl ← p.classes.get? c
    let chain ← superclassesWithin fuel decl.superclass
    return c :: chain

def dispatch (c : ClassId) (g : Signature) : Option (Option MethodId) := do
  let chain ← superclassesWithin p p.classes.size (some c)
  match ← chain.findSomeM? (concreteMethod p g) with
  | some m => return some m
  | none => (p.hierarchy.supertypes c).findSomeM? (defaultMethod p g)

def directSubtypes (c : ClassId) : Option (List ClassId) := do
  let decl ← p.classes.get? c
  let extending := p.hierarchy.directSubtypes .extends c
  return if decl.isInterface then p.hierarchy.directSubtypes .implements c ++ extending
    else extending

def searchFrom {α : Type} [DecidableEq α] (next : α → Option (List α)) :
    (fuel : Nat) → (queue seen : List α) → Option (List α)
  | 0, _, seen => some seen
  | _, [], seen => some seen
  | fuel + 1, x :: queue, seen => do
    let found ← next x
    let fresh := found.eraseDups.filter (· ∉ seen)
    searchFrom next fuel (queue ++ fresh) (seen ++ fresh)

def possibleClasses (root : ClassId) : Option (List ClassId) :=
  searchFrom (directSubtypes p) (p.hierarchy.links.size + 1) [root] [root]

def callAt (site : StmtId) : Option (Except AnalysisError Call) := do
  let stmt ← p.stmts.get? site
  match stmt.call? with
  | some call => return .ok call
  | none =>
    let label ← stmtLabel p site
    return .error (.notACall label)

def dispatchAt (site : StmtId) (c : ClassId) (g : Signature) :
    Option (Except AnalysisError MethodId) := do
  match ← dispatch p c g with
  | some m => return .ok m
  | none =>
    let label ← stmtLabel p site
    let name ← className p c
    return .error (.unresolvedDispatch label name g)

def calleeAt (receiver : Option ClassId) (site : StmtId) :
    Option (Except AnalysisError MethodId) := do
  match ← callAt p site with
  | .error e => return .error e
  | .ok call =>
    let ⟨c, g⟩ := call.target
    match call.kind with
    | .static =>
      match ← dispatch p c g with
      | some m => return .ok m
      | none =>
        let name ← className p c
        return .error (.methodNotFound (PointsTo.methodLabel name g))
    | .special => dispatchAt p site c g
    | .virtual | .interface => dispatchAt p site (receiver.getD c) g
    | .dynamic =>
      let label ← stmtLabel p site
      return .error (.unrecognizedKind label .dynamic)

def chaTargets (site : StmtId) : Option (Except AnalysisError (List MethodId)) := do
  match ← callAt p site with
  | .error e => return .error e
  | .ok call =>
    match call.kind with
    | .static | .special | .dynamic =>
      let callee ← calleeAt p none site
      return callee.map ([·])
    | .virtual | .interface =>
      let ⟨c, g⟩ := call.target
      let classes ← possibleClasses p c
      let found ← classes.mapM (dispatch p · g)
      return .ok (Id.sort (found.filterMap id).eraseDups)

section Program

variable {p : Program} {c : ClassId} {m : MethodId} {site : StmtId} {g : Signature}

theorem methodLabel_eq (h : p.methods.Holds m) : methodLabel p m = some (p.methodLabel m) := by
  rw [methodLabel, Table.get?_of_holds h]
  rfl

theorem className_eq (h : p.classes.Holds c) : className p c = some (p.classDecl c).name := by
  rw [className, Table.get?_of_holds h]
  rfl

theorem directSubtypes_eq (h : p.classes.Holds c) :
    directSubtypes p c = some (p.directSubtypes c) := by
  rw [directSubtypes, Table.get?_of_holds h]
  rfl

theorem filterMethod_eq {keep : MethodDecl → Bool} {m? : Option MethodId}
    (h : ∀ m ∈ m?, p.methods.Holds m) :
    filterMethod p keep m? = some (m?.filter fun m => keep (p.methodDecl m)) := by
  cases m? with
  | none => rfl
  | some m =>
    rw [filterMethod, Table.get?_of_holds (h m rfl), Option.filter_some]
    rfl

theorem searchFrom_eq {α : Type} [DecidableEq α] {next? : α → Option (List α)} {next : α → List α}
    {I : α → Prop} (hnext : ∀ x, I x → next? x = some (next x) ∧ ∀ y ∈ next x, I y) (fuel : Nat)
    {queue seen : List α} (hqueue : ∀ x ∈ queue, I x) :
    searchFrom next? fuel queue seen = some (PointsTo.searchFrom next fuel queue seen) := by
  induction fuel generalizing queue seen with
  | zero => rfl
  | succ fuel ih =>
    cases queue with
    | nil => rfl
    | cons x queue =>
      obtain ⟨hx, hfound⟩ := hnext x (hqueue x List.mem_cons_self)
      rw [searchFrom, hx, PointsTo.searchFrom]
      apply ih
      intro y hy
      rcases List.mem_append.mp hy with hy | hy
      · exact hqueue y (List.mem_cons_of_mem x hy)
      · exact hfound y (List.mem_eraseDups.mp (List.mem_of_mem_filter hy))

variable (hp : p.Linked)
include hp

theorem stmtLabel_eq (h : p.stmts.Holds site) : stmtLabel p site = some (p.stmtLabel site) := by
  have hm : methodLabel p (p.places.get site).method = some (p.methodLabel (p.container site)) :=
    methodLabel_eq (hp.wellFormed.container h)
  simp only [stmtLabel, Table.get?_of_holds (hp.place h), Option.bind_eq_bind, Option.bind_some, hm]
  rfl

theorem concreteMethod_eq (h : p.classes.Holds c) :
    concreteMethod p g c = some (p.concreteMethod? g c) := by
  rw [concreteMethod, Table.get?_of_holds h]
  apply filterMethod_eq
  intro m hm
  obtain ⟨l, l', hl, -⟩ := List.lookup_eq_some_iff.mp hm
  have hmem : (g, m) ∈ (p.classDecl c).declared := by
    rw [Program.classDecl, hl]
    exact List.mem_append_right l List.mem_cons_self
  exact hp.wellFormed.declared hmem

theorem defaultMethod_eq (h : p.classes.Holds c) :
    defaultMethod p g c = some (p.defaultMethod? g c) := by
  have hc : p.classes.get? c = some (p.classDecl c) := Table.get?_of_holds h
  rw [defaultMethod, hc, Program.defaultMethod?, Option.bind_eq_bind, Option.bind_some]
  by_cases hi : (p.classDecl c).isInterface
  · rw [if_pos hi, if_pos hi, concreteMethod_eq hp h]
    apply filterMethod_eq
    intro m hm
    exact hp.wellFormed.declared (Program.mem_declared_of_concreteMethod? hm)
  · rw [if_neg hi, if_neg hi]
    rfl

theorem superclassesWithin_eq (fuel : Nat) {c? : Option ClassId}
    (h : ∀ c ∈ c?, p.classes.Holds c) :
    superclassesWithin p fuel c? = some (p.superclassesWithin fuel c?) := by
  induction fuel generalizing c? with
  | zero => rfl
  | succ fuel ih =>
    cases c? with
    | none => rfl
    | some c =>
      have hc : p.classes.get? c = some (p.classDecl c) := Table.get?_of_holds (h c rfl)
      have hchain := ih fun sup hsup => hp.wellFormed.superclass (c := c) hsup
      rw [superclassesWithin, hc, Option.bind_eq_bind, Option.bind_some, hchain]
      rfl

/-- The supertypes of a class are classes of the program, as the class itself. -/
theorem holds_supertypes (h : p.classes.Holds c) {d : ClassId} (hd : d ∈ p.hierarchy.supertypes c) :
    p.classes.Holds d := by
  rcases Relation.ReflTransGen.cases_tail (Program.mem_supertypes_iff.mp hd).2 with
    rfl | ⟨_, -, hlast⟩
  · exact h
  · obtain ⟨l, hl, -, rfl⟩ := Program.mem_parents.mp hlast
    exact (hp.link hl).2

theorem dispatch_eq (h : p.classes.Holds c) : dispatch p c g = some (p.dispatch c g) := by
  have hchain : superclassesWithin p p.classes.size (some c) = some (p.superclassChain c) :=
    superclassesWithin_eq hp p.classes.size fun d hd => Option.some.inj hd ▸ h
  have hfound : (p.superclassChain c).findSomeM? (concreteMethod p g) =
      some ((p.superclassChain c).findSome? (p.concreteMethod? g)) :=
    findSomeM?_eq_some fun d hd =>
      concreteMethod_eq hp (hp.wellFormed.holds_of_mem_superclassesWithin h hd)
  rw [dispatch, hchain, Option.bind_eq_bind, Option.bind_some, hfound, Option.bind_eq_bind,
    Option.bind_some, Program.dispatch]
  cases (p.superclassChain c).findSome? (p.concreteMethod? g) with
  | some m => rfl
  | none => exact findSomeM?_eq_some fun d hd => defaultMethod_eq hp (holds_supertypes hp h hd)

theorem possibleClasses_eq (h : p.classes.Holds c) :
    possibleClasses p c = some (p.possibleClasses c) := by
  apply searchFrom_eq (I := fun c => p.classes.Holds c)
  · intro d hd
    refine ⟨directSubtypes_eq hd, fun e he => ?_⟩
    obtain ⟨l, hl, rfl⟩ := Program.exists_link_of_mem_directSubtypes he
    exact (hp.link hl).1
  · intro d hd
    rw [List.mem_singleton.mp hd]
    exact h

theorem holds_possibleClasses (h : p.classes.Holds c) {d : ClassId} (hd : d ∈ p.possibleClasses c) :
    p.classes.Holds d := by
  rcases Relation.ReflTransGen.cases_tail (Program.mem_possibleClasses_iff.mp hd) with
    rfl | ⟨_, -, hlast⟩
  · exact h
  · obtain ⟨l, hl, rfl⟩ := Program.exists_link_of_mem_directSubtypes hlast
    exact (hp.link hl).1

theorem callAt_eq (h : p.stmts.Holds site) : callAt p site = some (p.callAt site) := by
  have hs : p.stmts.get? site = some (p.stmts.get site) := Table.get?_of_holds h
  rw [callAt, hs, Option.bind_eq_bind, Option.bind_some, stmtLabel_eq hp h, Program.callAt,
    Program.stmt]
  cases (p.stmts.get site).call? with
  | some call => rfl
  | none => rfl

theorem dispatchAt_eq (h : p.stmts.Holds site) (hc : p.classes.Holds c) :
    dispatchAt p site c g = some (p.dispatchAt site c g) := by
  rw [dispatchAt, dispatch_eq hp hc, Option.bind_eq_bind, Option.bind_some, stmtLabel_eq hp h,
    className_eq hc, Program.dispatchAt]
  cases p.dispatch c g with
  | some m => rfl
  | none => rfl

theorem calleeAt_eq (h : p.stmts.Holds site) {receiver : Option ClassId}
    (hreceiver : ∀ c ∈ receiver, p.classes.Holds c) :
    calleeAt p receiver site = some (p.calleeAt receiver site) := by
  rw [calleeAt, callAt_eq hp h, Option.bind_eq_bind, Option.bind_some, Program.calleeAt]
  cases hcall : p.callAt site with
  | error e => rfl
  | ok call =>
    have hc := hp.target (Program.callAt_eq_ok.mp hcall)
    have hrecv : p.classes.Holds (receiver.getD call.target.cls) := by
      cases receiver with
      | none => exact hc
      | some d => exact hreceiver d rfl
    simp only [bind, Except.bind]
    cases call.kind with
    | static =>
      simp only [dispatch_eq hp hc, className_eq hc, Option.bind_some]
      cases p.dispatch call.target.cls call.target.signature with
      | some m => rfl
      | none => rfl
    | special => exact dispatchAt_eq hp h hc
    | virtual | interface => exact dispatchAt_eq hp h hrecv
    | dynamic =>
      rw [stmtLabel_eq hp h]
      rfl

theorem chaTargets_eq (h : p.stmts.Holds site) : chaTargets p site = some (p.chaTargets site) := by
  rw [chaTargets, callAt_eq hp h, Option.bind_eq_bind, Option.bind_some, Program.chaTargets]
  cases hcall : p.callAt site with
  | error e => rfl
  | ok call =>
    have hc := hp.target (Program.callAt_eq_ok.mp hcall)
    have hcallee : calleeAt p none site = some (p.calleeAt none site) :=
      calleeAt_eq hp h fun c hc => by cases hc
    have hfound : (p.possibleClasses call.target.cls).mapM (dispatch p · call.target.signature) =
        some ((p.possibleClasses call.target.cls).map (p.dispatch · call.target.signature)) :=
      mapM_eq_some fun c hmem => dispatch_eq hp (holds_possibleClasses hp hc hmem)
    simp only [bind, Except.bind]
    cases call.kind with
    | static | special | dynamic =>
      rw [hcallee]
      cases p.calleeAt none site with
      | error e => rfl
      | ok m => rfl
    | virtual | interface =>
      simp only [possibleClasses_eq hp hc, Option.bind_some, hfound, List.filterMap_map]
      rfl

end Program

end Checked

namespace Step

variable {σ ρ : Type}

/-- A machine whose steps can fail halts without result when one does. -/
def guarded (step? : σ → Option (Step σ ρ)) (s : σ) : Step σ (Option ρ) :=
  match step? s with
  | none => .halt none
  | some (.next s) => .next s
  | some (.halt r) => .halt (some r)

/-- A machine whose steps do not fail runs as one that takes them without check. -/
theorem steps_guarded (step : σ → Step σ ρ) (step? : σ → Option (Step σ ρ)) (n : Nat) {s : σ}
    (h : ∀ s', Reaches step s s' → step? s' = some (step s')) :
    steps (guarded step?) n s = match steps step n s with
      | .next s => .next s
      | .halt r => .halt (some r) := by
  have hguarded (s' : σ) (hreach : Reaches step s s') :
      guarded step? (id s') = (step s').map id some := by
    rw [guarded, id, h s' hreach]
    cases step s' with
    | next s₁ => rfl
    | halt r => rfl
  refine (steps_map id some hguarded n).trans ?_
  cases steps step n s with
  | next s₁ => rfl
  | halt r => rfl

end Step

namespace HierarchyAnalysis

variable {p : Program} {entry : MethodId} {s s' : State}

/-- What an event names is there. -/
def Event.InRange (p : Program) : Event → Prop
  | reached m => p.methods.Holds m
  | called site callee => p.stmts.Holds site ∧ p.methods.Holds callee
  | finished .. => True

theorem holds_callable (hwf : p.WellFormed) (he : p.entry = some entry) {m : MethodId}
    (hm : m ∈ p.callable entry) : p.methods.Holds m := by
  have hclosed : p.CallClosed entry {m | p.methods.Holds m} := by
    refine ⟨hwf.entry he, fun site call targets _ _ htargets m hm => ?_⟩
    exact (hwf.targets_nodup htargets).2 m hm
  exact (p.isLeast_callable entry).2 hclosed hm

theorem State.Sound.holds_site (hs : s.Sound p entry) {site : StmtId} (h : site ∈ s.sites) :
    p.stmts.Holds site := by
  obtain ⟨⟨call, hst⟩, -⟩ := hs.sites site h
  apply Program.holds_of_stmt_ne
  rw [hst]
  intro hn
  cases hn

theorem events_foldl {kind : CallKind} {site : StmtId} {targets : List MethodId} {e : Event}
    (he : e ∈ (targets.foldl (State.addCallee kind site) s).events) :
    e ∈ s.events ∨ ∃ m ∈ targets, e = .called site m := by
  induction targets generalizing s with
  | nil => exact .inl he
  | cons m targets ih =>
    rcases ih he with he | ⟨n, hn, rfl⟩
    · rw [State.addCallee] at he
      split at he
      · exact .inl he
      · rcases Array.mem_push.mp he with he | rfl
        · exact .inl he
        · exact .inr ⟨m, List.mem_cons_self, rfl⟩
    · exact .inr ⟨n, List.mem_cons_of_mem m hn, rfl⟩

/-- A step reports nothing but what is there. -/
theorem events_step (hwf : p.WellFormed) (hp : p.entry = some entry) (hs : s.Sound p entry)
    (hevents : ∀ e ∈ s.events, e.InRange p) (h : step p s = .next s') :
    ∀ e ∈ s'.events, e.InRange p := by
  intro e he
  rw [step] at h
  split at h
  · next site sites hsites =>
    have hsite : p.stmts.Holds site := hs.holds_site (hsites ▸ List.mem_cons_self)
    rw [State.resolveSite] at h
    cases hcall : p.callAt site with
    | error e =>
      rw [hcall] at h
      cases h
    | ok call =>
      cases htargets : p.chaTargets site with
      | error e =>
        rw [hcall, htargets] at h
        cases h
      | ok targets =>
        rw [hcall, htargets] at h
        cases h
        rcases events_foldl he with he | ⟨m, hm, rfl⟩
        · exact hevents e he
        · exact ⟨hsite, (hwf.targets_nodup htargets).2 m hm⟩
  · split at h
    · next m pending hpop =>
      cases h
      have hm : m ∈ p.callable entry := by
        apply hs.pending
        rw [Queue.toList_of_pop? hpop]
        exact List.mem_cons_self
      rw [State.visit] at he
      split at he
      · exact hevents e he
      · rcases Array.mem_push.mp he with he | rfl
        · exact hevents e he
        · exact holds_callable hwf hp hm
    · cases h

end HierarchyAnalysis

namespace Checked

open HierarchyAnalysis

section Analysis

variable (p : Program)

def chaLine : Event → Option Line
  | .reached m => do
    let label ← methodLabel p m
    return ⟨.debug, s!"new reachable method {label}"⟩
  | .called site callee => do
    let siteLabel ← stmtLabel p site
    let label ← methodLabel p callee
    return ⟨.trace, s!"{siteLabel} -> {label}"⟩
  | .finished reachable edges => some ((Event.finished reachable edges).line p)

def visit (s : State) (m : MethodId) : Option State := do
  let method ← p.methods.get? m
  let sites := method.calls.toList
  match s.graph.insertMethod m sites with
  | (false, _) => return s
  | (true, graph) => return { s with graph, sites }.report (.reached m)

def resolveSite (s : State) (site : StmtId) : Option (Except AnalysisError State) := do
  match ← callAt p site with
  | .error e => return .error e
  | .ok call =>
    let targets ← chaTargets p site
    return targets.map fun targets => targets.foldl (State.addCallee call.kind site) s

def searchStep (s : State) : Option (Step State Outcome) :=
  match s.sites with
  | site :: sites => do
    match ← resolveSite p { s with sites } site with
    | .ok s => return .next s
    | .error e => return .halt (some e, s)
  | [] =>
    match s.pending.pop? with
    | some (m, pending) => do
      let s ← visit p { s with pending } m
      return .next s
    | none => some (.halt (none, s))

def search (entry : MethodId) : Option Outcome :=
  match Step.run (Step.guarded (searchStep p)) ((stepBound p).log2 + 1) (start entry) with
  | .halt outcome => outcome
  | .next s => some (some .outOfSteps, s)

def chaCallGraph : Option (Except AnalysisError (CallGraph StmtId MethodId) × Journal) :=
  match p.entry with
  | none => some (.error .noEntryMethod, [])
  | some entry => do
    match ← search p entry with
    | (some e, s) =>
      let lines ← s.events.toList.mapM (chaLine p)
      return (.error e, lines)
    | (none, s) =>
      let s := s.report (.finished s.graph.reachable.size s.graph.edges.size)
      let lines ← s.events.toList.mapM (chaLine p)
      return (.ok s.graph, lines)

end Analysis

variable {p : Program} {entry : MethodId} {s : State}

theorem chaLine_eq (hp : p.Linked) {e : Event} (h : e.InRange p) :
    chaLine p e = some (e.line p) := by
  cases e with
  | reached m =>
    rw [chaLine, methodLabel_eq h]
    rfl
  | called site callee =>
    rw [chaLine, stmtLabel_eq hp h.1, methodLabel_eq h.2]
    rfl
  | finished reachable edges => rfl

theorem resolveSite_eq (hp : p.Linked) {site : StmtId} (h : p.stmts.Holds site) :
    resolveSite p s site = some (s.resolveSite p site) := by
  rw [resolveSite, callAt_eq hp h, chaTargets_eq hp h, State.resolveSite]
  cases p.callAt site with
  | error e => rfl
  | ok call =>
    cases p.chaTargets site with
    | error e => rfl
    | ok targets => rfl

theorem visit_eq {m : MethodId} (h : p.methods.Holds m) : visit p s m = some (s.visit p m) := by
  have hget : p.methods.get? m = some (p.methodDecl m) := Table.get?_of_holds h
  simp only [visit, hget, Option.bind_eq_bind, Option.bind_some, State.visit]
  cases s.graph.insertMethod m (p.methodDecl m).calls.toList with
  | mk isNew graph =>
    cases isNew with
    | false => rfl
    | true => rfl

theorem searchStep_eq (hp : p.Linked) (he : p.entry = some entry) (hs : s.Sound p entry) :
    searchStep p s = some (step p s) := by
  cases hsites : s.sites with
  | cons site sites =>
    have hsite : p.stmts.Holds site := hs.holds_site (hsites ▸ List.mem_cons_self)
    simp only [searchStep, step, hsites, resolveSite_eq hp hsite, Option.bind_eq_bind,
      Option.bind_some]
    cases State.resolveSite p { s with sites } site with
    | error e => rfl
    | ok s' => rfl
  | nil =>
    simp only [searchStep, step, hsites]
    cases hpop : s.pending.pop? with
    | none => rfl
    | some next =>
      have hm : p.methods.Holds next.1 := by
        apply holds_callable hp.wellFormed he
        apply hs.pending
        rw [Queue.toList_of_pop? hpop]
        exact List.mem_cons_self
      simp only [visit_eq hm, Option.bind_eq_bind, Option.bind_some]
      rfl

/-- In every state that a search comes to, the events name what is there. -/
theorem sound_events_of_reaches (hp : p.Finished) (he : p.entry = some entry)
    (h : Step.Reaches (step p) (start entry) s) :
    s.Sound p entry ∧ ∀ e ∈ s.events, e.InRange p := by
  refine ⟨(sound_of_reaches hp.listed h).2, ?_⟩
  induction h with
  | refl =>
    intro e hmem
    exact (Array.not_mem_empty e hmem).elim
  | tail hreach hstep ih =>
    exact events_step hp.wellFormed he (sound_of_reaches hp.listed hreach).2 ih hstep

theorem search_eq (hp : p.Finished) (he : p.entry = some entry) :
    search p entry = some (HierarchyAnalysis.search p entry) := by
  have hstep (s : State) (hreach : Step.Reaches (step p) (start entry) s) :
      searchStep p s = some (step p s) :=
    searchStep_eq hp.linked he (sound_of_reaches hp.listed hreach).2
  have hguarded :=
    Step.steps_guarded (step p) (searchStep p) (2 ^ ((stepBound p).log2 + 1) - 1) hstep
  rw [search, HierarchyAnalysis.search, ← start, Step.run_eq_steps, Step.run_eq_steps, hguarded]
  cases Step.steps (step p) (2 ^ ((stepBound p).log2 + 1) - 1) (start entry) with
  | next s => rfl
  | halt outcome => rfl

/-- Class hierarchy analysis looks up nothing that is not there. -/
theorem chaCallGraph_eq (hp : p.Finished) : chaCallGraph p = some p.chaCallGraph := by
  rw [chaCallGraph, Program.chaCallGraph]
  cases he : p.entry with
  | none => rfl
  | some entry =>
    obtain ⟨e, s, hsearch, hreach, -⟩ := search_cases hp entry
    obtain ⟨-, hevents⟩ := sound_events_of_reaches hp he hreach
    have hlines {events : Array Event} (h : ∀ e ∈ events, e.InRange p) :
        events.toList.mapM (chaLine p) = some (events.toList.map (·.line p)) :=
      mapM_eq_some fun e he => chaLine_eq hp.linked (h e (Array.mem_toList_iff.mp he))
    simp only [search_eq hp he, hsearch, Option.bind_eq_bind, Option.bind_some]
    cases e with
    | some e =>
      simp only [hlines hevents, Option.bind_some]
      rfl
    | none =>
      have hfinished : ∀ e ∈
          (s.report (.finished s.graph.reachable.size s.graph.edges.size)).events, e.InRange p := by
        intro e hmem
        rcases Array.mem_push.mp hmem with hmem | rfl
        · exact hevents e hmem
        · trivial
      simp only [hlines hfinished, Option.bind_some]
      rfl

end Checked

end PointsTo
