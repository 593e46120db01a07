import PointsTo.Proofs.Growth
import PointsTo.Proofs.Loading
import PointsTo.Proofs.Renaming

namespace PointsTo

namespace Draft

variable {α β : Type} {d : Draft}

/-- A step that only looks something up. It leaves the draft as it is, and fails if there is nothing
to find. -/
structure Finds (x : Build α) (found : Option α) (d : Draft) : Prop where
  some {a : α} (h : found = some a) : exec x d = (.ok a, d)
  none (h : found = none) : ∃ e, exec x d = (.error e, d)

theorem finds_pure (a : α) : Finds (pure a) (some a) d :=
  ⟨fun h => by rw [← Option.some.inj h]; rfl, nofun⟩

theorem finds_throw (e : ProgramError) : Finds (throw e : Build α) none d :=
  ⟨nofun, fun _ => ⟨e, rfl⟩⟩

theorem Finds.bind {x : Build α} {found : Option α} {f : α → Build β} {g : α → Option β}
    (hx : Finds x found d) (hf : ∀ a, Finds (f a) (g a) d) : Finds (x >>= f) (found >>= g) d := by
  cases found with
  | none =>
    obtain ⟨e, he⟩ := hx.none rfl
    exact ⟨nofun, fun _ => ⟨e, by rw [exec_bind, he]⟩⟩
  | some a =>
    have hexec : exec (x >>= f) d = exec (f a) d := by rw [exec_bind, hx.some rfl]
    refine ⟨fun h => ?_, fun h => ?_⟩ <;> rw [hexec]
    · exact (hf a).some h
    · exact (hf a).none h

theorem finds_lift (x : Except ProgramError α) : Finds (liftM x : Build α) x.toOption d := by
  cases x with
  | error e => exact finds_throw e
  | ok a => exact finds_pure a

theorem finds_mapM {f : α → Build β} {g : α → Option β} (hf : ∀ a, Finds (f a) (g a) d)
    (l : List α) : Finds (l.mapM f) (l.mapM g) d := by
  induction l with
  | nil => exact finds_pure []
  | cons a l ih =>
    rw [List.mapM_cons, List.mapM_cons]
    exact (hf a).bind fun b => ih.bind fun bs => finds_pure (b :: bs)

theorem finds_mapM? {f : α → Build β} {g : α → Option β} (hf : ∀ a, Finds (f a) (g a) d)
    (a? : Option α) : Finds (a?.mapM f) (a?.mapM g) d := by
  cases a? with
  | none => exact finds_pure none
  | some a =>
    change Finds (some <$> f a) (some <$> g a) d
    rw [← bind_pure_comp, ← bind_pure_comp]
    exact (hf a).bind fun b => finds_pure (some b)

theorem finds_lookupVar (m : MethodId) (name : String) :
    Finds (lookupVar m name) (d.program.findVar? m name) d := by
  constructor
  · intro v hv
    rw [lookupVar, exec_bind, exec_getProgram]
    simp only [hv]
    rfl
  · intro hv
    rw [lookupVar, exec_bind, exec_getProgram]
    simp only [hv]
    exact ⟨_, rfl⟩

theorem finds_lookupField (className name : String) :
    Finds (lookupField className name) (d.program.findField? className name) d := by
  constructor
  · intro f hf
    obtain ⟨c, hc, hfield⟩ := Option.bind_eq_some_iff.mp hf
    rw [lookupField, exec_bind, exec_getProgram]
    simp only [hc, hfield]
    rfl
  · intro hf
    rw [lookupField, exec_bind, exec_getProgram]
    cases hc : d.program.findClass? className with
    | none =>
      simp only [hc]
      exact ⟨_, rfl⟩
    | some c =>
      rw [Program.findField?, hc, Option.bind_some] at hf
      simp only [hc, hf]
      exact ⟨_, rfl⟩

/-- A step that succeeds if there is something to find, and then leaves a result and a draft as `Q`
says. -/
structure Yields (x : Build α) (found : Option β) (Q : β → α → Draft → Prop) (d : Draft) :
    Prop where
  some {b : β} (h : found = some b) : ∃ a d', exec x d = (.ok a, d') ∧ Q b a d'
  none (h : found = none) : ∃ e d', exec x d = (.error e, d')

theorem Finds.yields {x : Build α} {found : Option α} {Q : α → α → Draft → Prop}
    (hx : Finds x found d) (hQ : ∀ a, found = Option.some a → Q a a d) : Yields x found Q d := by
  constructor
  · intro a ha
    exact ⟨a, d, hx.some ha, hQ a ha⟩
  · intro hn
    obtain ⟨e, he⟩ := hx.none hn
    exact ⟨e, d, he⟩

theorem Finds.bind_yields {γ : Type} {x : Build α} {found : Option α} {f : α → Build β}
    {g : α → Option γ} {Q : γ → β → Draft → Prop} (hx : Finds x found d)
    (hf : ∀ a, found = Option.some a → Yields (f a) (g a) Q d) :
    Yields (x >>= f) (found >>= g) Q d := by
  cases found with
  | none =>
    obtain ⟨e, he⟩ := hx.none rfl
    exact ⟨nofun, fun _ => ⟨e, d, by rw [exec_bind, he]⟩⟩
  | some a =>
    have hexec : exec (x >>= f) d = exec (f a) d := by rw [exec_bind, hx.some rfl]
    refine ⟨fun h => ?_, fun h => ?_⟩ <;> rw [hexec]
    · exact (hf a rfl).some h
    · exact (hf a rfl).none h

end Draft

theorem Ty.toOption_parse (s : String) : (Ty.parse s).toOption = Ty.parse? s := by
  rw [Ty.parse]
  cases Ty.parse? s <;> rfl

theorem Signature.toOption_parse (s : String) :
    (Signature.parse s).toOption = Signature.parse? s := by
  rw [Signature.parse]
  cases Signature.parse? s <;> rfl

/-- The name of the class of a reference. -/
def Ty.refName? : Ty → Option String
  | .ref name => some name
  | _ => none

/-- The name of the class that a statement allocates an object of. -/
def Stmt.allocated? : Stmt → Option String
  | .new _ type => type.refName?
  | _ => none

namespace Program

/-- The field that a reference of the form `Class.field` stands for. -/
def readField? (p : Program) (reference : String) : Option FieldId := do
  let r ← MemberRef.parse? reference
  p.findField? r.cls r.member

def mention? (p : Program) : Option String → Program
  | some name => p.mention name
  | none => p

variable {p : Program} {m : MethodId}

/-- The checks on a statement do not look at classes. -/
theorem checkStmt_mention (name : String) (stmt : Stmt) :
    (p.mention name).checkStmt m stmt = p.checkStmt m stmt := by
  rw [mention_eq]
  rfl

theorem mention?_eq (p : Program) (name : Option String) : p.mention? name =
    { p with
      counters.classes := (p.mention? name).counters.classes
      classes := (p.mention? name).classes
      classIds := (p.mention? name).classIds
      hierarchy := (p.mention? name).hierarchy } := by
  cases name with
  | none => rfl
  | some name => exact p.mention_eq name

theorem Grown.mention? {b : Program} (h : b.Grown p) (name : Option String) :
    b.Grown (p.mention? name) := by
  cases name with
  | none => exact h
  | some name => exact h.mention name

end Program

namespace Draft

variable {d : Draft} {m : MethodId} {stmt : Stmt}

theorem exec_appendStmt (hd : d.program.Ready) (h : d.program.checkStmt m stmt = .ok ()) :
    ∃ s d', exec (appendStmt m stmt) d = (.ok s, d') ∧
      d'.program = (d.program.mention? stmt.allocated?).pushStmt m stmt := by
  rw [appendStmt, exec_bind, exec_getProgram]
  simp only [h]
  split
  · next x name =>
    obtain ⟨c, d', hx, hp, -⟩ := exec_mentionClass_eq d hd name
    rw [exec_bind, hx]
    refine ⟨_, _, rfl, ?_⟩
    change d'.program.pushStmt m (.new x (.ref name)) = _
    rw [hp]
    rfl
  · next hnot =>
    have hnone : stmt.allocated? = none := by
      cases stmt with
      | new x t =>
        cases t with
        | ref name => exact (hnot x name rfl).elim
        | _ => rfl
      | _ => rfl
    refine ⟨_, _, rfl, ?_⟩
    rw [hnone]
    rfl

theorem exec_appendStmt_error (h : d.program.checkStmt m stmt ≠ .ok ()) :
    ∃ e, exec (appendStmt m stmt) d = (.error e, d) := by
  rw [appendStmt, exec_bind, exec_getProgram]
  cases hc : d.program.checkStmt m stmt with
  | ok u => exact (h hc).elim
  | error e =>
    simp only [hc]
    exact ⟨e, rfl⟩

end Draft

namespace Description

open Draft

variable {p b : Program} {m : MethodId} {s : Stmt} {d : Draft}

namespace Stmt

/-- The statement that a description stands for, with `lookup` for the classes named at calls. -/
def read? (p : Program) (m : MethodId) (lookup : String → Option ClassId) :
    Stmt → Option PointsTo.Stmt
  | new target type => do return .new (← p.findVar? m target) (← Ty.parse? type)
  | copy target source => do return .copy (← p.findVar? m target) (← p.findVar? m source)
  | load target base f => do
    return .load (← p.findVar? m target) (← base.mapM (p.findVar? m)) (← p.readField? f)
  | store base f source => do
    return .store (← base.mapM (p.findVar? m)) (← p.readField? f) (← p.findVar? m source)
  | arrayLoad target array index => do
    return .arrayLoad (← p.findVar? m target) (← p.findVar? m array) (← p.findVar? m index)
  | arrayStore array index source => do
    return .arrayStore (← p.findVar? m array) (← p.findVar? m index) (← p.findVar? m source)
  | invoke kind method receiver args result => do
    let receiver ← receiver.mapM (p.findVar? m)
    let args ← args.mapM (p.findVar? m)
    let result ← result.mapM (p.findVar? m)
    let r ← MemberRef.parse? method
    let signature ← Signature.parse? r.member
    let cls ← lookup r.cls
    return .invoke { kind, target := ⟨cls, signature⟩, receiver, args, result }
  | ret value => do return .ret (← value.mapM (p.findVar? m))

/-- The name of the class that a statement makes known. -/
def mentioned? : Stmt → Option String
  | new _ type => (Ty.parse? type).bind Ty.refName?
  | invoke _ method _ _ _ => (MemberRef.parse? method).map (·.cls)
  | _ => none

def isInvoke : Stmt → Bool
  | invoke .. => true
  | _ => false

/-- Only the class that the statement names is looked up. -/
theorem read?_congr {f g : String → Option ClassId} (h : ∀ n ∈ s.mentioned?, f n = g n) :
    s.read? p m f = s.read? p m g := by
  cases s with
  | invoke kind method receiver args result =>
    simp only [read?]
    cases hr : MemberRef.parse? method with
    | none => rfl
    | some r =>
      have hcls : f r.cls = g r.cls := h r.cls (by rw [mentioned?, hr]; rfl)
      simp only [Option.bind_eq_bind, Option.bind_some, hcls]
  | _ => rfl

theorem read?_map (f : String → Option ClassId) (τ : ClassId → ClassId) :
    s.read? p m (fun n => (f n).map τ) = (s.read? p m f).map (·.mapClass τ) := by
  cases s <;>
    simp [read?, Option.map_bind, PointsTo.Stmt.mapClass, Option.bind_map, Call.mapClass]

/-- The class at a call is one that was looked up. -/
theorem exists_of_read?_invoke {f : String → Option ClassId} {call : Call}
    (h : s.read? p m f = some (.invoke call)) : ∃ n, f n = some call.target.cls := by
  cases s with
  | invoke kind method receiver args result =>
    simp only [read?, Option.bind_eq_bind, Option.bind_eq_some_iff, Option.pure_def,
      Option.some.injEq, PointsTo.Stmt.invoke.injEq] at h
    obtain ⟨recv, -, as, -, x, -, r, -, g, -, c, hc, rfl⟩ := h
    exact ⟨r.cls, hc⟩
  | _ => simp [read?, Option.bind_eq_some_iff] at h

theorem finds_readMember (reference : String) :
    Finds (readMember reference) (MemberRef.parse? reference) d := by
  rw [readMember]
  cases MemberRef.parse? reference with
  | none => exact finds_throw _
  | some r => exact finds_pure r

/-- A statement without call is read without a change to the draft. -/
theorem finds_resolve (hs : s.isInvoke = false) (f : String → Option ClassId) :
    Finds (s.resolve m) (s.read? d.program m f) d := by
  have hvar (name : String) := finds_lookupVar (d := d) m name
  have hfield (reference : String) :
      Finds (fieldOf reference) (d.program.readField? reference) d := by
    rw [fieldOf, Program.readField?]
    exact (finds_readMember reference).bind fun r => finds_lookupField r.cls r.member
  cases s with
  | new target type =>
    refine (hvar target).bind fun x => ?_
    rw [← Ty.toOption_parse]
    exact (finds_lift _).bind fun t => finds_pure _
  | copy target source => exact (hvar target).bind fun x => (hvar source).bind fun y => finds_pure _
  | load target base f =>
    refine (hvar target).bind fun x => ?_
    refine (finds_mapM? hvar base).bind fun y => ?_
    exact (hfield f).bind fun g => finds_pure _
  | store base f source =>
    refine (finds_mapM? hvar base).bind fun x => ?_
    refine (hfield f).bind fun g => ?_
    exact (hvar source).bind fun y => finds_pure _
  | arrayLoad target array index =>
    refine (hvar target).bind fun x => ?_
    exact (hvar array).bind fun a => (hvar index).bind fun i => finds_pure _
  | arrayStore array index source =>
    refine (hvar array).bind fun a => ?_
    exact (hvar index).bind fun i => (hvar source).bind fun y => finds_pure _
  | invoke => cases hs
  | ret value => exact (finds_mapM? hvar value).bind fun v => finds_pure _

/-- Of the statements without call, those that allocate an object mention its class. -/
theorem allocated?_of_read? {f : String → Option ClassId} {stmt : PointsTo.Stmt}
    (hs : s.isInvoke = false) (h : s.read? p m f = some stmt) :
    stmt.allocated? = s.mentioned? := by
  cases s with
  | invoke => cases hs
  | new target type =>
    simp only [read?, Option.bind_eq_bind, Option.bind_eq_some_iff, Option.pure_def,
      Option.some.injEq] at h
    obtain ⟨x, -, t, ht, rfl⟩ := h
    rw [mentioned?, ht]
    rfl
  | _ =>
    simp only [read?, Option.bind_eq_bind, Option.bind_eq_some_iff, Option.pure_def,
      Option.some.injEq] at h
    grind [PointsTo.Stmt.allocated?, mentioned?]

theorem finds_parseSignature (text : String) :
    Finds (liftM (Signature.parse text) : Build Signature) (Signature.parse? text) d := by
  rw [← Signature.toOption_parse]
  exact finds_lift _

/-- What is known when a description has been read as a statement: it has the class that the
description mentions, and the checks on it come out as on `stmt₀`, where any class will do. -/
structure Resolved (s : Stmt) (m : MethodId) (d : Draft) (stmt₀ stmt : PointsTo.Stmt)
    (d' : Draft) : Prop where
  read : s.read? d.program m (d.program.mention? s.mentioned?).findClass? = some stmt
  mention : d'.program.mention? stmt.allocated? = d.program.mention? s.mentioned?
  check : d'.program.checkStmt m stmt = d.program.checkStmt m stmt₀
  ready : d'.program.Ready

/-- A call names its class, so that the class is known from then on. -/
theorem resolved_invoke {kind : CallKind} {method : String} {receiver result : Option String}
    {args : List String} {recv x : Option VarId} {as : List VarId} {r : MemberRef} {g : Signature}
    {c : ClassId} {d' : Draft} (hd : d.program.Ready)
    (hrecv : receiver.mapM (d.program.findVar? m) = some recv)
    (has : args.mapM (d.program.findVar? m) = some as)
    (hx : result.mapM (d.program.findVar? m) = some x) (hr : MemberRef.parse? method = some r)
    (hg : Signature.parse? r.member = some g) (hp : d'.program = d.program.mention r.cls)
    (hc : d'.program.findClass? r.cls = some c) :
    Resolved (.invoke kind method receiver args result) m d
      (.invoke { kind, target := ⟨default, g⟩, receiver := recv, args := as, result := x })
      (.invoke { kind, target := ⟨c, g⟩, receiver := recv, args := as, result := x }) d' := by
  have hname : (invoke kind method receiver args result).mentioned? = some r.cls := by
    rw [mentioned?, hr]
    rfl
  rw [hp] at hc
  constructor
  · simp only [read?, hrecv, has, hx, hr, hg, hname, Program.mention?, hc, Option.bind_eq_bind,
      Option.bind_some]
    rfl
  · rw [hname, hp]
    rfl
  · rw [hp, Program.checkStmt_mention]
    rfl
  · rw [hp]
    exact hd.mention r.cls

/-- A description can be read if it can be read with any class, and then it is read with the class
that it mentions. -/
theorem yields_resolve (s : Stmt) (m : MethodId) (d : Draft) (hd : d.program.Ready) :
    Yields (s.resolve m) (s.read? d.program m fun _ => some default) (Resolved s m d) d := by
  cases hs : s.isInvoke with
  | false =>
    refine (finds_resolve hs _).yields fun stmt hstmt => ?_
    refine ⟨?_, by rw [allocated?_of_read? hs hstmt], rfl, hd⟩
    rw [← hstmt]
    cases s with
    | invoke => cases hs
    | _ => rfl
  | true =>
    cases s with
    | invoke kind method receiver args result =>
      have hvar (name : String) := finds_lookupVar (d := d) m name
      refine (finds_mapM? hvar receiver).bind_yields fun recv hrecv => ?_
      refine (finds_mapM hvar args).bind_yields fun as has => ?_
      refine (finds_mapM? hvar result).bind_yields fun x hx => ?_
      refine (finds_readMember method).bind_yields fun r hr => ?_
      refine (finds_parseSignature r.member).bind_yields fun g hg => ?_
      refine ⟨fun {stmt₀} h => ?_, nofun⟩
      obtain ⟨c, d', hmention, hp, hc⟩ := exec_mentionClass_eq d hd r.cls
      rw [← Option.some.inj h]
      refine ⟨_, d', ?_, resolved_invoke hd hrecv has hx hr hg hp hc⟩
      rw [referTo, bind_assoc, exec_bind, hmention]
      rfl
    | _ => cases hs

/-- Whether a description can be read and the statement added to the body of a method. The class
named at a call makes no difference. -/
def Accepts (s : Stmt) (p : Program) (m : MethodId) : Prop :=
  ∃ stmt, s.read? p m (fun _ => some default) = some stmt ∧ p.checkStmt m stmt = .ok ()

/-- Reads a statement and adds it to the body of a method. -/
def addTo (m : MethodId) (s : Stmt) : Build Unit := do
  discard (appendStmt m (← s.resolve m))

theorem exec_addTo (hd : d.program.Ready) (h : s.Accepts d.program m) :
    ∃ d' stmt, exec (s.addTo m) d = (.ok (), d') ∧
      d'.program = (d.program.mention? s.mentioned?).pushStmt m stmt ∧
      s.read? d.program m (d.program.mention? s.mentioned?).findClass? = some stmt := by
  obtain ⟨stmt₀, hread, hcheck⟩ := h
  obtain ⟨stmt, d₁, hx, hstmt, hmention, hsame, hd₁⟩ :=
    (s.yields_resolve m d hd).some hread
  obtain ⟨i, d₂, happend, hp⟩ := exec_appendStmt hd₁ (hsame.trans hcheck)
  refine ⟨d₂, stmt, ?_, by rw [hp, hmention], hstmt⟩
  rw [addTo, exec_bind, hx]
  change exec ((fun _ => ()) <$> appendStmt m stmt) d₁ = _
  rw [exec_map, happend]

theorem exec_addTo_error (hd : d.program.Ready) (h : ¬s.Accepts d.program m) :
    ∃ e d', exec (s.addTo m) d = (.error e, d') := by
  rw [addTo, exec_bind]
  cases hread : s.read? d.program m (fun _ => some default) with
  | none =>
    obtain ⟨e, d₁, hx⟩ := (s.yields_resolve m d hd).none hread
    exact ⟨e, d₁, by rw [hx]⟩
  | some stmt₀ =>
    obtain ⟨stmt, d₁, hx, -, -, hsame, -⟩ := (s.yields_resolve m d hd).some hread
    have hcheck : d₁.program.checkStmt m stmt ≠ .ok () := by
      rw [hsame]
      intro hok
      exact h ⟨stmt₀, hread, hok⟩
    obtain ⟨e, happend⟩ := exec_appendStmt_error hcheck
    refine ⟨e, d₁, ?_⟩
    rw [hx]
    change exec ((fun _ => ()) <$> appendStmt m stmt) d₁ = _
    rw [exec_map, happend]

end Stmt

section Grown

variable (h : b.Grown p) (hwf : b.WellFormed) (hreg : b.Registered)
include h hwf hreg

/-- The statements that were added before make no difference to how another one is read. -/
theorem Grown.read?_eq (s : Stmt) (m : MethodId) (f : String → Option ClassId) :
    s.read? p m f = s.read? b m f := by
  have hvar : p.findVar? m = b.findVar? m := funext (h.findVar?_eq m)
  have hfield : p.readField? = b.readField? := by
    funext reference
    simp only [Program.readField?, h.findField?_eq hwf hreg]
  cases s <;> simp only [Stmt.read?, hvar, hfield]

theorem Grown.accepts_iff (s : Stmt) (m : MethodId) : s.Accepts p m ↔ s.Accepts b m := by
  simp only [Stmt.Accepts, Grown.read?_eq h hwf hreg, h.checkStmt_eq]

end Grown

/-- The bodies of `b`, which are empty, are filled with the statements that are listed with their
methods. -/
structure Filled (b : Program) (stmts : List (MethodId × Stmt)) (p : Program) : Prop where
  grown : b.Grown p
  entry : p.entry = b.entry
  size : p.stmts.size = stmts.length
  stmt {i : Nat} {m : MethodId} {s : Stmt} (h : stmts[i]? = some (m, s)) :
    p.container ⟨i⟩ = m ∧ s.read? b m p.findClass? = some (p.stmt ⟨i⟩)
  known (name : String) : (p.findClass? name).isSome ↔
    (b.findClass? name).isSome ∨ ∃ a ∈ stmts, a.2.mentioned? = some name

theorem filled_nil (hreg : b.Registered) (hempty : b.stmts.size = 0) : Filled b [] b where
  grown := .refl hreg
  entry := rfl
  size := hempty
  stmt h := by cases h
  known name := by simp

theorem findClass?_mention? (name : Option String) (n : String) :
    ((p.mention? name).findClass? n).isSome ↔ (p.findClass? n).isSome ∨ name = some n := by
  cases name with
  | none => simp [Program.mention?]
  | some name =>
    rw [Program.mention?, Program.isSome_findClass?_mention, Option.some.injEq]
    exact or_congr_right eq_comm

/-- A name that is known keeps its class. -/
theorem findClass?_of_mention? {name : Option String} {n : String} {c : ClassId}
    (h : p.findClass? n = some c) : (p.mention? name).findClass? n = some c := by
  cases name with
  | none => exact h
  | some name => exact Program.findClass?_mention_of_some h name

namespace Filled

variable {stmts : List (MethodId × Stmt)} (h : Filled b stmts p)
include h

/-- The class that a statement mentions is known. -/
theorem isSome_of_mentioned? {a : MethodId × Stmt} (ha : a ∈ stmts) {name : String}
    (hn : a.2.mentioned? = some name) : (p.findClass? name).isSome :=
  (h.known name).mpr (.inr ⟨a, ha, hn⟩)

/-- A class is mentioned: the statements from before are read as they were. -/
theorem read?_mention? (name : Option String) {a : MethodId × Stmt} (ha : a ∈ stmts) :
    a.2.read? b a.1 (p.mention? name).findClass? = a.2.read? b a.1 p.findClass? := by
  apply Stmt.read?_congr
  intro n hn
  obtain ⟨c, hc⟩ := Option.isSome_iff_exists.mp (h.isSome_of_mentioned? ha hn)
  rw [hc, findClass?_of_mention? hc]

theorem known_append (s : Stmt) (m : MethodId) (name : String) :
    ((p.mention? s.mentioned?).findClass? name).isSome ↔ (b.findClass? name).isSome ∨
      ∃ a ∈ stmts ++ [(m, s)], a.2.mentioned? = some name := by
  rw [findClass?_mention?, h.known]
  simp only [List.mem_append, List.mem_singleton]
  constructor
  · intro hknown
    rcases hknown with (hb | ⟨a, ha, hn⟩) | hn
    · exact .inl hb
    · exact .inr ⟨a, .inl ha, hn⟩
    · exact .inr ⟨(m, s), .inr rfl, hn⟩
  · intro hknown
    rcases hknown with hb | ⟨a, ha | rfl, hn⟩
    · exact .inl (.inl hb)
    · exact .inl (.inr ⟨a, ha, hn⟩)
    · exact .inr hn

/-- One more statement. -/
theorem append (hwf : b.WellFormed) (hreg : b.Registered) {stmt : PointsTo.Stmt}
    (hread : s.read? p m (p.mention? s.mentioned?).findClass? = some stmt) :
    Filled b (stmts ++ [(m, s)]) ((p.mention? s.mentioned?).pushStmt m stmt) := by
  have hgrown := h.grown.mention? s.mentioned?
  have hstmts : (p.mention? s.mentioned?).stmts = p.stmts := by rw [Program.mention?_eq]
  have hplaces : (p.mention? s.mentioned?).places = p.places := by rw [Program.mention?_eq]
  have hnext : (p.mention? s.mentioned?).stmts.nextId = ⟨stmts.length⟩ := by
    rw [hstmts, Table.nextId, h.size]
  have hfind : ((p.mention? s.mentioned?).pushStmt m stmt).findClass? =
      (p.mention? s.mentioned?).findClass? := funext fun _ => Program.findClass?_pushStmt _
  refine { grown := hgrown.pushStmt m stmt, entry := ?_, size := ?_, stmt := ?_, known := ?_ }
  · rw [Program.entry_pushStmt, Program.mention?_eq]
    exact h.entry
  · rw [Program.stmts_pushStmt, Table.size_push, hstmts, h.size, List.length_append]
    rfl
  · intro i m' s' hi
    rw [Program.container_pushStmt hgrown.registered.counted, Program.stmt_pushStmt, hnext, hfind]
    by_cases hlt : i < stmts.length
    · have hne : (⟨i⟩ : StmtId) ≠ ⟨stmts.length⟩ := by
        intro he
        exact absurd (congrArg Id.index he) (Nat.ne_of_lt hlt)
      rw [List.getElem?_append_left hlt] at hi
      obtain ⟨hm, hs⟩ := h.stmt hi
      rw [if_neg hne, if_neg hne, Program.container, Program.stmt, hstmts, hplaces]
      exact ⟨hm, (h.read?_mention? _ (List.mem_of_getElem? hi)).trans hs⟩
    · have hlen : i = stmts.length := by
        have hbound := (List.getElem?_eq_some_iff.mp hi).1
        rw [List.length_append, List.length_singleton] at hbound
        omega
      subst hlen
      rw [List.getElem?_concat_length] at hi
      obtain ⟨rfl, rfl⟩ := Prod.mk.inj (Option.some.inj hi)
      rw [if_pos rfl, if_pos rfl, ← Grown.read?_eq h.grown hwf hreg]
      exact ⟨rfl, hread⟩
  · intro name
    rw [hfind]
    exact h.known_append s m name

end Filled

section Run

variable {done l : List (MethodId × Stmt)} (hwf : b.WellFormed) (hreg : b.Registered)
include hwf hreg

/-- If each statement can be read on its own then all can be read one after the other. -/
theorem Filled.exec_addAll (h : Filled b done d.program) (hl : ∀ a ∈ l, a.2.Accepts b a.1) :
    ∃ d', exec (l.forM fun a => a.2.addTo a.1) d = (.ok (), d') ∧
      Filled b (done ++ l) d'.program := by
  induction l generalizing d done with
  | nil => exact ⟨d, rfl, by rwa [List.append_nil]⟩
  | cons a l ih =>
    have hfirst : a.2.Accepts d.program a.1 :=
      (Grown.accepts_iff h.grown hwf hreg a.2 a.1).mpr (hl a List.mem_cons_self)
    obtain ⟨d₁, stmt, hx, hp, hread⟩ := Stmt.exec_addTo h.grown.registered.ready hfirst
    have hfilled : Filled b (done ++ [a]) d₁.program := by
      rw [hp]
      exact h.append hwf hreg hread
    obtain ⟨d₂, hrest, hfilled₂⟩ := ih hfilled fun c hc => hl c (List.mem_cons_of_mem a hc)
    refine ⟨d₂, ?_, ?_⟩
    · rw [List.forM, exec_bind, hx]
      exact hrest
    · rwa [List.append_assoc, List.singleton_append] at hfilled₂

/-- If a statement cannot be read on its own then it cannot be read after the others. -/
theorem Filled.exec_addAll_error (h : Filled b done d.program)
    (hl : ¬∀ a ∈ l, a.2.Accepts b a.1) :
    ∃ e d', exec (l.forM fun a => a.2.addTo a.1) d = (.error e, d') := by
  induction l generalizing d done with
  | nil => exact (hl nofun).elim
  | cons a l ih =>
    by_cases hfirst : a.2.Accepts b a.1
    · have hfirst' := (Grown.accepts_iff h.grown hwf hreg a.2 a.1).mpr hfirst
      obtain ⟨d₁, stmt, hx, hp, hread⟩ := Stmt.exec_addTo h.grown.registered.ready hfirst'
      have hfilled : Filled b (done ++ [a]) d₁.program := by
        rw [hp]
        exact h.append hwf hreg hread
      have hrest : ¬∀ c ∈ l, c.2.Accepts b c.1 := by
        intro hall
        exact hl (List.forall_mem_cons.mpr ⟨hfirst, hall⟩)
      obtain ⟨e, d₂, hfail⟩ := ih hfilled hrest
      refine ⟨e, d₂, ?_⟩
      rw [List.forM, exec_bind, hx]
      exact hfail
    · have hfirst' : ¬a.2.Accepts d.program a.1 := by
        rwa [Grown.accepts_iff h.grown hwf hreg]
      obtain ⟨e, d₁, hx⟩ := Stmt.exec_addTo_error h.grown.registered.ready hfirst'
      exact ⟨e, d₁, by rw [List.forM, exec_bind, hx]⟩

end Run

end Description

end PointsTo
