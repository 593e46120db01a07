import Mathlib.Data.List.Zip
import Mathlib.Logic.Function.Basic
import PointsTo.Proofs.Queries

/-!
A concrete interpreter for programs, which does the statements of a running method in any order and
any number of times, and its relation to facts that are closed under the inclusion rules.
-/
namespace PointsTo.Interpreter

open Function (update)

/-- The name of an object that exists at run time. -/
abbrev Addr := Nat

/-- The objects with their allocation statements, what their fields and elements hold, and what the
static fields hold. -/
structure Heap where
  label : Addr → Option StmtId := fun _ => none
  field : Addr → FieldId → Option Addr := fun _ _ => none
  element : Addr → Nat → Option Addr := fun _ _ => none
  statics : FieldId → Option Addr := fun _ => none

/-- A running method and the values of its variables. -/
structure Frame where
  method : MethodId
  vars : VarId → Option Addr := fun _ => none

/-- The active frame, and the frames below it with the call statements that they wait at. -/
structure State where
  heap : Heap := {}
  frame : Frame
  callers : List (StmtId × Frame) := []

def State.frames (st : State) : List Frame := st.frame :: st.callers.map Prod.snd

/-- The calls that led to a frame of method `m`, each with the method that it runs. -/
def callsTo (m : MethodId) : List (StmtId × Frame) → List (StmtId × MethodId)
  | [] => []
  | (s, fr) :: cs => (s, m) :: callsTo fr.method cs

def State.calls (st : State) : List (StmtId × MethodId) := callsTo st.frame.method st.callers

def Frame.set (fr : Frame) (v : VarId) (value : Option Addr) : Frame :=
  { fr with vars := update fr.vars v value }

/-- A new object without content. -/
def Heap.allocate (h : Heap) (a : Addr) (s : StmtId) : Heap :=
  { h with
    label := update h.label a (some s)
    field := update h.field a fun _ => none
    element := update h.element a fun _ => none }

theorem Frame.vars_set (fr : Frame) (v w : VarId) (value : Option Addr) :
    (fr.set v value).vars w = if w = v then value else fr.vars w :=
  Function.update_apply ..

theorem Heap.label_allocate (h : Heap) (a b : Addr) (s : StmtId) :
    (h.allocate a s).label b = if b = a then some s else h.label b :=
  Function.update_apply ..

theorem Heap.field_allocate (h : Heap) (a b : Addr) (s : StmtId) (f : FieldId) :
    (h.allocate a s).field b f = if b = a then none else h.field b f := by
  rw [Heap.allocate]
  dsimp only
  rw [Function.update_apply]
  split <;> rfl

theorem Heap.element_allocate (h : Heap) (a b : Addr) (s : StmtId) (n : Nat) :
    (h.allocate a s).element b n = if b = a then none else h.element b n := by
  rw [Heap.allocate]
  dsimp only
  rw [Function.update_apply]
  split <;> rfl

/-- The frame of a method that is called on an object, or on none, with the given arguments. -/
def Frame.enter (p : Program) (m : MethodId) (this : Option Addr) (args : List (Option Addr)) :
    Frame where
  method := m
  vars v :=
    if (p.methodDecl m).this = some v then this
    else (((p.methodDecl m).params.toList.zip args).lookup v).join

/-- The class of the objects that a statement allocates. -/
def runtimeClass? (p : Program) (s : StmtId) : Option ClassId :=
  match p.stmt s with
  | .new _ type => (Program.runtimeClassName? type).bind p.findClass?
  | _ => none

/-- One step of the interpreter: a statement of the active frame, or a return from it. -/
inductive Step (p : Program) : State → State → Prop
  | new {h fr cs s x t a} (hs : s ∈ (p.methodDecl fr.method).stmts) (h₁ : p.stmt s = .new x t)
      (ha : h.label a = none) : Step p ⟨h, fr, cs⟩ ⟨h.allocate a s, fr.set x (some a), cs⟩
  | copy {h fr cs s x y} (hs : s ∈ (p.methodDecl fr.method).stmts) (h₁ : p.stmt s = .copy x y) :
      Step p ⟨h, fr, cs⟩ ⟨h, fr.set x (fr.vars y), cs⟩
  | loadStatic {h fr cs s x f} (hs : s ∈ (p.methodDecl fr.method).stmts)
      (h₁ : p.stmt s = .load x none f) : Step p ⟨h, fr, cs⟩ ⟨h, fr.set x (h.statics f), cs⟩
  | storeStatic {h fr cs s f y} (hs : s ∈ (p.methodDecl fr.method).stmts)
      (h₁ : p.stmt s = .store none f y) :
      Step p ⟨h, fr, cs⟩ ⟨{ h with statics := update h.statics f (fr.vars y) }, fr, cs⟩
  | load {h fr cs s x b f a} (hs : s ∈ (p.methodDecl fr.method).stmts)
      (h₁ : p.stmt s = .load x (some b) f) (ha : fr.vars b = some a) :
      Step p ⟨h, fr, cs⟩ ⟨h, fr.set x (h.field a f), cs⟩
  | store {h fr cs s b f y a} (hs : s ∈ (p.methodDecl fr.method).stmts)
      (h₁ : p.stmt s = .store (some b) f y) (ha : fr.vars b = some a) :
      Step p ⟨h, fr, cs⟩
        ⟨{ h with field := update h.field a (update (h.field a) f (fr.vars y)) }, fr, cs⟩
  | arrayLoad {h fr cs s x b i a} (n : Nat) (hs : s ∈ (p.methodDecl fr.method).stmts)
      (h₁ : p.stmt s = .arrayLoad x b i) (ha : fr.vars b = some a) :
      Step p ⟨h, fr, cs⟩ ⟨h, fr.set x (h.element a n), cs⟩
  | arrayStore {h fr cs s b i y a} (n : Nat) (hs : s ∈ (p.methodDecl fr.method).stmts)
      (h₁ : p.stmt s = .arrayStore b i y) (ha : fr.vars b = some a) :
      Step p ⟨h, fr, cs⟩
        ⟨{ h with element := update h.element a (update (h.element a) n (fr.vars y)) }, fr, cs⟩
  | staticCall {h fr cs s call m} (hs : s ∈ (p.methodDecl fr.method).stmts)
      (h₁ : p.stmt s = .invoke call) (hk : call.kind = .static)
      (hm : p.calleeAt none s = .ok m) :
      Step p ⟨h, fr, cs⟩ ⟨h, .enter p m none (call.args.map fr.vars), (s, fr) :: cs⟩
  | instanceCall {h fr cs s call b a site cls m} (hs : s ∈ (p.methodDecl fr.method).stmts)
      (h₁ : p.stmt s = .invoke call) (hk : call.kind ≠ .static) (hb : call.receiver = some b)
      (ha : fr.vars b = some a) (hl : h.label a = some site)
      (hcls : runtimeClass? p site = some cls) (hm : p.calleeAt (some cls) s = .ok m) :
      Step p ⟨h, fr, cs⟩ ⟨h, .enter p m (some a) (call.args.map fr.vars), (s, fr) :: cs⟩
  | ret {h fr caller cs s call x v} (h₁ : p.stmt s = .invoke call)
      (hx : call.result = some x) (hv : v ∈ (p.methodDecl fr.method).returns) :
      Step p ⟨h, fr, (s, caller) :: cs⟩ ⟨h, caller.set x (fr.vars v), cs⟩
  /-- A return whose value is not used. -/
  | leave {h fr caller cs s} : Step p ⟨h, fr, (s, caller) :: cs⟩ ⟨h, caller, cs⟩

/-- The states that the interpreter comes to from the entry method. -/
def Reachable (p : Program) (st : State) : Prop :=
  ∃ m, p.entry = some m ∧ Relation.ReflTransGen (Step p) { frame := { method := m } } st

section Abstraction

variable {p : Program} {π : Policy} {K : Set Fact} {label : Addr → Option StmtId}
  {γ : Addr → HeapObj} {x y : Location} {a b : Addr}

/-- An object exists, and the abstract object that it stands for is one that a place points to. -/
def Points (K : Set Fact) (label : Addr → Option StmtId) (γ : Addr → HeapObj) (x : Location)
    (b : Addr) : Prop :=
  (label b).isSome ∧ .pts x (γ b) ∈ K

/-- What a heap holds is among the facts of `K`, with `γ` for the abstract objects. -/
structure Heap.Within (p : Program) (K : Set Fact) (γ : Addr → HeapObj) (h : Heap) : Prop where
  label {a s} (ha : h.label a = some s) : p.objectAt s = .ok (γ a).obj
  field {a f b} (hb : h.field a f = some b) : Points K h.label γ (.field (γ a) f) b
  element {a n b} (hb : h.element a n = some b) : Points K h.label γ (.array (γ a)) b
  statics {f b} (hb : h.statics f = some b) : Points K h.label γ (.static f) b

/-- What a frame holds is among the facts of `K`, in context `c`. -/
structure Frame.Within (K : Set Fact) (label : Addr → Option StmtId) (γ : Addr → HeapObj)
    (c : Context) (fr : Frame) : Prop where
  reach : .reach c fr.method ∈ K
  vars {v b} (hb : fr.vars v = some b) : Points K label γ (.var c v) b

/-- The frames below one of method `m` in context `c` are among the facts of `K`, and so are the
calls that lead from one to the next. -/
inductive Waiting (p : Program) (K : Set Fact) (label : Addr → Option StmtId)
    (γ : Addr → HeapObj) : Context → MethodId → List (StmtId × Frame) → Prop
  | nil {c m} : Waiting p K label γ c m []
  | cons {c d m s call fr cs} (hfr : fr.Within K label γ c) (hs : p.stmt s = .invoke call)
      (hcall : .call call.kind c s d m ∈ K) (hcs : Waiting p K label γ c fr.method cs) :
      Waiting p K label γ d m ((s, fr) :: cs)

/-- A state of the interpreter is among the facts of `K`. -/
def State.Within (p : Program) (K : Set Fact) (st : State) : Prop :=
  ∃ γ c, st.heap.Within p K γ ∧ st.frame.Within K st.heap.label γ c ∧
    Waiting p K st.heap.label γ c st.frame.method st.callers

theorem Points.along (hK : Closed p π K) (hf : .flow x y ∈ K) (h : Points K label γ x b) :
    Points K label γ y b :=
  ⟨h.1, hK _ (.along hf h.2)⟩

/-- A new object changes nothing for the others. -/
theorem Points.allocate {s : StmtId} {o : HeapObj} (ha : label a = none)
    (h : Points K label γ x b) : Points K (update label a (some s)) (update γ a o) x b := by
  have hne : b ≠ a := by
    rintro rfl
    simp [Points, ha] at h
  rw [Points, Function.update_of_ne hne, Function.update_of_ne hne]
  exact h

theorem Points.new {s : StmtId} {o : HeapObj} (h : .pts x o ∈ K) :
    Points K (update label a (some s)) (update γ a o) x a := by
  rw [Points, Function.update_self, Function.update_self]
  exact ⟨rfl, h⟩

theorem Frame.Within.allocate {c : Context} {fr : Frame} {s : StmtId} {o : HeapObj}
    (ha : label a = none) (h : fr.Within K label γ c) :
    fr.Within K (update label a (some s)) (update γ a o) c :=
  ⟨h.reach, fun hb => (h.vars hb).allocate ha⟩

theorem Waiting.allocate {c : Context} {m : MethodId} {cs : List (StmtId × Frame)} {s : StmtId}
    {o : HeapObj} (ha : label a = none) (h : Waiting p K label γ c m cs) :
    Waiting p K (update label a (some s)) (update γ a o) c m cs := by
  induction h with
  | nil => exact .nil
  | cons hfr hs hcall _ ih => exact .cons (hfr.allocate ha) hs hcall ih

theorem Frame.Within.set {c : Context} {fr : Frame} (h : fr.Within K label γ c) {v : VarId}
    {value : Option Addr} (hv : ∀ b, value = some b → Points K label γ (.var c v) b) :
    (fr.set v value).Within K label γ c := by
  refine ⟨h.reach, fun {w b} hb => ?_⟩
  rw [Frame.vars_set] at hb
  split at hb
  · next hw =>
    subst hw
    exact hv b hb
  · exact h.vars hb

theorem Heap.Within.allocate {h : Heap} {s : StmtId} {o : HeapObj} (ha : h.label a = none)
    (hh : h.Within p K γ) (ho : p.objectAt s = .ok o.obj) :
    (h.allocate a s).Within p K (update γ a o) := by
  refine ⟨fun {b s'} hb => ?_, fun {b f b'} hb => ?_, fun {b n b'} hb => ?_, fun hb => ?_⟩
  · rw [Heap.label_allocate] at hb
    rw [Function.update_apply]
    split at hb
    · next hba =>
      rw [if_pos hba]
      cases hb
      exact ho
    · next hba =>
      rw [if_neg hba]
      exact hh.label hb
  · rw [Heap.field_allocate] at hb
    split at hb
    · cases hb
    · next hba =>
      rw [Function.update_of_ne hba]
      exact (hh.field hb).allocate ha
  · rw [Heap.element_allocate] at hb
    split at hb
    · cases hb
    · next hba =>
      rw [Function.update_of_ne hba]
      exact (hh.element hb).allocate ha
  · exact (hh.statics hb).allocate ha

theorem Heap.Within.setStatic {h : Heap} (hh : h.Within p K γ) {f : FieldId}
    {value : Option Addr} (hv : ∀ b, value = some b → Points K h.label γ (.static f) b) :
    Heap.Within p K γ { h with statics := update h.statics f value } := by
  refine ⟨hh.label, hh.field, hh.element, fun {g b} hb => ?_⟩
  dsimp only at hb
  rw [Function.update_apply] at hb
  split at hb
  · next hg =>
    subst hg
    exact hv b hb
  · exact hh.statics hb

theorem Heap.Within.setField {h : Heap} (hh : h.Within p K γ) {f : FieldId} {value : Option Addr}
    (hv : ∀ b, value = some b → Points K h.label γ (.field (γ a) f) b) :
    Heap.Within p K γ { h with field := update h.field a (update (h.field a) f value) } := by
  refine ⟨hh.label, fun {a' g b} hb => ?_, hh.element, hh.statics⟩
  dsimp only at hb
  rw [Function.update_apply] at hb
  split at hb
  · next ha =>
    subst ha
    rw [Function.update_apply] at hb
    split at hb
    · next hg =>
      subst hg
      exact hv b hb
    · exact hh.field hb
  · exact hh.field hb

theorem Heap.Within.setElement {h : Heap} (hh : h.Within p K γ) {n : Nat} {value : Option Addr}
    (hv : ∀ b, value = some b → Points K h.label γ (.array (γ a)) b) :
    Heap.Within p K γ { h with element := update h.element a (update (h.element a) n value) } := by
  refine ⟨hh.label, hh.field, fun {a' i b} hb => ?_, hh.statics⟩
  dsimp only at hb
  rw [Function.update_apply] at hb
  split at hb
  · next ha =>
    subst ha
    rw [Function.update_apply] at hb
    split at hb
    · exact hv b hb
    · exact hh.element hb
  · exact hh.element hb

/-- Parameters get the arguments at their positions. -/
theorem exists_argument {params args : List VarId} {vars : VarId → Option Addr} {v : VarId}
    (h : ((params.zip (args.map vars)).lookup v).join = some b) :
    ∃ arg, (arg, v) ∈ args.zip params ∧ vars arg = some b := by
  obtain ⟨l, l', hl, -⟩ := List.lookup_eq_some_iff.mp (Option.join_eq_some_iff.mp h)
  have hmem : (v, some b) ∈ params.zip (args.map vars) := by simp [hl]
  rw [List.zip_map_right, List.mem_map] at hmem
  obtain ⟨⟨w, arg⟩, hw, he⟩ := hmem
  obtain ⟨rfl, hb⟩ : w = v ∧ vars arg = some b := by simpa using he
  refine ⟨arg, ?_, hb⟩
  rw [← List.zip_swap]
  exact List.mem_map.mpr ⟨(w, arg), hw, rfl⟩

theorem Frame.within_enter (hK : Closed p π K) {k : CallKind} {c d : Context} {s : StmtId}
    {m : MethodId} {call : Call} {fr : Frame} {this : Option Addr} (hcall : .call k c s d m ∈ K)
    (h₁ : p.stmt s = .invoke call) (hfr : fr.Within K label γ c)
    (hthis : ∀ v b, (p.methodDecl m).this = some v → this = some b →
      Points K label γ (.var d v) b) :
    (Frame.enter p m this (call.args.map fr.vars)).Within K label γ d := by
  refine ⟨hK _ (.callee hcall), fun {v b} hb => ?_⟩
  rw [Frame.enter] at hb
  dsimp only at hb
  split at hb
  · next hv => exact hthis v b hv hb
  · obtain ⟨arg, harg, hb⟩ := exists_argument hb
    exact (hfr.vars hb).along hK (hK _ (.argument hcall h₁ harg))

theorem runtimeClass?_of_objectAt {s : StmtId} {o : Obj} (h : p.objectAt s = .ok o) :
    runtimeClass? p s = some o.cls := by
  obtain ⟨⟨x, name, hs, hn, hc⟩, -⟩ := Program.of_objectAt h
  rw [runtimeClass?, hs]
  simp [hn, hc]

/-- A step of the interpreter does not leave a closed family of facts. -/
theorem Step.within (hK : Closed p π K) (hr : Resolves p K) {st st' : State} (h : Step p st st')
    (hst : st.Within p K) : st'.Within p K := by
  obtain ⟨γ, c, hh, hfr, hcs⟩ := hst
  cases h with
  | @new h fr cs s x t a hs h₁ ha =>
    obtain ⟨obj, ho⟩ := hr.new hfr.reach hs h₁
    have hnew := hK _ (.new hfr.reach hs h₁ ho)
    refine ⟨update γ a ⟨π.forObject c, obj⟩, c, hh.allocate ha ho, ?_, hcs.allocate ha⟩
    refine (hfr.allocate ha).set fun b hb => ?_
    cases hb
    exact .new hnew
  | copy hs h₁ =>
    refine ⟨γ, c, hh, hfr.set fun b hb => ?_, hcs⟩
    exact (hfr.vars hb).along hK (hK _ (.copy hfr.reach hs h₁))
  | loadStatic hs h₁ =>
    refine ⟨γ, c, hh, hfr.set fun b hb => ?_, hcs⟩
    exact (hh.statics hb).along hK (hK _ (.loadStatic hfr.reach hs h₁))
  | storeStatic hs h₁ =>
    refine ⟨γ, c, hh.setStatic fun b hb => ?_, hfr, hcs⟩
    exact (hfr.vars hb).along hK (hK _ (.storeStatic hfr.reach hs h₁))
  | load hs h₁ ha =>
    refine ⟨γ, c, hh, hfr.set fun b hb => ?_, hcs⟩
    exact (hh.field hb).along hK (hK _ (.load hfr.reach hs h₁ (hfr.vars ha).2))
  | store hs h₁ ha =>
    refine ⟨γ, c, hh.setField fun b hb => ?_, hfr, hcs⟩
    exact (hfr.vars hb).along hK (hK _ (.store hfr.reach hs h₁ (hfr.vars ha).2))
  | arrayLoad n hs h₁ ha =>
    refine ⟨γ, c, hh, hfr.set fun b hb => ?_, hcs⟩
    exact (hh.element hb).along hK (hK _ (.arrayLoad hfr.reach hs h₁ (hfr.vars ha).2))
  | arrayStore n hs h₁ ha =>
    refine ⟨γ, c, hh.setElement fun b hb => ?_, hfr, hcs⟩
    exact (hfr.vars hb).along hK (hK _ (.arrayStore hfr.reach hs h₁ (hfr.vars ha).2))
  | staticCall hs h₁ hk hm =>
    have hcall := hK _ (.staticCall hfr.reach hs h₁ hk hm)
    rw [← hk] at hcall
    refine ⟨γ, _, hh, Frame.within_enter hK hcall h₁ hfr fun _ _ _ hb => ?_,
      .cons hfr h₁ hcall hcs⟩
    cases hb
  | @instanceCall h fr cs s call b a site cls m hs h₁ hk hb ha hl hcls hm =>
    have ho := (hfr.vars ha).2
    have hc := runtimeClass?_of_objectAt (hh.label hl)
    rw [hcls, Option.some.injEq] at hc
    subst hc
    have hcall := hK _ (.instanceCall hfr.reach hs h₁ hk hb ho hm)
    refine ⟨γ, _, hh, Frame.within_enter hK hcall h₁ hfr fun v b' hv hb' => ?_,
      .cons hfr h₁ hcall hcs⟩
    cases hb'
    exact ⟨(hfr.vars ha).1, hK _ (.receiver hfr.reach hs h₁ hk hb ho hm hv)⟩
  | ret h₁ hx hv =>
    cases hcs with
    | cons hcaller hs hcall hcs =>
      refine ⟨γ, _, hh, hcaller.set fun b hb => ?_, hcs⟩
      exact (hfr.vars hb).along hK (hK _ (.result hcall h₁ hx hv))
  | leave =>
    cases hcs with
    | cons hcaller hs hcall hcs => exact ⟨γ, _, hh, hcaller, hcs⟩

theorem Reachable.within (hK : Closed p π K) (hr : Resolves p K) {st : State}
    (h : Reachable p st) : st.Within p K := by
  obtain ⟨m, he, hsteps⟩ := h
  induction hsteps with
  | refl =>
    refine ⟨fun _ => ⟨.empty, default⟩, .empty, ⟨?_, ?_, ?_, ?_⟩, ⟨hK _ (.entry he), ?_⟩, .nil⟩
    all_goals
      intros
      contradiction
  | tail _ hstep ih => exact hstep.within hK hr ih

theorem Waiting.frame_within {c : Context} {m : MethodId} {cs : List (StmtId × Frame)}
    (h : Waiting p K label γ c m cs) {fr : Frame} (hfr : fr ∈ cs.map Prod.snd) :
    ∃ d, fr.Within K label γ d := by
  induction h with
  | nil => cases hfr
  | @cons c d m s call fr' cs hfr' hs hcall _ ih =>
    rcases List.mem_cons.mp hfr with rfl | hfr
    · exact ⟨c, hfr'⟩
    · exact ih hfr

theorem Waiting.call_mem {c : Context} {m : MethodId} {cs : List (StmtId × Frame)}
    (h : Waiting p K label γ c m cs) {s : StmtId} {n : MethodId} (hs : (s, n) ∈ callsTo m cs) :
    ∃ call, p.stmt s = .invoke call ∧ ∃ d e, .call call.kind d s e n ∈ K := by
  induction h with
  | nil => cases hs
  | @cons c d m s' call fr cs hfr hst hcall _ ih =>
    rcases List.mem_cons.mp hs with h | h
    · cases h
      exact ⟨call, hst, c, d, hcall⟩
    · exact ih h

end Abstraction

/-- Everything in a state of the interpreter is foreseen by a solution: the running methods, the
calls that led to them, and the allocation sites of all that is held. -/
structure Covers (r : Solution) (st : State) : Prop where
  method {fr} (hfr : fr ∈ st.frames) : fr.method ∈ r.plainCalls.reachable
  call {s m} (hs : (s, m) ∈ st.calls) :
    ∃ call, r.program.stmt s = .invoke call ∧ ⟨call.kind, s, m⟩ ∈ r.plainCalls.edges
  vars {fr v a} (hfr : fr ∈ st.frames) (ha : fr.vars v = some a) :
    ∃ s, st.heap.label a = some s ∧ s ∈ r.varSites v
  statics {f a} (ha : st.heap.statics f = some a) :
    ∃ s, st.heap.label a = some s ∧ ∃ i ∈ r.staticPointees f, (r.store.object i).site = s
  field {a f b s} (ha : st.heap.label a = some s) (hb : st.heap.field a f = some b) :
    ∃ t, st.heap.label b = some t ∧ ∃ base, r.store.objects.values.Holds base ∧
      (r.store.object base).site = s ∧ ∃ i ∈ r.fieldPointees base f, (r.store.object i).site = t
  element {a n b s} (ha : st.heap.label a = some s) (hb : st.heap.element a n = some b) :
    ∃ t, st.heap.label b = some t ∧ ∃ x u w, r.store.pointer x = .array u ∧
      (r.store.objectOf u).site = s ∧ (r.store.pointees x).contains w ∧
      (r.store.objectOf w).site = t

section Solution

variable {p : Program} {r : Solution} {γ : Addr → HeapObj} {st : State}

theorem Points.site {K : Set Fact} {h : Heap} (hh : h.Within p K γ) {x : Location} {b : Addr}
    (hb : Points K h.label γ x b) :
    ∃ s, h.label b = some s ∧ (γ b).obj.site = s ∧ .pts x (γ b) ∈ K := by
  obtain ⟨s, hs⟩ := Option.isSome_iff_exists.mp hb.1
  exact ⟨s, hs, Program.site_of_objectAt (hh.label hs), hb.2⟩

theorem State.Within.covers (hr : r.Valid p) (hst : st.Within p r.facts) : Covers r st := by
  obtain ⟨γ, c, hh, hfr, hcs⟩ := hst
  have hframe {fr : Frame} (h : fr ∈ st.frames) : ∃ d, fr.Within r.facts st.heap.label γ d := by
    rcases List.mem_cons.mp h with rfl | h
    · exact ⟨c, hfr⟩
    · exact hcs.frame_within h
  obtain ⟨hreach, hedge⟩ := r.plainCalls_spec
  have hp : r.program = p := by
    obtain ⟨s, -, rfl⟩ := hr
    rfl
  refine ⟨fun h => ?_, fun {s m} h => ?_, fun h ha => ?_, fun ha => ?_, fun {a f b s} ha hb => ?_,
    fun {a n b s} ha hb => ?_⟩
  · obtain ⟨d, hd⟩ := hframe h
    exact (hreach _).mpr ⟨d, hd.reach⟩
  · obtain ⟨call, hs, d, e, hcall⟩ := hcs.call_mem h
    exact ⟨call, hp ▸ hs, (hedge _ _ _).mpr ⟨d, e, hcall⟩⟩
  · obtain ⟨d, hd⟩ := hframe h
    obtain ⟨s, hs, hsite, hpts⟩ := (hd.vars ha).site hh
    exact ⟨s, hs, (Solution.mem_varSites hr).mpr ⟨d, _, hpts, hsite⟩⟩
  · obtain ⟨s, hs, hsite, hpts⟩ := (hh.statics ha).site hh
    exact ⟨s, hs, (Solution.mem_staticPointees hr).mpr ⟨_, hpts, hsite⟩⟩
  · obtain ⟨t, ht, hsite, hpts⟩ := (hh.field hb).site hh
    obtain ⟨base, hbase, hobj⟩ := hr.exists_base hpts
    refine ⟨t, ht, base, hbase, ?_, (Solution.mem_fieldPointees hr hbase).mpr
      ⟨(γ a).heap, γ b, ?_, hsite⟩⟩
    · rw [hobj]
      exact Program.site_of_objectAt (hh.label ha)
    · rw [hobj]
      exact hpts
  · obtain ⟨t, ht, hsite, x, w, hw, hx, hγ⟩ := (hh.element hb).site hh
    obtain ⟨u, hu, hua⟩ := Solution.place_eq_array hx
    refine ⟨t, ht, x, u, w, hu, ?_, hw, ?_⟩
    · rw [← Program.site_of_objectAt (hh.label ha), ← hua]
      rfl
    · rw [← hsite, ← hγ]
      rfl

end Solution

/-- Whatever the interpreter comes to from the entry method of a program, a successful analysis has
foreseen it, with any kind and depth of contexts. -/
theorem covers_of_reachable {p : Program} (hp : p.Finished) {π : Policy} {r : Solution}
    (h : (analyze p π).1 = .ok r) {st : State} (hst : Reachable p st) : Covers r st := by
  obtain ⟨entry, s, -, -, hidle, hc, rfl⟩ := Propagation.idle_of_analyze h
  have hwithin := hst.within (hc.closed hidle hp.wellFormed) (hc.resolves hidle hp.wellFormed)
  exact hwithin.covers (Solution.valid_of_analyze h)

/-- A box is allocated, and put into itself by the method that it is the receiver and the argument
of. -/
theorem boxes_reachable : ∃ st, Reachable Description.boxes.program st ∧
    st.callers.length = 1 ∧ st.heap.field 0 ⟨0⟩ = some 0 := by
  let p := Description.boxes.program
  let put : Call :=
    { kind := .virtual
      target := ⟨⟨0⟩, { name := "put", params := [.ref "Box"], ret := .ref "Box" }⟩
      receiver := some ⟨3⟩, args := [⟨3⟩], result := some ⟨4⟩ }
  let main : Frame := Frame.set { method := ⟨1⟩ } ⟨3⟩ (some 0)
  let callee := Frame.enter p ⟨0⟩ (some 0) (put.args.map main.vars)
  have hnew : p.stmt ⟨3⟩ = .new ⟨3⟩ (.ref "Box") := by decide +kernel
  have hcall : p.stmt ⟨4⟩ = .invoke put := by decide +kernel
  have hstore : p.stmt ⟨0⟩ = .store (some ⟨0⟩) ⟨0⟩ ⟨1⟩ := by decide +kernel
  have hclass : runtimeClass? p ⟨3⟩ = some ⟨0⟩ := by decide +kernel
  have hcallee : p.calleeAt (some ⟨0⟩) ⟨4⟩ = .ok ⟨0⟩ := by decide +kernel
  have h₁ : Step p { frame := { method := ⟨1⟩ } } ⟨Heap.allocate {} 0 ⟨3⟩, main, []⟩ :=
    .new (by decide +kernel) hnew (by decide +kernel)
  have h₂ : Step p ⟨Heap.allocate {} 0 ⟨3⟩, main, []⟩
      ⟨Heap.allocate {} 0 ⟨3⟩, callee, [(⟨4⟩, main)]⟩ :=
    .instanceCall (by decide +kernel) hcall (by decide) rfl (by decide +kernel) (by decide +kernel)
      hclass hcallee
  have h₃ : Step p ⟨Heap.allocate {} 0 ⟨3⟩, callee, [(⟨4⟩, main)]⟩ _ :=
    .store (by decide +kernel) hstore (a := 0) (by decide +kernel)
  refine ⟨_, ⟨⟨1⟩, by decide +kernel, .tail (.tail (.single h₁) h₂) h₃⟩, rfl, ?_⟩
  decide +kernel

theorem covers_boxes : ∃ r st, Description.boxes.program.Finished ∧
    (analyze Description.boxes.program (.type 1)).1 = .ok r ∧
    Reachable Description.boxes.program st ∧ st.heap.field 0 ⟨0⟩ = some 0 ∧ Covers r st := by
  obtain ⟨r, hr⟩ : ∃ r, (analyze Description.boxes.program (.type 1)).1 = .ok r :=
    exists_of_toOption (by decide +kernel)
  obtain ⟨st, hst, -, hf⟩ := boxes_reachable
  exact ⟨r, st, Description.boxes_finished, hr, hst, hf,
    covers_of_reachable Description.boxes_finished hr hst⟩

end PointsTo.Interpreter
