import PointsTo.Proofs.Keeping
import PointsTo.Proofs.Representation
import Std.Data.String.ToNat

namespace PointsTo

namespace Program

variable {p : Program} {m : MethodId}

/-- The names of the variables of a method, in order. -/
def varNames (p : Program) (m : MethodId) : List String :=
  (p.methodDecl m).vars.toList.map fun v => (p.varDecl v).name

/-- No two variables of the method have the same name. -/
def Unambiguous (p : Program) (m : MethodId) : Prop :=
  ∀ v ∈ (p.methodDecl m).vars, ∀ w ∈ (p.methodDecl m).vars,
    (p.varDecl v).name = (p.varDecl w).name → v = w

/-- A name that is taken once leads to its variable. -/
theorem Unambiguous.findVar?_eq (h : p.Unambiguous m) {v : VarId}
    (hv : v ∈ (p.methodDecl m).vars) : p.findVar? m (p.varDecl v).name = some v := by
  cases hf : p.findVar? m (p.varDecl v).name with
  | none =>
    have hnot := List.find?_eq_none.mp hf v (Array.mem_toList_iff.mpr hv)
    simp at hnot
  | some w =>
    have hw : w ∈ (p.methodDecl m).vars := Array.mem_toList_iff.mp (List.mem_of_find?_eq_some hf)
    have hname := List.find?_some hf
    rw [decide_eq_true_eq] at hname
    rw [h w hw v hv hname]

theorem Represented.unambiguous_iff (h : p.Represented) :
    p.Unambiguous m ↔ (p.varNames m).Nodup := by
  unfold Unambiguous varNames
  constructor
  · intro hinj
    apply (h.vars m).nodup.map_on
    intro v hv w hw
    exact hinj v (Array.mem_toList_iff.mp hv) w (Array.mem_toList_iff.mp hw)
  · intro hnames v hv w hw
    exact List.inj_on_of_nodup_map hnames (Array.mem_toList_iff.mpr hv)
      (Array.mem_toList_iff.mpr hw)

theorem not_mem_varNames {name : String} (h : p.findVar? m name = none) :
    name ∉ p.varNames m := by
  intro hmem
  obtain ⟨v, hv, rfl⟩ := List.mem_map.mp hmem
  have hnot := List.find?_eq_none.mp h v hv
  simp at hnot

/-- The variables that methods list are there. -/
def VarsHold (p : Program) : Prop := ∀ m, ∀ v ∈ (p.methodDecl m).vars, p.vars.Holds v

theorem Represented.varsHold (h : p.Represented) : p.VarsHold := by
  intro m v hv
  exact ((h.vars m).mem_iff.mp hv).1

section AddVar

variable {i : MethodId} {counters : Counters} {decl : VarDecl} {f : MethodDecl → MethodDecl}
  (hi : p.methods.Holds i) (hf : ∀ d, (f d).vars = d.vars.push p.vars.nextId)
include hi hf

theorem VarsHold.addVar (h : p.VarsHold) :
    VarsHold { p with counters, vars := p.vars.push decl, methods := p.methods.modify i f } := by
  intro m v hv
  rw [methodDecl, Table.get_modify_push (g := MethodDecl.vars) hi hf m] at hv
  apply Table.holds_push.mpr
  split at hv
  · rcases Array.mem_push.mp hv with hv | hv
    · exact .inl (h m v hv)
    · exact .inr hv
  · exact .inl (h m v hv)

theorem varNames_addVar (h : p.VarsHold) (m : MethodId) :
    varNames { p with counters, vars := p.vars.push decl, methods := p.methods.modify i f } m =
      if i = m then p.varNames m ++ [decl.name] else p.varNames m := by
  have hold : (p.methodDecl m).vars.toList.map (fun v => ((p.vars.push decl).get v).name) =
      p.varNames m := by
    apply List.map_congr_left
    intro v hv
    rw [Table.extends_push.get (h m v (Array.mem_toList_iff.mp hv))]
    rfl
  have hnew : (p.vars.push decl).get p.vars.nextId = decl := by rw [Table.get_push, if_pos rfl]
  unfold varNames
  rw [methodDecl, Table.get_modify_push (g := MethodDecl.vars) hi hf m]
  split
  · rw [Array.toList_push, List.map_append]
    exact congrArg₂ (· ++ ·) hold (congrArg (fun d : VarDecl => [d.name]) hnew)
  · exact hold

end AddVar

theorem vars_pushMethod {decl : MethodDecl} (h : decl.vars = #[]) (m : MethodId) :
    ((p.pushMethod decl).methodDecl m).vars = (p.methodDecl m).vars :=
  Table.apply_get_push h m

theorem VarsHold.pushMethod (h : p.VarsHold) {decl : MethodDecl} (hvars : decl.vars = #[]) :
    (p.pushMethod decl).VarsHold := by
  intro m v hv
  rw [vars_pushMethod hvars] at hv
  exact h m v hv

theorem varNames_pushMethod {decl : MethodDecl} (h : decl.vars = #[]) :
    (p.pushMethod decl).varNames = p.varNames := by
  funext m
  unfold varNames
  rw [vars_pushMethod h]
  rfl

/-- A statement more does not change the names. -/
theorem varNames_pushStmt (p : Program) (i : MethodId) (stmt : Stmt) :
    (p.pushStmt i stmt).varNames = p.varNames := by
  funext m
  have hvars : ((p.pushStmt i stmt).methodDecl m).vars = (p.methodDecl m).vars := by
    rw [methodDecl, methods_pushStmt]
    exact Table.apply_get_modify fun _ => rfl
  have hname (v : VarId) : ((p.pushStmt i stmt).varDecl v).name = (p.varDecl v).name := by
    rcases vars_pushStmt p i stmt with ⟨-, hv⟩ | ⟨w, u, -, hv⟩
    · rw [varDecl, hv]
      rfl
    · rw [varDecl, hv]
      apply Table.apply_get_modify
      intro d
      cases u <;> rfl
  unfold varNames
  simp only [hvars, hname]

theorem varNames_pushParams (hp : p.Counted) (h : p.VarsHold) {i : MethodId}
    (hi : p.methods.Holds i) (params : List (String × Ty)) (m : MethodId) :
    (params.foldl (fun p (name, type) => p.pushParam i name type) p).varNames m =
      if i = m then p.varNames m ++ params.map Prod.fst else p.varNames m := by
  induction params generalizing p with
  | nil => simp
  | cons param params ih =>
    have hq := pushParam_eq p i param.1 param.2
    rw [hp.nextVar] at hq
    have hi' : (p.pushParam i param.1 param.2).methods.Holds i := by
      rw [hq]
      exact Table.holds_modify.mpr hi
    have hhold : (p.pushParam i param.1 param.2).VarsHold := by
      rw [hq]
      exact h.addVar hi fun _ => rfl
    have hnames : (p.pushParam i param.1 param.2).varNames m =
        if i = m then p.varNames m ++ [param.1] else p.varNames m := by
      rw [hq]
      exact varNames_addVar hi (fun _ => rfl) h m
    rw [List.foldl_cons, ih (hp.pushParam i param.1 param.2) hhold hi', hnames]
    by_cases him : i = m
    · simp [him]
    · simp [him]

/-- A method that is not static gets its receiver first. -/
theorem varNames_receiver (hp : p.Counted) (h : p.VarsHold) {i : MethodId}
    (hi : p.methods.Holds i) (isStatic : Bool) (className : String) :
    let q := if isStatic then p else p.pushThis i className
    q.Counted ∧ q.methods.Holds i ∧ q.VarsHold ∧ ∀ m, q.varNames m =
      if i = m then p.varNames m ++ (if isStatic then [] else ["this"]) else p.varNames m := by
  cases isStatic with
  | true => exact ⟨hp, hi, h, by simp⟩
  | false =>
    have hthis := hp.pushThis i className
    rw [pushThis_eq, hp.nextVar] at hthis
    rw [if_neg Bool.false_ne_true, pushThis_eq, hp.nextVar]
    exact ⟨hthis, Table.holds_modify.mpr hi, h.addVar hi fun _ => rfl,
      varNames_addVar hi (fun _ => rfl) h⟩

end Program

namespace Draft

open Program

variable {α : Type} {d d' : Draft}

/-- The names of the variables that a method is declared with. -/
def declaredNames (g : Signature) (flags : MethodFlags) (names : List String) : List String :=
  let flags := flags ||| Flags.onlyIf g.isConstructor MethodFlags.isConstructor
  (if flags.has MethodFlags.isStatic then [] else ["this"]) ++ paramNames names g.params.length

theorem length_paramNames {names : List String} {count : Nat}
    (h : ¬(!names.isEmpty && decide (names.length ≠ count)) = true) :
    (paramNames names count).length = count := by
  unfold paramNames
  split
  · simp
  · next hne => simpa [hne] using h

theorem varNames_declareMethod (hp : d.program.Counted) (hd : d.program.VarsHold) {c : ClassId}
    {g : Signature} {flags : MethodFlags} {names : List String} {i : MethodId}
    (h : exec (declareMethod c g flags names) d = (.ok i, d')) (m : MethodId) :
    d'.program.varNames m = if d.program.methods.nextId = m then declaredNames g flags names
      else d.program.varNames m := by
  rw [declareMethod, exec_bind] at h
  simp only [exec_getProgram] at h
  split at h
  · cases h
  split at h
  · cases h
  next hcount =>
  simp only [exec_bind, exec_edit, hp.nextMethod] at h
  obtain ⟨-, rfl⟩ := Prod.mk.inj h
  let flags' := flags ||| Flags.onlyIf g.isConstructor MethodFlags.isConstructor
  let decl : MethodDecl :=
    { id := d.program.methods.nextId, cls := c, className := (d.program.classDecl c).name,
      signature := g, flags := flags' }
  have hi : (d.program.pushMethod decl).methods.Holds decl.id :=
    Table.holds_of_get? Table.get?_push_self
  obtain ⟨hp', hi', hhold, hnames⟩ := varNames_receiver (hp.pushMethod decl) (hd.pushMethod rfl) hi
    (flags'.has MethodFlags.isStatic) decl.className
  have hnone : d.program.varNames d.program.methods.nextId = [] := by
    rw [varNames, methodDecl, Table.get_of_not_holds Table.not_holds_nextId]
    rfl
  have hparams : ((paramNames names g.params.length).zip g.params).map Prod.fst =
      paramNames names g.params.length :=
    List.map_fst_zip (Nat.le_of_eq (length_paramNames hcount))
  dsimp only
  rw [varNames_pushParams hp' hhold hi', hnames, varNames_pushMethod rfl, hparams]
  split
  · next him =>
    rw [← him, hnone, List.nil_append]
    rfl
  · rfl

theorem varNames_congr {p q : Program} (h : p.bodies = q.bodies) : p.varNames = q.varNames := by
  obtain ⟨hmethods, hrest⟩ := Prod.mk.inj h
  obtain ⟨hvars, -⟩ := Prod.mk.inj hrest
  funext m
  unfold varNames methodDecl varDecl
  rw [hmethods, hvars]

theorem Keeps.varNames {x : Build α} (hx : Keeps Program.bodies x) : Keeps Program.varNames x :=
  fun d => varNames_congr (hx d)

theorem keeps_appendStmt (m : MethodId) (stmt : Stmt) :
    Keeps Program.varNames (appendStmt m stmt) :=
  keeps_appendStmt_of (fun name => (keeps_mentionClass name).varNames)
    fun p => varNames_pushStmt p m stmt

theorem exists_of_exec_discard {x : Build α} (h : exec (discard x) d = (.ok (), d')) :
    ∃ a, exec x d = (.ok a, d') := by
  rw [exec_discard] at h
  rcases hx : exec x d with ⟨e | a, d₁⟩ <;> rw [hx] at h
  · cases h
  · cases h
    exact ⟨a, rfl⟩

theorem varNames_declareLocal (hp : d.program.Counted) (hd : d.program.VarsHold) {i : MethodId}
    (hi : d.program.methods.Holds i) {name : String} {type : Ty} {v : VarId}
    (h : exec (declareLocal i name type) d = (.ok v, d')) :
    name ∉ d.program.varNames i ∧ ∀ m, d'.program.varNames m =
      if i = m then d.program.varNames m ++ [name] else d.program.varNames m := by
  rw [declareLocal, exec_bind, exec_getProgram] at h
  dsimp only at h
  split at h
  · cases h
  · next hnew =>
    obtain ⟨-, rfl⟩ := Prod.mk.inj h
    refine ⟨not_mem_varNames (Option.not_isSome_iff_eq_none.mp hnew), fun m => ?_⟩
    dsimp only
    rw [Program.pushVar, modifyMethod, hp.nextVar]
    exact varNames_addVar hi (fun _ => rfl) hd m

/-- The variables that a call declares together have names of their own. -/
def Action.Distinct : Action → Prop
  | declareMethod _ g flags names => (declaredNames g flags names).Nodup
  | _ => True

/-- Parameters that are not named are given different names. -/
theorem distinct_of_unnamed (c : ClassId) (g : Signature) (flags : MethodFlags) :
    (Action.declareMethod c g flags []).Distinct := by
  have hinjective : Function.Injective fun i : Nat => s!"p{i}" := by
    intro i j hij
    simpa using hij
  have hthis (i : Nat) : s!"p{i}" ≠ "this" := by
    intro h
    have hlist : ("p" ++ toString i).toList = "this".toList := congrArg String.toList h
    simp at hlist
  have hparams : (paramNames [] g.params.length).Nodup := List.nodup_range.map hinjective
  unfold Action.Distinct declaredNames
  dsimp only
  split
  · rw [List.nil_append]
    exact hparams
  · rw [List.singleton_append, List.nodup_cons]
    refine ⟨?_, hparams⟩
    intro hmem
    obtain ⟨i, -, hi⟩ := List.mem_map.mp hmem
    exact hthis i hi

/-- A call that succeeds leaves the names unambiguous if they were so before and it declares
different ones. -/
theorem nodup_varNames_step (h : Built d) {a : Action} (ha : a.Known d.program)
    (hx : exec a.run d = (.ok (), d')) :
    (∀ m, (d'.program.varNames m).Nodup) ↔
      (∀ m, (d.program.varNames m).Nodup) ∧ a.Distinct := by
  have hhold : d.program.VarsHold := h.edits.represented.varsHold
  have hkeep (hk : Keeps Program.varNames a.run) (hdistinct : a.Distinct) :
      (∀ m, (d'.program.varNames m).Nodup) ↔
        (∀ m, (d.program.varNames m).Nodup) ∧ a.Distinct := by
    have hd := hk d
    rw [hx] at hd
    rw [hd]
    exact (and_iff_left hdistinct).symm
  cases a with
  | defineClass name flags => exact hkeep (keeps_defineClass name flags).discard.varNames trivial
  | extendClass c superclass =>
    exact hkeep (keeps_extendClass c superclass).discard.varNames trivial
  | implement c interface => exact hkeep (keeps_implement c interface).discard.varNames trivial
  | declareField c name type flags =>
    exact hkeep (keeps_declareField c name type flags).discard.varNames trivial
  | referTo className signature =>
    exact hkeep (keeps_referTo className signature).discard.varNames trivial
  | startAt m => exact hkeep (keeps_edit fun _ => rfl) trivial
  | appendStmt m stmt => exact hkeep (keeps_appendStmt m stmt).discard trivial
  | declareLocal i name type =>
    obtain ⟨v, hv⟩ := exists_of_exec_discard hx
    obtain ⟨hfresh, hnames⟩ := varNames_declareLocal h.ready.counted hhold ha hv
    have hlocal (m : MethodId) :
        (d'.program.varNames m).Nodup ↔ (d.program.varNames m).Nodup := by
      rw [hnames]
      split
      · next him =>
        rw [him] at hfresh
        rw [← List.concat_eq_append, List.nodup_concat]
        exact and_iff_right hfresh
      · rfl
    exact (forall_congr' hlocal).trans (and_iff_left trivial).symm
  | declareMethod c g flags names =>
    obtain ⟨i, hi⟩ := exists_of_exec_discard hx
    have hnames := varNames_declareMethod h.ready.counted hhold hi
    have hnone : (d.program.varNames d.program.methods.nextId).Nodup := by
      rw [varNames, methodDecl, Table.get_of_not_holds Table.not_holds_nextId]
      exact List.nodup_nil
    constructor
    · intro hall
      refine ⟨fun m => ?_, ?_⟩
      · by_cases hm : d.program.methods.nextId = m
        · exact hm ▸ hnone
        · have hold := hall m
          rw [hnames, if_neg hm] at hold
          exact hold
      · have hnew := hall d.program.methods.nextId
        rw [hnames, if_pos rfl] at hnew
        exact hnew
    · intro hall m
      rw [hnames]
      split
      · exact hall.2
      · exact hall.1 m

/-- All calls of the list are made with known identifiers, and succeed. -/
def succeeds (d : Draft) : List Action → Bool
  | [] => true
  | a :: as => a.Known d.program && (exec a.run d).1.isOk && succeeds (exec a.run d).2 as

theorem nodup_varNames_runAll (h : Built d) {as : List Action} (hs : d.succeeds as) :
    (∀ m, ((d.runAll as).program.varNames m).Nodup) ↔
      (∀ m, (d.program.varNames m).Nodup) ∧ ∀ a ∈ as, a.Distinct := by
  induction as generalizing d with
  | nil => simp [runAll]
  | cons a as ih =>
    rw [succeeds, Bool.and_eq_true, Bool.and_eq_true, decide_eq_true_eq] at hs
    obtain ⟨⟨ha, hok⟩, hs⟩ := hs
    have hx : exec a.run d = (.ok (), (exec a.run d).2) := by
      cases hr : (exec a.run d).1 with
      | error e =>
        rw [hr] at hok
        cases hok
      | ok u => exact Prod.ext hr rfl
    rw [runAll, if_pos ha, ih (h.act a ha) hs, nodup_varNames_step h ha hx, and_assoc,
      List.forall_mem_cons]

/-- Completing a draft leaves the methods and their variables alone. -/
theorem bodies_complete (h : d.program.Registered) {p : Program}
    (hx : exec complete d = (.ok p, d')) : p.bodies = d.program.bodies := by
  obtain ⟨root, -, hok⟩ := exec_complete d h
  rw [hx] at hok
  have hp : p = (d.program.mention rootClassName).rooted root := Except.ok.inj hok
  have hrooted := congrArg bodies (adopted_rooted (h.mention rootClassName) root).rest
  have hmention : (d.program.mention rootClassName).bodies = d.program.bodies := by
    cases hf : d.program.findClass? rootClassName with
    | some c => rw [mention_of_some hf]
    | none =>
      rw [mention_of_none hf]
      rfl
  rw [hp]
  exact hrooted.trans hmention

/-- After calls that all succeed, and in the completed program, variables can be found by their
names exactly if each method was declared with different names. -/
theorem unambiguous_iff_distinct {as : List Action} (h : succeeds {} as) {p : Program}
    (hp : p = (runAll {} as).program ∨ ∃ d', exec complete (runAll {} as) = (.ok p, d')) :
    ((∀ m, p.Unambiguous m) ↔ ∀ a ∈ as, a.Distinct) ∧
      (∀ m, p.Unambiguous m → ∀ v ∈ (p.methodDecl m).vars,
        p.findVar? m (p.varDecl v).name = some v) ∧
      ∀ c g flags, (Action.declareMethod c g flags []).Distinct := by
  have hbuilt : Built (runAll {} as) := Built.empty.runAll as
  have hboth : p.Represented ∧ p.varNames = (runAll {} as).program.varNames := by
    rcases hp with rfl | ⟨d', hx⟩
    · exact ⟨hbuilt.edits.represented, rfl⟩
    · obtain ⟨hedits, -⟩ := complete_edits hbuilt.ready hx
      have hregistered := hbuilt.edits.invariant (fun _ _ he => he.registered) registered_empty
      exact ⟨(hbuilt.edits.trans hedits).represented,
        varNames_congr (bodies_complete hregistered hx)⟩
  have hempty : ∀ m, (varNames {} m).Nodup := fun _ => List.nodup_nil
  refine ⟨?_, fun m hm v hv => hm.findVar?_eq hv, distinct_of_unnamed⟩
  calc
    (∀ m, p.Unambiguous m) ↔ ∀ m, (p.varNames m).Nodup :=
      forall_congr' fun _ => hboth.1.unambiguous_iff
    _ ↔ (∀ m, (varNames {} m).Nodup) ∧ ∀ a ∈ as, a.Distinct := by
      rw [hboth.2]
      exact nodup_varNames_runAll .empty h
    _ ↔ ∀ a ∈ as, a.Distinct := and_iff_right hempty

/-- A method with named parameters and a local variable, and one with a parameter that is not
named. -/
def clearCalls : List Action :=
  let int : Ty := .prim .int
  [.defineClass "A" .none,
    .declareMethod ⟨0⟩ ⟨"f", [int, int], .void⟩ .none ["a", "b"],
    .declareLocal ⟨0⟩ "p0" int,
    .declareMethod ⟨0⟩ ⟨"g", [int], .void⟩ .none []]

theorem unambiguous_iff_distinct_clear :
    let p := (runAll {} clearCalls).program
    succeeds {} clearCalls ∧ (∀ m, p.Unambiguous m) ∧ p.varNames ⟨0⟩ = ["this", "a", "b", "p0"] ∧
      p.findVar? ⟨0⟩ "p0" = some ⟨3⟩ := by
  have hs : succeeds {} clearCalls := by decide +kernel
  obtain ⟨hiff, hfind, hunnamed⟩ := unambiguous_iff_distinct hs (.inl rfl)
  have hall : ∀ a ∈ clearCalls, a.Distinct := by
    simp only [clearCalls, List.forall_mem_cons]
    exact ⟨trivial, by unfold Action.Distinct; decide +kernel, trivial, hunnamed _ _ _, nofun⟩
  have hclear := hiff.mpr hall
  have hlocal := hfind ⟨0⟩ (hclear ⟨0⟩) ⟨3⟩ (by decide +kernel)
  have hname : ((runAll {} clearCalls).program.varDecl ⟨3⟩).name = "p0" := by decide +kernel
  rw [hname] at hlocal
  exact ⟨hs, hclear, by decide +kernel, hlocal⟩

/-- Two parameters of one name, and a parameter with the name of the receiver. -/
def clashingCalls : List Action :=
  let int : Ty := .prim .int
  [.defineClass "A" .none,
    .declareMethod ⟨0⟩ ⟨"f", [int, int], .void⟩ MethodFlags.isStatic ["a", "a"],
    .declareMethod ⟨0⟩ ⟨"g", [int], .void⟩ .none ["this"]]

/-- Names that are given twice are accepted, and only the first variable is found. -/
theorem ambiguous_clashing :
    let p := (runAll {} clashingCalls).program
    succeeds {} clashingCalls ∧ ¬p.Unambiguous ⟨0⟩ ∧ ¬p.Unambiguous ⟨1⟩ ∧
      p.varNames ⟨0⟩ = ["a", "a"] ∧ p.varNames ⟨1⟩ = ["this", "this"] ∧
      p.findVar? ⟨0⟩ "a" = some ⟨0⟩ ∧ p.findVar? ⟨1⟩ "this" = some ⟨2⟩ := by
  have hfirst : ¬(runAll {} clashingCalls).program.Unambiguous ⟨0⟩ := by
    intro h
    have heq := h ⟨0⟩ (by decide +kernel) ⟨1⟩ (by decide +kernel) (by decide +kernel)
    cases heq
  have hsecond : ¬(runAll {} clashingCalls).program.Unambiguous ⟨1⟩ := by
    intro h
    have heq := h ⟨2⟩ (by decide +kernel) ⟨3⟩ (by decide +kernel) (by decide +kernel)
    cases heq
  exact ⟨by decide +kernel, hfirst, hsecond, by decide +kernel, by decide +kernel,
    by decide +kernel, by decide +kernel⟩

end Draft

end PointsTo
