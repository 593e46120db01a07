import Mathlib.Logic.Equiv.Defs
import PointsTo.Proofs.Frames
import PointsTo.Proofs.Twins

namespace PointsTo

namespace Program

variable {b p q : Program}

/-- The program before its hierarchy is completed: the entry method is set and the root class is
known. -/
def prepared (p : Program) (start : Option MethodId) : Program :=
  ({ p with entry := start } : Program).mention rootClassName

theorem prepared_eq (p : Program) (start : Option MethodId) : p.prepared start =
    { p with
      counters.classes := (p.prepared start).counters.classes
      classes := (p.prepared start).classes, classIds := (p.prepared start).classIds
      hierarchy := (p.prepared start).hierarchy, entry := start } :=
  mention_eq _ rootClassName

theorem Registered.setEntry (h : p.Registered) (start : Option MethodId) :
    ({ p with entry := start } : Program).Registered :=
  h.congr { h.counted with } rfl rfl rfl (fun _ => ⟨rfl, rfl⟩) fun _ hl => .inl hl

theorem Grown.prepared (h : Grown b p) (start : Option MethodId) : Grown b (p.prepared start) := by
  have hentry : Grown b { p with entry := start } :=
    { h with registered := h.registered.setEntry start }
  exact hentry.mention rootClassName

theorem isSome_findClass?_prepared (start : Option MethodId) (name : String) :
    ((p.prepared start).findClass? name).isSome ↔
      (p.findClass? name).isSome ∨ name = rootClassName :=
  isSome_findClass?_mention _ rootClassName name

theorem findClass?_prepared {name : String} {c : ClassId} (h : p.findClass? name = some c)
    (start : Option MethodId) : (p.prepared start).findClass? name = some c :=
  findClass?_mention_of_some (p := { p with entry := start }) h rootClassName

/-- `q` is `p` with an entry method and a completed hierarchy. -/
structure Completes (start : Option MethodId) (p q : Program) : Prop where
  fields : q.fields = p.fields
  methods : q.methods = p.methods
  vars : q.vars = p.vars
  stmts : q.stmts = p.stmts
  places : q.places = p.places
  entry : q.entry = start

theorem Grown.completes (h : Grown b p) (start : Option MethodId) (root : ClassId) :
    Completes start p ((p.prepared start).rooted root) := by
  have hrest := (adopted_rooted (h.prepared start).registered root).rest
  have hprepared := p.prepared_eq start
  constructor
  all_goals rw [hrest, hprepared]

/-- The class of the same name is the same one when the hierarchies are completed. -/
theorem counterpart_rooted (hp : p.Registered) (hq : q.Registered) (root root' : ClassId) :
    (p.rooted root).counterpart (q.rooted root') = p.counterpart q := by
  funext c
  have hname : ((p.rooted root).classDecl c).name = (p.classDecl c).name := by
    rw [(adopted_rooted hp root).classDecl]
    split <;> rfl
  rw [counterpart, counterpart, hname, findClass?_rooted hq]

theorem Grown.findMethod?_eq (h : Grown b p) (hb : b.Registered) (className : String)
    (g : Signature) : p.findMethod? className g = b.findMethod? className g := by
  rw [findMethod?, findMethod?]
  rcases h.findClass?_cases hb className with ⟨c, hc, hfb, hfp⟩ | ⟨hfb, hfp⟩
  · rw [hfb, hfp]
    simp only [Option.bind_eq_bind, Option.bind_some, h.classDecl_eq hc]
  · rw [hfb]
    simp only [Option.bind_eq_bind, Option.bind_none, Option.bind_eq_none_iff]
    intro c hc
    rw [ClassDecl.declaredMethod?, (h.blank (hfp c hc)).declared]
    rfl

end Program

namespace Description

open Draft

variable {b p q : Program} {d : Draft}

/-- The method that an entry names. -/
def Entry.method? (e : Entry) (p : Program) : Option MethodId := do
  let g ← Signature.parse? e.method
  p.findMethod? e.cls g

/-- Where the loaded program starts, if there is such a method. -/
def start? (entry : Option Entry) (p : Program) : Option (Option MethodId) :=
  match entry with
  | some e => (e.method? p).map some
  | none => some p.entry

theorem yields_entry (entry : Option Entry) :
    Yields (entry.forM Entry.resolve) (start? entry d.program)
      (fun start _ d' => d'.program = { d.program with entry := start }) d := by
  cases entry with
  | none =>
    refine ⟨fun h => ⟨(), d, rfl, ?_⟩, nofun⟩
    rw [← Option.some.inj h]
  | some e =>
    have hfound : start? (some e) d.program = (do
        let g ← (Signature.parse e.method).toOption
        (d.program.findMethod? e.cls g).map some) := by
      rw [Signature.toOption_parse]
      exact Option.map_bind
    rw [hfound]
    refine (finds_lift _).bind_yields fun g _ => ⟨fun h => ?_, fun h => ?_⟩
    · obtain ⟨m, hm, rfl⟩ := Option.map_eq_some_iff.mp h
      refine ⟨(), { d with program := { d.program with entry := some m } }, ?_, rfl⟩
      rw [exec_bind, exec_getProgram]
      simp only [hm]
      rfl
    · have hm := Option.map_eq_none_iff.mp h
      rw [exec_bind, exec_getProgram]
      simp only [hm]
      exact ⟨_, _, rfl⟩

/-- Where a program starts does not depend on its statements. -/
theorem Filled.start?_eq {stmts : List (MethodId × Stmt)} (h : Filled b stmts p)
    (hreg : b.Registered) (entry : Option Entry) : start? entry p = start? entry b := by
  cases entry with
  | none => exact congrArg some h.entry
  | some e => simp only [start?, Entry.method?, h.grown.findMethod?_eq hreg]

/-- The last pass and what follows it, from the draft in which all is declared. -/
def finish (stmts : List (MethodId × Stmt)) (entry : Option Entry) : Build Program := do
  stmts.forM fun a => a.2.addTo a.1
  entry.forM Entry.resolve
  complete

section Finish

variable {stmts : List (MethodId × Stmt)} {entry : Option Entry} {start : Option MethodId}
  (hwf : d.program.WellFormed) (hreg : d.program.Registered) (hempty : d.program.stmts.size = 0)
include hwf hreg hempty

/-- If all statements can be read and the entry method is there then a program is loaded. -/
theorem exec_finish (hstmts : ∀ a ∈ stmts, a.2.Accepts d.program a.1)
    (hstart : start? entry d.program = some start) : ∃ p root,
    Filled d.program stmts p ∧ (p.prepared start).findClass? rootClassName = some root ∧
      (exec (finish stmts entry) d).1 = .ok ((p.prepared start).rooted root) := by
  obtain ⟨d₁, hfill, hfilled⟩ := (filled_nil hreg hempty).exec_addAll hwf hreg hstmts
  rw [List.nil_append] at hfilled
  have hsame := hfilled.start?_eq hreg entry
  obtain ⟨u, d₂, hentry, hp⟩ := (yields_entry (d := d₁) entry).some (hsame.trans hstart)
  have hregistered : d₂.program.Registered := by
    rw [hp]
    exact hfilled.grown.registered.setEntry start
  obtain ⟨root, hroot, hcomplete⟩ := exec_complete d₂ hregistered
  rw [hp] at hroot hcomplete
  refine ⟨d₁.program, root, hfilled, hroot, ?_⟩
  rw [finish, exec_bind, hfill]
  simp only [exec_bind, hentry]
  exact hcomplete

theorem exec_finish_error
    (h : ¬((∀ a ∈ stmts, a.2.Accepts d.program a.1) ∧ (start? entry d.program).isSome)) :
    ∃ e, (exec (finish stmts entry) d).1 = .error e := by
  by_cases hstmts : ∀ a ∈ stmts, a.2.Accepts d.program a.1
  · obtain ⟨d₁, hfill, hfilled⟩ := (filled_nil hreg hempty).exec_addAll hwf hreg hstmts
    rw [List.nil_append] at hfilled
    have hsame := hfilled.start?_eq hreg entry
    have hnone : start? entry d.program = none := by
      rw [← Option.not_isSome_iff_eq_none]
      exact fun hsome => h ⟨hstmts, hsome⟩
    obtain ⟨e, d₂, hentry⟩ := (yields_entry (d := d₁) entry).none (hsame.trans hnone)
    refine ⟨e, ?_⟩
    rw [finish, exec_bind, hfill]
    simp only [exec_bind, hentry]
  · obtain ⟨e, d₁, hfill⟩ := (filled_nil hreg hempty).exec_addAll_error hwf hreg hstmts
    exact ⟨e, by rw [finish, exec_bind, hfill]⟩

/-- A program is loaded just if all statements can be read and the entry method is there. -/
theorem exec_finish_iff : (∃ p, (exec (finish stmts entry) d).1 = .ok p) ↔
    (∀ a ∈ stmts, a.2.Accepts d.program a.1) ∧ (start? entry d.program).isSome := by
  constructor
  · intro hok
    obtain ⟨p, hp⟩ := hok
    by_contra hnot
    obtain ⟨e, he⟩ := exec_finish_error hwf hreg hempty hnot
    cases hp.symm.trans he
  · intro hall
    obtain ⟨hstmts, hentry⟩ := hall
    obtain ⟨start, hstart⟩ := Option.isSome_iff_exists.mp hentry
    obtain ⟨p, root, -, -, hbuild⟩ := exec_finish hwf hreg hempty hstmts hstart
    exact ⟨_, hbuild⟩

end Finish

section Renamed

variable {stmts stmts' : List (MethodId × Stmt)} {start : Option MethodId} {root root' : ClassId}
  {move : Equiv.Perm Nat} {s : StmtId}

theorem mem_iff_of_move (hmove : ∀ i, stmts'[move i]? = stmts[i]?) (a : MethodId × Stmt) :
    a ∈ stmts' ↔ a ∈ stmts := by
  simp only [List.mem_iff_getElem?]
  constructor
  · intro ha
    obtain ⟨i, hi⟩ := ha
    refine ⟨move.symm i, ?_⟩
    rw [← hmove, Equiv.apply_symm_apply]
    exact hi
  · intro ha
    obtain ⟨i, hi⟩ := ha
    exact ⟨move i, (hmove i).trans hi⟩

/-- A statement of the loaded program is one that is listed, and it is read with the classes of the
loaded program. -/
theorem Filled.placed (h : Filled b stmts p) (start : Option MethodId) (root : ClassId)
    (hs : ((p.prepared start).rooted root).stmts.Holds s) :
    ∃ m st, stmts[s.index]? = some (m, st) ∧
      ((p.prepared start).rooted root).container s = m ∧
      st.read? b m (p.prepared start).findClass? =
        some (((p.prepared start).rooted root).stmt s) := by
  have hstmts := (h.grown.completes start root).stmts
  have hlt : s.index < stmts.length := by
    rw [Table.Holds, hstmts, h.size] at hs
    exact hs
  have hi : stmts[s.index]? = some stmts[s.index] := List.getElem?_eq_getElem hlt
  obtain ⟨hm, hread⟩ := h.stmt hi
  refine ⟨stmts[s.index].1, stmts[s.index].2, hi, ?_, ?_⟩
  · rw [Program.container, (h.grown.completes start root).places]
    exact hm
  · rw [Program.stmt, hstmts, Stmt.read?_congr (g := p.findClass?)]
    · exact hread
    · intro n hn
      obtain ⟨c, hc⟩ := Option.isSome_iff_exists.mp
        (h.isSome_of_mentioned? (List.getElem_mem hlt) hn)
      rw [hc, Program.findClass?_prepared hc]

theorem Filled.target_holds (h : Filled b stmts p) (start : Option MethodId) (root : ClassId)
    {call : Call} (hst : ((p.prepared start).rooted root).stmt s = .invoke call) :
    ((p.prepared start).rooted root).classes.Holds call.target.cls := by
  have hs : ((p.prepared start).rooted root).stmts.Holds s :=
    Program.holds_of_stmt_ne (by simp [hst])
  obtain ⟨m, st, -, -, hread⟩ := h.placed start root hs
  rw [hst] at hread
  obtain ⟨name, hname⟩ := Stmt.exists_of_read?_invoke hread
  have hreg := (h.grown.prepared start).registered
  exact (Program.holds_rooted hreg).mpr (hreg.name.mp hname).1

theorem Filled.outline_eq (h : Filled b stmts p) (start : Option MethodId) (root : ClassId)
    (m : MethodId) : (((p.prepared start).rooted root).methodDecl m).outline =
      (b.methodDecl m).outline := by
  rw [Program.methodDecl, (h.grown.completes start root).methods]
  exact h.grown.method m

variable (h : Filled b stmts p) (h' : Filled b stmts' q)
include h h'

theorem moved_this (m : MethodId) : (((q.prepared start).rooted root').methodDecl m).this =
    (((p.prepared start).rooted root).methodDecl m).this := by
  have houtline := (h'.outline_eq start root' m).trans (h.outline_eq start root m).symm
  simpa only [MethodDecl.outline_this] using congrArg MethodDecl.this houtline

theorem moved_params (m : MethodId) : (((q.prepared start).rooted root').methodDecl m).params =
    (((p.prepared start).rooted root).methodDecl m).params := by
  have houtline := (h'.outline_eq start root' m).trans (h.outline_eq start root m).symm
  simpa only [MethodDecl.outline_params] using congrArg MethodDecl.params houtline

variable (hwf : b.WellFormed) (hreg : b.Registered) (hmove : ∀ i, stmts'[move i]? = stmts[i]?)
include hwf hreg hmove

theorem twins_prepared (start : Option MethodId) :
    b.Twins (p.prepared start) (q.prepared start) := by
  refine { wellFormed := hwf, registered := hreg, left := h.grown.prepared start
           right := h'.grown.prepared start, known := fun name => ?_ }
  simp only [Program.isSome_findClass?_prepared, h.known, h'.known, mem_iff_of_move hmove]

/-- A statement keeps its method when it is moved, and names the counterpart of its class. -/
theorem moved_stmt (hs : ((p.prepared start).rooted root).stmts.Holds s) :
    ((q.prepared start).rooted root').stmts.Holds ⟨move s.index⟩ ∧
    ((q.prepared start).rooted root').container ⟨move s.index⟩ =
      ((p.prepared start).rooted root).container s ∧
    ((q.prepared start).rooted root').stmt ⟨move s.index⟩ =
      (((p.prepared start).rooted root).stmt s).mapClass
        ((p.prepared start).counterpart (q.prepared start)) := by
  have htwins := twins_prepared h h' hwf hreg hmove start
  obtain ⟨m, st, hi, hm, hread⟩ := h.placed start root hs
  have hi' : stmts'[move s.index]? = some (m, st) := (hmove s.index).trans hi
  have hs' : ((q.prepared start).rooted root').stmts.Holds ⟨move s.index⟩ := by
    rw [Table.Holds, (h'.grown.completes start root').stmts, h'.size]
    exact (List.getElem?_eq_some_iff.mp hi').1
  obtain ⟨m', st', hi'', hm', hread'⟩ := h'.placed start root' hs'
  obtain ⟨rfl, rfl⟩ := Prod.mk.inj (Option.some.inj (hi'.symm.trans hi''))
  refine ⟨hs', by rw [hm, hm'], ?_⟩
  have hclass : ∀ n ∈ st.mentioned?, (q.prepared start).findClass? n =
      ((p.prepared start).findClass? n).map
        ((p.prepared start).counterpart (q.prepared start)) := by
    intro n hn
    obtain ⟨c, hc⟩ := Option.isSome_iff_exists.mp
      (h.isSome_of_mentioned? (List.mem_of_getElem? hi) hn)
    have hp := Program.findClass?_prepared hc start
    rw [hp, Option.map_some]
    exact htwins.findClass? hp
  rw [Stmt.read?_congr hclass, Stmt.read?_map, hread, Option.map_some] at hread'
  exact (Option.some.inj hread').symm

theorem moved_owner {m : MethodId} (hm : ((p.prepared start).rooted root).methods.Holds m) :
    (((q.prepared start).rooted root').methodDecl m).cls =
      (p.prepared start).counterpart (q.prepared start)
        (((p.prepared start).rooted root).methodDecl m).cls := by
  have hcls := congrArg MethodDecl.cls (h.outline_eq start root m)
  have hcls' := congrArg MethodDecl.cls (h'.outline_eq start root' m)
  simp only [MethodDecl.outline_cls] at hcls hcls'
  have hb : b.methods.Holds m := by
    rw [Table.Holds, (h.grown.completes start root).methods, h.grown.methods] at hm
    exact hm
  rw [hcls, hcls', (twins_prepared h h' hwf hreg hmove start).counterpart_eq (hwf.owner hb)]

theorem moved_findClass? {name : String} {c : ClassId}
    (hc : ((p.prepared start).rooted root).findClass? name = some c) :
    ((q.prepared start).rooted root').findClass? name =
      some ((p.prepared start).counterpart (q.prepared start) c) := by
  have hleft := (Program.adopted_rooted (h.grown.prepared start).registered root).rest
  have hright := (Program.adopted_rooted (h'.grown.prepared start).registered root').rest
  rw [hleft] at hc
  rw [hright]
  exact (twins_prepared h h' hwf hreg hmove start).findClass? hc

theorem moved_dispatch (hroot : (p.prepared start).findClass? rootClassName = some root)
    (hroot' : (q.prepared start).findClass? rootClassName = some root') {c : ClassId}
    (hc : ((p.prepared start).rooted root).classes.Holds c) (g : Signature) :
    ((q.prepared start).rooted root').dispatch
        ((p.prepared start).counterpart (q.prepared start) c) g =
      ((p.prepared start).rooted root).dispatch c g := by
  have htwins := twins_prepared h h' hwf hreg hmove start
  rw [Program.holds_rooted htwins.left.registered] at hc
  exact htwins.dispatch_rooted hroot hroot' hc g

/-- From a program to the one with its statements moved. -/
def moving (hroot : (p.prepared start).findClass? rootClassName = some root)
    (hroot' : (q.prepared start).findClass? rootClassName = some root') :
    ((p.prepared start).rooted root).Renaming ((q.prepared start).rooted root') where
  cls := (p.prepared start).counterpart (q.prepared start)
  site s := ⟨move s.index⟩
  entry := (h'.grown.completes start root').entry.trans (h.grown.completes start root).entry.symm
  holds hs := (moved_stmt h h' hwf hreg hmove hs).1
  container hs := (moved_stmt h h' hwf hreg hmove hs).2.1
  stmt hs := (moved_stmt h h' hwf hreg hmove hs).2.2
  target hst := h.target_holds start root hst
  findClass? hc := moved_findClass? h h' hwf hreg hmove hc
  dispatch hc g := moved_dispatch h h' hwf hreg hmove hroot hroot' hc g
  owner hm := moved_owner h h' hwf hreg hmove hm
  this := moved_this h h'
  params := moved_params h h'

end Renamed

/-- The programs that are loaded from the same declarations and from two lists of statements, where
`move` says at which place of the second list a statement of the first one stands. -/
inductive Moved (move : Equiv.Perm Nat) : Program → Program → Prop
  | intro {b p q : Program} {stmts stmts' : List (MethodId × Stmt)} {start : Option MethodId}
      {root root' : ClassId} (hwf : b.WellFormed) (hreg : b.Registered) (h : Filled b stmts p)
      (h' : Filled b stmts' q) (hmove : ∀ i, stmts'[move i]? = stmts[i]?)
      (hroot : (p.prepared start).findClass? rootClassName = some root)
      (hroot' : (q.prepared start).findClass? rootClassName = some root') :
      Moved move ((p.prepared start).rooted root) ((q.prepared start).rooted root')

namespace Moved

variable {move : Equiv.Perm Nat}

theorem symm (h : Moved move p q) : Moved move.symm q p := by
  obtain ⟨hwf, hreg, h, h', hmove, hroot, hroot'⟩ := h
  refine .intro hwf hreg h' h (fun i => ?_) hroot' hroot
  rw [← hmove, Equiv.apply_symm_apply]

theorem exists_renaming (h : Moved move p q) :
    ∃ ρ : p.Renaming q, (ρ.site = fun s => ⟨move s.index⟩) ∧ ρ.cls = p.counterpart q := by
  obtain ⟨hwf, hreg, h, h', hmove, hroot, hroot'⟩ := h
  refine ⟨moving h h' hwf hreg hmove hroot hroot', rfl, ?_⟩
  rw [Program.counterpart_rooted (h.grown.prepared _).registered (h'.grown.prepared _).registered]
  rfl

/-- The declarations do not depend on the order of the statements. -/
theorem declarations (h : Moved move p q) : q.fields = p.fields ∧
    q.methods.size = p.methods.size ∧ q.vars.size = p.vars.size ∧
    (∀ m, (q.methodDecl m).outline = (p.methodDecl m).outline) ∧
    ∀ v, (q.varDecl v).outline = (p.varDecl v).outline := by
  obtain ⟨-, -, h, h', -, -, -⟩ := h
  rename_i b p q stmts stmts' start root root'
  have hp := h.grown.completes start root
  have hq := h'.grown.completes start root'
  refine ⟨?_, ?_, ?_, fun m => ?_, fun v => ?_⟩
  · rw [hp.fields, hq.fields, h.grown.fields, h'.grown.fields]
  · rw [hp.methods, hq.methods, h.grown.methods, h'.grown.methods]
  · rw [hp.vars, hq.vars, h.grown.vars, h'.grown.vars]
  · rw [h.outline_eq start root m, h'.outline_eq start root' m]
  · rw [Program.varDecl, Program.varDecl, hp.vars, hq.vars]
    exact (h'.grown.var v).trans (h.grown.var v).symm

end Moved

end Description

end PointsTo
