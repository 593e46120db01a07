import PointsTo.Proofs.Construction

namespace PointsTo

/-- The methods of a program with all that is in their bodies. -/
def Program.bodies (p : Program) :
    Table .method MethodDecl × Table .var VarDecl × Table .stmt Stmt × Table .stmt Place :=
  (p.methods, p.vars, p.stmts, p.places)

namespace Draft

variable {α β γ : Type} {f : Program → γ}

/-- A step that leaves a part of the program alone, whether it succeeds or fails. -/
def Keeps (f : Program → γ) (x : Build α) : Prop := ∀ d, f (exec x d).2.program = f d.program

theorem Keeps.stmts {x : Build α} (hx : Keeps Program.bodies x) : Keeps Program.stmts x := by
  intro d
  exact congrArg (·.2.2.1) (hx d)

theorem keeps_pure (a : α) : Keeps f (pure a) := fun _ => rfl

theorem keeps_getProgram : Keeps f getProgram := fun _ => rfl

theorem keeps_lift (x : Except ProgramError α) : Keeps f (liftM x : Build α) := by
  intro d
  cases x <;> rfl

theorem Keeps.bind {x : Build α} {k : α → Build β} (hx : Keeps f x) (hk : ∀ a, Keeps f (k a)) :
    Keeps f (x >>= k) := by
  intro d
  have hfirst := hx d
  rw [exec_bind]
  rcases h : exec x d with ⟨e | a, d'⟩ <;> rw [h] at hfirst
  · exact hfirst
  · exact (hk a d').trans hfirst

theorem Keeps.discard {x : Build α} (hx : Keeps f x) : Keeps f (discard x) := by
  intro d
  rw [exec_discard_snd]
  exact hx d

theorem keeps_forM {k : α → Build PUnit} (hk : ∀ a, Keeps f (k a)) (l : List α) :
    Keeps f (l.forM k) := by
  induction l with
  | nil => exact keeps_pure _
  | cons a l ih => exact (hk a).bind fun _ => ih

theorem keeps_mapM {k : α → Build β} (hk : ∀ a, Keeps f (k a)) (l : List α) :
    Keeps f (l.mapM k) := by
  induction l with
  | nil => exact keeps_pure _
  | cons a l ih =>
    rw [List.mapM_cons]
    exact (hk a).bind fun _ => ih.bind fun _ => keeps_pure _

theorem keeps_edit {g : Program → Program} (hg : ∀ p, f (g p) = f p) : Keeps f (edit g) :=
  fun d => hg d.program

theorem keeps_addClass (c : ClassDecl) : Keeps Program.bodies (addClass c) := by
  intro d
  rw [exec_addClass_snd]
  rfl

theorem keeps_addLink (sub sup : ClassId) (kind : Inheritance) :
    Keeps Program.bodies (addLink sub sup kind) := by
  intro d
  rw [addLink, exec_bind, exec_getProgram]
  dsimp only
  split <;> rfl

/-- A class that is mentioned is one that is added, or nothing happens. -/
theorem keeps_mentionClass_of (hadd : ∀ id name, Keeps f (addClass { id, name, defined := false }))
    (name : String) : Keeps f (mentionClass name) := by
  intro d
  rw [mentionClass, exec_bind, exec_getProgram]
  dsimp only
  cases d.program.findClass? name with
  | some c => rfl
  | none =>
    rw [exec_bind, exec_report]
    exact hadd _ _ _

/-- A class that is defined is added, or it gets its flags. -/
theorem keeps_defineClass_of (hadd : ∀ id name flags, Keeps f (addClass { id, name, flags }))
    (hflags : ∀ p c flags,
      f (Program.modifyClass p c fun d => { d with flags, defined := true }) = f p)
    (name : String) (flags : ClassFlags) : Keeps f (defineClass name flags) := by
  intro d
  rw [defineClass, exec_bind]
  simp only [exec_report, exec_bind, exec_getProgram]
  cases d.program.findClass? name with
  | none => exact hadd _ _ _ _
  | some c =>
    dsimp only
    split
    · rfl
    · exact hflags d.program c flags

theorem keeps_declareField_of (hpush : ∀ p decl, f (Program.pushField p decl) = f p) (c : ClassId)
    (name : String) (type : Ty) (flags : FieldFlags) :
    Keeps f (declareField c name type flags) := by
  intro d
  rw [declareField, exec_bind]
  simp only [exec_getProgram]
  split
  · rfl
  · exact hpush d.program _

theorem keeps_declareLocal_of (hpush : ∀ p m name type, f (Program.pushVar p m name type) = f p)
    (m : MethodId) (name : String) (type : Ty) : Keeps f (declareLocal m name type) := by
  intro d
  rw [declareLocal, exec_bind]
  simp only [exec_getProgram]
  split
  · rfl
  · exact hpush d.program m name type

theorem foldl_keeps {g : Program → α → Program} (hg : ∀ p a, f (g p a) = f p) (l : List α)
    (p : Program) : f (l.foldl g p) = f p := by
  induction l generalizing p with
  | nil => rfl
  | cons a l ih => exact (ih (g p a)).trans (hg p a)

/-- A method is added first, and then its receiver and its parameters. -/
theorem keeps_declareMethod_of (hpush : ∀ p decl, f (Program.pushMethod p decl) = f p)
    (hthis : ∀ p m className, f (Program.pushThis p m className) = f p)
    (hparam : ∀ p m name type, f (Program.pushParam p m name type) = f p) (c : ClassId)
    (g : Signature) (flags : MethodFlags) (names : List String) :
    Keeps f (declareMethod c g flags names) := by
  intro d
  rw [declareMethod, exec_bind]
  simp only [exec_getProgram]
  split
  · rfl
  split
  · rfl
  simp only [exec_bind, exec_edit]
  refine (foldl_keeps (fun p param => hparam p _ _ _) _ _).trans ?_
  split
  · exact hpush d.program _
  · exact (hthis _ _ _).trans (hpush d.program _)

/-- The class that a statement allocates is mentioned before the statement is added. -/
theorem keeps_appendStmt_of {m : MethodId} {stmt : Stmt}
    (hmention : ∀ name, Keeps f (mentionClass name))
    (hpush : ∀ p, f (Program.pushStmt p m stmt) = f p) : Keeps f (appendStmt m stmt) := by
  have hedit : Keeps f (edit (·.pushStmt m stmt)) := keeps_edit hpush
  intro d
  rw [appendStmt, exec_bind, exec_getProgram]
  dsimp only
  cases d.program.checkStmt m stmt with
  | error e => rfl
  | ok u =>
    by_cases hnew : ∃ x name, stmt = .new x (.ref name)
    · obtain ⟨x, name, rfl⟩ := hnew
      refine ((hmention name).bind fun _ => ?_) d
      exact keeps_getProgram.bind fun _ => hedit.bind fun _ => keeps_pure _
    · have hnot (x : VarId) (name : String) : stmt ≠ .new x (.ref name) :=
        fun h => hnew ⟨x, name, h⟩
      simp only
      exact (keeps_getProgram.bind fun _ => hedit.bind fun _ => keeps_pure _) d

theorem keeps_mentionClass (name : String) : Keeps Program.bodies (mentionClass name) :=
  keeps_mentionClass_of (fun _ _ => keeps_addClass _) name

theorem keeps_defineClass (name : String) (flags : ClassFlags) :
    Keeps Program.bodies (defineClass name flags) :=
  keeps_defineClass_of (fun _ _ _ => keeps_addClass _) (fun _ _ _ => rfl) name flags

theorem keeps_extendClass (c : ClassId) (superclass : String) :
    Keeps Program.bodies (extendClass c superclass) := by
  refine (keeps_mentionClass superclass).bind fun sup => ?_
  refine Keeps.bind ?_ fun _ => (keeps_addLink c sup .extends).bind fun _ => ?_
  · exact keeps_edit fun _ => rfl
  · exact keeps_pure sup

theorem keeps_implement (c : ClassId) (interface : String) :
    Keeps Program.bodies (implement c interface) := by
  refine (keeps_mentionClass interface).bind fun sup => ?_
  refine Keeps.bind ?_ fun _ => Keeps.bind ?_ fun p =>
    (keeps_addLink c sup _).bind fun _ => ?_
  · exact keeps_edit fun _ => rfl
  · exact fun _ => rfl
  · exact keeps_pure sup

theorem keeps_declareField (c : ClassId) (name : String) (type : Ty) (flags : FieldFlags) :
    Keeps Program.bodies (declareField c name type flags) :=
  keeps_declareField_of (fun _ _ => rfl) c name type flags

theorem keeps_referTo (className : String) (signature : Signature) :
    Keeps Program.bodies (referTo className signature) :=
  (keeps_mentionClass className).bind fun _ => keeps_pure _

end Draft

end PointsTo
