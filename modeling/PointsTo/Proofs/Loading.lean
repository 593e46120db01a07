import PointsTo.Description.Build
import PointsTo.Proofs.WellFormed

namespace PointsTo

theorem exists_of_toOption {ε α : Type} {x : Except ε α} (h : x.toOption.isSome) :
    ∃ a, x = .ok a := by
  cases x with
  | error e => cases h
  | ok a => exact ⟨a, rfl⟩

theorem exists_of_toOption_map {ε α β : Type} {x : Except ε α} {f : α → β} {b : β}
    (h : x.toOption.map f = some b) : ∃ a, x = .ok a ∧ f a = b := by
  cases x with
  | error e => cases h
  | ok a => exact ⟨a, rfl, Option.some.inj h⟩

namespace Draft

variable {α β : Type} {d : Draft} {x : Build α}

/-- If a step succeeds then it has made calls to the builder, and its result has a property. -/
def Leads (x : Build α) (d : Draft) (Q : α → Program → Prop) : Prop :=
  ∀ a d', exec x d = (.ok a, d') → Built d' ∧ d.program.Within d'.program ∧ Q a d'.program

theorem Leads.mono {Q R : α → Program → Prop} (h : Leads x d Q) (hQ : ∀ a p, Q a p → R a p) :
    Leads x d R := by
  intro a d' hx
  obtain ⟨hb, hw, hq⟩ := h a d' hx
  exact ⟨hb, hw, hQ a _ hq⟩

/-- A sequence of steps succeeds if each of them does. -/
theorem Leads.of_bind {f : α → Build β} {Q : α → Program → Prop} (hx : Leads x d Q) {b : β}
    {d'' : Draft} (h : exec (x >>= f) d = (.ok b, d'')) :
    ∃ a d', Built d' ∧ d.program.Within d'.program ∧ Q a d'.program ∧
      exec (f a) d' = (.ok b, d'') := by
  rw [exec_bind] at h
  rcases hxd : exec x d with ⟨_ | a, d'⟩ <;> rw [hxd] at h
  · cases h
  · obtain ⟨hb, hw, hq⟩ := hx a d' hxd
    exact ⟨a, d', hb, hw, hq, h⟩

theorem Leads.bind {f : α → Build β} {Q : α → Program → Prop} {R : β → Program → Prop}
    (hx : Leads x d Q)
    (hf : ∀ a d', Built d' → d.program.Within d'.program → Q a d'.program → Leads (f a) d' R) :
    Leads (x >>= f) d R := by
  intro b d'' h
  obtain ⟨a, d', hb, hw, hq, h⟩ := hx.of_bind h
  obtain ⟨hb', hw', hr⟩ := hf a d' hb hw hq b d'' h
  exact ⟨hb', hw.trans hw', hr⟩

theorem leads_of_exec (hb : Built d) {Q : α → Program → Prop}
    (h : ∀ a, (exec x d).1 = .ok a → Q a d.program) (hd : (exec x d).2 = d) : Leads x d Q := by
  intro a d' hx
  rw [hx] at hd h
  subst hd
  exact ⟨hb, .refl _, h a rfl⟩

theorem leads_pure (hb : Built d) {Q : α → Program → Prop} {a : α} (hq : Q a d.program) :
    Leads (pure a) d Q :=
  leads_of_exec hb (fun _ h => by cases h; exact hq) rfl

theorem leads_throw {Q : α → Program → Prop} (e : ProgramError) :
    Leads (throw e : Build α) d Q := by
  intro a d' h
  cases h

theorem Leads.forM {f : α → Build PUnit} {l : List α} (hb : Built d)
    (hf : ∀ a ∈ l, ∀ d', Built d' → d.program.Within d'.program →
      Leads (f a) d' fun _ _ => True) : Leads (l.forM f) d fun _ _ => True := by
  induction l generalizing d with
  | nil => exact leads_pure hb trivial
  | cons a l ih =>
    rw [List.forM]
    refine (hf a List.mem_cons_self d hb (.refl _)).bind fun _ d' hb' hw _ => ih hb' ?_
    intro b hbl d'' hb'' hw'
    exact hf b (List.mem_cons_of_mem a hbl) d'' hb'' (hw.trans hw')

/-- A property of results that is not lost when a program grows. -/
theorem Leads.mapM {f : α → Build β} {l : List α} {Q : β → Program → Prop} (hb : Built d)
    (hmono : ∀ b p q, p.Within q → Q b p → Q b q)
    (hf : ∀ a ∈ l, ∀ d', Built d' → d.program.Within d'.program → Leads (f a) d' Q) :
    Leads (l.mapM f) d fun bs p => ∀ b ∈ bs, Q b p := by
  induction l generalizing d with
  | nil => exact leads_pure hb (by simp)
  | cons a l ih =>
    rw [List.mapM_cons]
    refine (hf a List.mem_cons_self d hb (.refl _)).bind fun b d₁ hb₁ hw₁ hq => ?_
    refine (ih hb₁ fun c hc d' hb' hw' =>
      hf c (List.mem_cons_of_mem a hc) d' hb' (hw₁.trans hw')).bind fun bs d₂ hb₂ hw₂ hqs => ?_
    refine leads_pure hb₂ ?_
    intro c hc
    rcases List.mem_cons.mp hc with rfl | hc
    · exact hmono c _ _ hw₂ hq
    · exact hqs c hc

/-- A call to the builder. -/
theorem leads_action {x : Build α} (hb : Built d) (a : Action) (ha : a.Known d.program)
    (hx : (exec a.run d).2 = (exec x d).2) : Leads x d fun _ _ => True := by
  intro r d' h
  have hd : (exec a.run d).2 = d' := hx.trans (by rw [h])
  rw [← hd]
  exact ⟨hb.act a ha, (a.careful hb.ready ha).edits.within, trivial⟩

theorem leads_discard {x : Build α} (hx : Leads x d fun _ _ => True) :
    Leads (discard x) d fun _ _ => True := by
  change Leads ((fun _ => ()) <$> x) d _
  rw [← bind_pure_comp]
  exact hx.bind fun _ _ hb _ _ => leads_pure hb trivial

theorem leads_defineClass (hb : Built d) (name : String) (flags : ClassFlags) :
    Leads (defineClass name flags) d fun c p => p.classes.Holds c := by
  intro c d' h
  obtain ⟨hb', hw, -⟩ := leads_action hb (.defineClass name flags) trivial
    (exec_discard_snd _) c d' h
  refine ⟨hb', hw, ?_⟩
  rcases defineClass_cases hb.ready name flags with ⟨e, d'', hx, -⟩ | ⟨i, d'', hx, -, hi⟩
  · rw [hx] at h
    cases h
  · rw [hx] at h
    cases h
    exact hi

theorem leads_declareMethod (hb : Built d) {c : ClassId} (hc : d.program.classes.Holds c)
    (g : Signature) (flags : MethodFlags) (names : List String) :
    Leads (declareMethod c g flags names) d fun m p => p.methods.Holds m := by
  intro m d' h
  obtain ⟨hb', hw, -⟩ := leads_action hb (.declareMethod c g flags names) hc
    (exec_discard_snd _) m d' h
  refine ⟨hb', hw, ?_⟩
  rcases declareMethod_cases hb.ready c g flags names hc with ⟨e, hx⟩ | ⟨decl, d'', hx, -, hes⟩
  · rw [hx] at h
    cases h
  · rw [hx] at h
    cases h
    exact hes.holds_method (Table.holds_of_get? Table.get?_push_self)

/-- A step that only looks something up. -/
theorem leads_lookup {x : Build α} (hb : Built d) (hd : (exec x d).2 = d) :
    Leads x d fun _ _ => True :=
  leads_of_exec hb (fun _ _ => trivial) hd

theorem leads_lift (hb : Built d) (x : Except ProgramError α) :
    Leads (liftM x : Build α) d fun _ _ => True := by
  refine leads_lookup hb ?_
  cases x <;> rfl

theorem leads_lookupVar (hb : Built d) (m : MethodId) (name : String) :
    Leads (lookupVar m name) d fun _ _ => True := by
  refine leads_lookup hb ?_
  rw [lookupVar, exec_bind, exec_getProgram]
  dsimp only
  split <;> rfl

theorem leads_lookupVars (hb : Built d) (m : MethodId) (names : List String) :
    Leads (names.mapM (lookupVar m)) d fun _ _ => True :=
  (Leads.mapM hb (fun _ _ _ _ h => h) fun name _ _ hb' _ => leads_lookupVar hb' m name).mono
    fun _ _ _ => trivial

theorem leads_lookupVar? (hb : Built d) (m : MethodId) (name : Option String) :
    Leads (name.mapM (lookupVar m)) d fun _ _ => True := by
  cases name with
  | none => exact leads_pure hb trivial
  | some name =>
    change Leads (some <$> lookupVar m name) d _
    rw [← bind_pure_comp]
    exact (leads_lookupVar hb m name).bind fun _ _ hb' _ _ => leads_pure hb' trivial

theorem Built.wellFormed (hb : Built d) : d.program.WellFormed := hb.edits.wellFormed

theorem leads_lookupField (hb : Built d) (className name : String) :
    Leads (lookupField className name) d fun f p => p.fields.Holds f := by
  refine leads_of_exec hb ?_ ?_ <;> rw [lookupField, exec_bind, exec_getProgram] <;> dsimp only
  · intro f h
    split at h
    · next g hg =>
      cases h
      obtain ⟨c, -, hc⟩ := List.exists_of_findSome?_eq_some hg
      exact hb.wellFormed.declaredField (Array.mem_toList_iff.mp (List.mem_of_find?_eq_some hc))
    · cases h
  · split <;> rfl

theorem leads_referTo (hb : Built d) (className : String) (g : Signature) :
    Leads (referTo className g) d fun r p => p.classes.Holds r.cls := by
  intro r d' h
  obtain ⟨hb', hw, -⟩ := leads_action hb (.referTo className g) trivial (exec_discard_snd _) r d' h
  refine ⟨hb', hw, ?_⟩
  obtain ⟨c, d'', hx, hf, -, -, hd''⟩ := mentionClass_cases hb.ready className
  rw [referTo, exec_bind, hx] at h
  cases h
  exact hd''.names _ _ hf

end Draft

namespace Description

open Draft

variable {d : Draft}

theorem leads_readMember (hb : Built d) (reference : String) :
    Leads (readMember reference) d fun _ _ => True := by
  refine leads_lookup hb ?_
  rw [readMember]
  split <;> rfl

theorem leads_fieldOf (hb : Built d) (reference : String) :
    Leads (fieldOf reference) d fun f p => p.fields.Holds f :=
  (leads_readMember hb reference).bind fun r _ hb' _ _ => leads_lookupField hb' r.cls r.member

/-- The fields and classes in a statement are those of the program. -/
def Refers (stmt : PointsTo.Stmt) (p : Program) : Prop :=
  (∀ f ∈ stmt.field?, p.fields.Holds f) ∧ ∀ call ∈ stmt.call?, p.classes.Holds call.target.cls

theorem leads_resolve (hb : Built d) (m : MethodId) (s : Description.Stmt) :
    Leads (s.resolve m) d Refers := by
  cases s with
  | new target type =>
    refine (leads_lookupVar hb m target).bind fun x d₁ hb₁ _ _ => ?_
    refine (leads_lift hb₁ _).bind fun t d₂ hb₂ _ _ => ?_
    exact leads_pure hb₂ ⟨nofun, nofun⟩
  | copy target source =>
    refine (leads_lookupVar hb m target).bind fun x d₁ hb₁ _ _ => ?_
    refine (leads_lookupVar hb₁ m source).bind fun y d₂ hb₂ _ _ => ?_
    exact leads_pure hb₂ ⟨nofun, nofun⟩
  | load target base f =>
    refine (leads_lookupVar hb m target).bind fun x d₁ hb₁ _ _ => ?_
    refine (leads_lookupVar? hb₁ m base).bind fun b d₂ hb₂ _ _ => ?_
    refine (leads_fieldOf hb₂ f).bind fun g d₃ hb₃ _ hg => ?_
    exact leads_pure hb₃ ⟨fun h hh => by cases hh; exact hg, nofun⟩
  | store base f source =>
    refine (leads_lookupVar? hb m base).bind fun b d₁ hb₁ _ _ => ?_
    refine (leads_fieldOf hb₁ f).bind fun g d₂ hb₂ _ hg => ?_
    refine (leads_lookupVar hb₂ m source).bind fun y d₃ hb₃ hw _ => ?_
    exact leads_pure hb₃ ⟨fun h hh => by cases hh; exact Nat.lt_of_lt_of_le hg hw.fields, nofun⟩
  | arrayLoad target array index =>
    refine (leads_lookupVar hb m target).bind fun x d₁ hb₁ _ _ => ?_
    refine (leads_lookupVar hb₁ m array).bind fun a d₂ hb₂ _ _ => ?_
    refine (leads_lookupVar hb₂ m index).bind fun i d₃ hb₃ _ _ => ?_
    exact leads_pure hb₃ ⟨nofun, nofun⟩
  | arrayStore array index source =>
    refine (leads_lookupVar hb m array).bind fun a d₁ hb₁ _ _ => ?_
    refine (leads_lookupVar hb₁ m index).bind fun i d₂ hb₂ _ _ => ?_
    refine (leads_lookupVar hb₂ m source).bind fun y d₃ hb₃ _ _ => ?_
    exact leads_pure hb₃ ⟨nofun, nofun⟩
  | invoke kind method receiver args result =>
    refine (leads_lookupVar? hb m receiver).bind fun b d₁ hb₁ _ _ => ?_
    refine (leads_lookupVars hb₁ m args).bind fun as d₂ hb₂ _ _ => ?_
    refine (leads_lookupVar? hb₂ m result).bind fun x d₃ hb₃ _ _ => ?_
    refine (leads_readMember hb₃ method).bind fun r d₄ hb₄ _ _ => ?_
    refine (leads_lift hb₄ _).bind fun g d₅ hb₅ _ _ => ?_
    refine (leads_referTo hb₅ r.cls g).bind fun target d₆ hb₆ _ ht => ?_
    exact leads_pure hb₆ ⟨nofun, fun call hc => by cases hc; exact ht⟩
  | ret value =>
    refine (leads_lookupVar? hb m value).bind fun v d₁ hb₁ _ _ => ?_
    exact leads_pure hb₁ ⟨nofun, nofun⟩

theorem leads_fill (hb : Built d) {m : MethodId} (hm : d.program.methods.Holds m) (x : Method) :
    Leads (x.fill m) d fun _ _ => True := by
  refine Leads.forM hb fun s _ d' hb' hw => ?_
  refine (leads_resolve hb' m s).bind fun stmt d₁ hb₁ hw₁ hr => leads_discard ?_
  have hm₁ : d₁.program.methods.Holds m := Nat.lt_of_lt_of_le hm (hw.trans hw₁).methods
  exact leads_action hb₁ (.appendStmt m stmt) ⟨hm₁, hr⟩ (exec_discard_snd _)

theorem leads_declare (hb : Built d) {id : ClassId} (hid : d.program.classes.Holds id) (c : Class) :
    Leads (c.declare id) d fun ms p => ∀ m ∈ ms, p.methods.Holds m.1 := by
  have hkeep {d' : Draft} (hw : d.program.Within d'.program) : d'.program.classes.Holds id :=
    Nat.lt_of_lt_of_le hid hw.classes
  have hrest (d₁ : Draft) (hb₁ : Built d₁) (hw₁ : d.program.Within d₁.program) :
      Leads (do
        c.interfaces.forM fun name => discard (implement id name)
        c.fields.forM fun f => do
          let type ← Ty.parse f.type
          discard (declareField id f.name type f.flags)
        c.methods.mapM fun m => do
          let signature ← Signature.parse m.signature
          let method ← declareMethod id signature (m.flags c) m.params
          m.locals.forM fun l => do
            let type ← Ty.parse l.type
            discard (declareLocal method l.name type)
          return (method, m)) d₁ fun ms p => ∀ m ∈ ms, p.methods.Holds m.1 := by
    refine (Leads.forM hb₁ fun name _ d₂ hb₂ hw₂ => leads_discard ?_).bind fun _ d₂ hb₂ hw₂ _ => ?_
    · exact leads_action hb₂ (.implement id name) (hkeep (hw₁.trans hw₂)) (exec_discard_snd _)
    refine (Leads.forM hb₂ fun f _ d₃ hb₃ hw₃ => ?_).bind fun _ d₃ hb₃ hw₃ _ => ?_
    · refine (leads_lift hb₃ _).bind fun type d₄ hb₄ hw₄ _ => leads_discard ?_
      exact leads_action hb₄ (.declareField id f.name type f.flags)
        (hkeep (((hw₁.trans hw₂).trans hw₃).trans hw₄)) (exec_discard_snd _)
    refine Leads.mapM hb₃ (fun m p q hw hm => Nat.lt_of_lt_of_le hm hw.methods)
      fun m _ d₄ hb₄ hw₄ => ?_
    refine (leads_lift hb₄ _).bind fun g d₅ hb₅ hw₅ _ => ?_
    have hid₅ := hkeep ((((hw₁.trans hw₂).trans hw₃).trans hw₄).trans hw₅)
    refine (leads_declareMethod hb₅ hid₅ g (m.flags c) m.params).bind fun i d₆ hb₆ hw₆ hi => ?_
    refine (Leads.forM hb₆ fun l _ d₇ hb₇ hw₇ => ?_).bind fun _ d₇ hb₇ hw₇ _ => ?_
    · refine (leads_lift hb₇ _).bind fun type d₈ hb₈ hw₈ _ => leads_discard ?_
      exact leads_action hb₈ (.declareLocal i l.name type)
        (Nat.lt_of_lt_of_le hi (hw₇.trans hw₈).methods) (exec_discard_snd _)
    · exact leads_pure hb₇ (Nat.lt_of_lt_of_le hi hw₇.methods)
  rw [Class.declare]
  dsimp only
  split
  · next superclass _ =>
    refine (leads_action hb (.extendClass id superclass) hid (exec_discard_snd _)).bind
      fun _ d₁ hb₁ hw₁ _ => ?_
    exact hrest d₁ hb₁ hw₁
  · exact hrest d hb (.refl _)

theorem leads_entry (hb : Built d) (e : Entry) : Leads e.resolve d fun _ _ => True := by
  refine (leads_lift hb _).bind fun g d₁ hb₁ _ _ => ?_
  have hget : Leads getProgram d₁ fun p q => p = q :=
    leads_of_exec hb₁ (fun p h => by cases h; rfl) rfl
  refine hget.bind fun p d₂ hb₂ _ hp => ?_
  subst hp
  split
  · next m hm =>
    obtain ⟨c, -, hc⟩ := Option.bind_eq_some_iff.mp hm
    obtain ⟨l, l', hl, -⟩ := List.lookup_eq_some_iff.mp hc
    have hg : (g, m) ∈ (d₂.program.classDecl c).declared := by simp [hl]
    exact leads_action hb₂ (.startAt m) (hb₂.wellFormed.declared hg) rfl
  · exact leads_throw _

/-- The first two passes: all that a description declares, and the methods that are to be filled. -/
def declareAll (desc : Description) : Build (List (MethodId × Method)) := do
  let ids ← desc.classes.mapM fun c => defineClass c.name c.flags
  let methods ← (ids.zip desc.classes).mapM fun a => a.2.declare a.1
  return methods.flatten

theorem build_eq (desc : Description) : desc.build = (do
    let methods ← desc.declareAll
    methods.forM fun a => a.2.fill a.1
    desc.entry.forM Entry.resolve
    complete) := by
  simp only [declareAll, bind_assoc, pure_bind]
  rfl

theorem leads_declareAll (desc : Description) :
    Leads desc.declareAll {} fun ms p => ∀ m ∈ ms, p.methods.Holds m.1 := by
  have hdefine : Leads (desc.classes.mapM fun c => defineClass c.name c.flags) {}
      fun ids p => ∀ c ∈ ids, p.classes.Holds c :=
    Leads.mapM .empty (fun _ _ _ hw hc => Nat.lt_of_lt_of_le hc hw.classes)
      fun c _ _ hb _ => leads_defineClass hb c.name c.flags
  refine hdefine.bind fun ids d₁ hb₁ _ hids => ?_
  have hdeclare : Leads ((ids.zip desc.classes).mapM fun a => a.2.declare a.1) d₁
      fun mss p => ∀ ms ∈ mss, ∀ m ∈ ms, p.methods.Holds m.1 :=
    Leads.mapM hb₁ (fun _ _ _ hw hms m hm => Nat.lt_of_lt_of_le (hms m hm) hw.methods)
      fun a ha _ hb hw =>
        leads_declare hb (Nat.lt_of_lt_of_le (hids _ (List.of_mem_zip ha).1) hw.classes) a.2
  refine hdeclare.bind fun mss d₂ hb₂ _ hmss => leads_pure hb₂ ?_
  intro m hm
  obtain ⟨ms, hms, hm⟩ := List.mem_flatten.mp hm
  exact hmss ms hms m hm

/-- A program that is loaded from a description is one that the builder has returned. -/
theorem finished_of_build {desc : Description} {p : Program}
    (h : Draft.exec desc.build {} = (.ok p, d)) : p.Finished := by
  rw [build_eq] at h
  obtain ⟨ms, d₂, hb₂, -, hms, h⟩ := (leads_declareAll desc).of_bind h
  have hfill : Leads (ms.forM fun a => a.2.fill a.1) d₂ fun _ _ => True := by
    refine Leads.forM hb₂ fun a ha d' hb hw => ?_
    exact leads_fill hb (Nat.lt_of_lt_of_le (hms a ha) hw.methods) a.2
  obtain ⟨-, d₃, hb₃, -, -, h⟩ := hfill.of_bind h
  have hentry : Leads (desc.entry.forM Entry.resolve) d₃ fun _ _ => True := by
    cases desc.entry with
    | none => exact leads_pure hb₃ trivial
    | some e => exact leads_entry hb₃ e
  obtain ⟨-, d₄, hb₄, -, -, h⟩ := hentry.of_bind h
  exact ⟨d₄, d, hb₄, h⟩

/-- The program that is loaded, if the description is a good one. -/
def program (desc : Description) : Program := (Draft.exec desc.build {}).1.toOption.getD {}

theorem exec_build {desc : Description} (h : (Draft.exec desc.build {}).1.toOption.isSome) :
    (Draft.exec desc.build {}).1 = .ok desc.program := by
  obtain ⟨p, hx⟩ := exists_of_toOption h
  rw [program, hx]
  rfl

theorem program_finished {desc : Description} (h : (Draft.exec desc.build {}).1.toOption.isSome) :
    desc.program.Finished :=
  finished_of_build (Prod.ext (exec_build h) rfl)

/-- A class whose objects keep each other in a field, and a program that puts an object into
itself. -/
def boxes : Description where
  entry := some { cls := "Box", method := "main()V" }
  classes := [
    { name := "Box"
      fields := [{ name := "content", type := "LBox;" }]
      methods := [
        { signature := "put(LBox;)LBox;"
          params := ["x"]
          locals := [{ name := "y", type := "LBox;" }]
          body := [.store (some "this") "Box.content" "x", .load "y" (some "this") "Box.content",
            .ret (some "y")] },
        { signature := "main()V"
          isStatic := true
          locals := [{ name := "a", type := "LBox;" }, { name := "b", type := "LBox;" }]
          body := [.new "a" "LBox;",
            .invoke .virtual "Box.put(LBox;)LBox;" (some "a") ["a"] (some "b")] }] }]

theorem boxes_finished : boxes.program.Finished := program_finished (by decide +kernel)

end Description

end PointsTo
