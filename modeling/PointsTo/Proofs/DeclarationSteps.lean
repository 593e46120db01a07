import PointsTo.Proofs.Frames
import PointsTo.Proofs.Naming

namespace PointsTo

namespace Table

variable {κ : Entity} {α : Type} {t : Table κ α} {a : α}

theorem toList_push : (t.push a).toList = t.toList ++ [a] := Array.toList_push

theorem length_toList : t.toList.length = t.size := Array.length_toList

theorem getElem?_toList (i : Nat) : t.toList[i]? = t.get? ⟨i⟩ := by
  rw [toList, get?, Array.getElem?_toList]

/-- The row that was added last is changed. -/
theorem modify_push_self {f : α → α} : (t.push a).modify t.nextId f = t.push (f a) := by
  apply Table.ext
  apply Array.ext_getElem?
  intro i
  have hrow : ((t.push a).modify t.nextId f).get? ⟨i⟩ = (t.push (f a)).get? ⟨i⟩ := by
    rw [get?_modify, get?_push, get?_push]
    by_cases hi : (⟨i⟩ : Id κ) = t.nextId
    · simp [hi]
    · simp [hi, Ne.symm hi]
  exact hrow

end Table

/-- What is said of a class without its members. -/
def ClassDecl.heading (d : ClassDecl) :
    String × ClassFlags × Bool × Option ClassId × Array ClassId :=
  (d.name, d.flags, d.defined, d.superclass, d.interfaces)

/-- A variable without its number and the statements that go through it. -/
def VarDecl.row (d : VarDecl) : MethodId × String × Ty := (d.method, d.name, d.type)

namespace Program

variable {p q r : Program} {t : Table .method MethodDecl} {decl decl₁ decl₂ : MethodDecl}
  {vs ws : List (String × Ty)}

/-- The name stands for the class. -/
def Names (p : Program) (name : String) (c : ClassId) : Prop := p.findClass? name = some c

/-- The method that was added last to the methods of `t` gets variables. -/
structure AddsVars (t : Table .method MethodDecl) (decl decl₁ : MethodDecl)
    (vs : List (String × Ty)) (p q : Program) : Prop where
  rest : q = { p with counters := q.counters, methods := t.push decl₁, vars := q.vars }
  decl : decl₁ = { decl with this := decl₁.this, params := decl₁.params, vars := decl₁.vars }
  rows : q.vars.toList.map VarDecl.row =
    p.vars.toList.map VarDecl.row ++ vs.map fun v => (t.nextId, v)

theorem AddsVars.methods (h : AddsVars t decl decl₁ vs p q) : q.methods = t.push decl₁ := by
  rw [h.rest]

theorem AddsVars.refl (hp : p.methods = t.push decl) : AddsVars t decl decl [] p p where
  rest := by rw [← hp]
  decl := rfl
  rows := by simp

theorem AddsVars.trans (h : AddsVars t decl decl₁ vs p q) (h' : AddsVars t decl₁ decl₂ ws q r) :
    AddsVars t decl decl₂ (vs ++ ws) p r where
  rest := by rw [h'.rest, h.rest]
  decl := by rw [h'.decl, h.decl]
  rows := by rw [h'.rows, h.rows, List.map_append, List.append_assoc]

/-- One more variable. -/
theorem addsVars_addVar (hp : p.methods = t.push decl) (counters : Counters)
    {f : MethodDecl → MethodDecl} {v : VarDecl} {name : String} {type : Ty}
    (hv : v.row = (t.nextId, name, type))
    (hf : f decl = { decl with
      this := (f decl).this, params := (f decl).params, vars := (f decl).vars }) :
    AddsVars t decl (f decl) [(name, type)] p
      { p with counters, vars := p.vars.push v, methods := p.methods.modify t.nextId f } where
  rest := by rw [hp, Table.modify_push_self]
  decl := hf
  rows := by simp [Table.toList_push, hv]

theorem addsVars_pushVar (hp : p.methods = t.push decl) (name : String) (type : Ty) :
    ∃ decl₁, AddsVars t decl decl₁ [(name, type)] p (p.pushVar t.nextId name type) ∧
      decl₁.this = decl.this ∧ decl₁.params = decl.params :=
  ⟨_, addsVars_addVar (f := fun d => { d with vars := d.vars.push p.counters.vars.next })
    (v := { id := p.counters.vars.next, method := t.nextId, name, type }) hp _ rfl rfl, rfl, rfl⟩

theorem addsVars_pushParams (hp : p.methods = t.push decl) (params : List (String × Ty)) :
    ∃ decl₁, AddsVars t decl decl₁ params p
        (params.foldl (fun p (name, type) => p.pushParam t.nextId name type) p) ∧
      decl₁.this = decl.this ∧ decl₁.params.size = decl.params.size + params.length := by
  induction params generalizing p decl with
  | nil => exact ⟨decl, .refl hp, rfl, rfl⟩
  | cons param params ih =>
    let v := p.counters.vars.next
    have hfirst := addsVars_addVar
      (f := fun d => { d with vars := d.vars.push v, params := d.params.push v })
      (v := { id := v, method := t.nextId, name := param.1, type := param.2 }) hp
      { p.counters with vars := p.counters.vars.succ } rfl rfl
    rw [← pushParam_eq] at hfirst
    obtain ⟨decl₂, hrest, hthis, hparams⟩ := ih hfirst.methods
    refine ⟨decl₂, hfirst.trans hrest, hthis, ?_⟩
    rw [hparams, Array.size_push, List.length_cons]
    omega

theorem addsVars_receiver (hp : p.methods = t.push decl) (hthis : decl.this = none)
    (isStatic : Bool) (className : String) :
    ∃ decl₁, AddsVars t decl decl₁ (if isStatic then [] else [("this", .ref className)]) p
        (if isStatic then p else p.pushThis t.nextId className) ∧
      decl₁.this.isSome = !isStatic ∧ decl₁.params = decl.params := by
  cases isStatic with
  | true => exact ⟨decl, .refl hp, by rw [hthis]; rfl, rfl⟩
  | false =>
    let v := p.counters.vars.next
    have hfirst := addsVars_addVar
      (f := fun d => { d with vars := d.vars.push v, this := some v })
      (v := { id := v, method := t.nextId, name := "this", type := .ref className }) hp
      { p.counters with vars := p.counters.vars.succ } rfl rfl
    rw [← pushThis_eq] at hfirst
    exact ⟨_, hfirst, rfl, rfl⟩

end Program

namespace Draft

variable {α β : Type} {d d' : Draft}

theorem mapM_concat {f : α → Option β} {l : List α} {bs : List β} {a : α} {b : β}
    (hl : l.mapM f = some bs) (ha : f a = some b) : (l ++ [a]).mapM f = some (bs ++ [b]) := by
  simp [List.mapM_append, hl, ha]

/-- What each step keeps, with what has been done so far, holds when all is done. -/
theorem mapM_induction {I : List α → List β → Draft → Prop} {f : α → Build β} {l : List α}
    (hstep : ∀ done a rest out d b d', l = done ++ a :: rest → I done out d →
      exec (f a) d = (.ok b, d') → I (done ++ [a]) (out ++ [b]) d')
    {bs : List β} (h₀ : I [] [] d) (h : exec (l.mapM f) d = (.ok bs, d')) : I l bs d' := by
  have hall (rest done : List α) (out bs : List β) (d : Draft) (hl : l = done ++ rest)
      (hI : I done out d) (h : exec (rest.mapM f) d = (.ok bs, d')) : I l (out ++ bs) d' := by
    induction rest generalizing done out bs d with
    | nil =>
      rw [List.mapM_nil] at h
      cases h
      rw [hl, List.append_nil, List.append_nil]
      exact hI
    | cons a rest ih =>
      rw [List.mapM_cons] at h
      obtain ⟨b, d₁, hb, h⟩ := exists_of_exec_bind h
      obtain ⟨bs, d₂, hbs, h⟩ := exists_of_exec_bind h
      cases h
      have hsplit : l = done ++ [a] ++ rest := by rw [hl, List.append_assoc, List.singleton_append]
      have hrest := ih _ _ bs d₁ hsplit (hstep done a rest out d b d₁ hl hI hb) hbs
      rwa [List.append_assoc, List.singleton_append] at hrest
  exact hall l [] [] bs d rfl h₀ h

theorem forM_induction {I : List α → Draft → Prop} {f : α → Build PUnit} {l : List α}
    (hstep : ∀ done a d d', I done d → exec (f a) d = (.ok (), d') → I (done ++ [a]) d')
    (h₀ : I [] d) (h : exec (l.forM f) d = (.ok (), d')) : I l d' := by
  have hall (rest done : List α) (d : Draft) (hl : l = done ++ rest) (hI : I done d)
      (h : exec (rest.forM f) d = (.ok (), d')) : I l d' := by
    induction rest generalizing done d with
    | nil =>
      cases h
      rw [hl, List.append_nil]
      exact hI
    | cons a rest ih =>
      rw [List.forM] at h
      obtain ⟨⟨⟩, d₁, ha, h⟩ := exists_of_exec_bind h
      have hsplit : l = done ++ [a] ++ rest := by rw [hl, List.append_assoc, List.singleton_append]
      exact ih _ d₁ hsplit (hstep done a d d₁ hI ha) h
  exact hall l [] d rfl h₀ h

theorem exists_of_exec_lift {x : Except ProgramError α} {f : α → Build β} {b : β}
    (h : exec (liftM x >>= f) d = (.ok b, d')) :
    ∃ a, x.toOption = some a ∧ exec (f a) d = (.ok b, d') := by
  cases x with
  | error e => cases h
  | ok a => exact ⟨a, rfl, h⟩

/-- A class gets a superclass: the class of that name, which is known from then on. -/
theorem of_exec_extendClass (hreg : d.program.Registered) {c sup : ClassId}
    (hc : d.program.classes.Holds c) {name : String}
    (h : exec (extendClass c name) d = (.ok sup, d')) :
    (d.program.mention name).Names name sup ∧ d'.program = ((d.program.mention name).modifyClass c
      fun i => { i with superclass := some sup }).link c sup .extends := by
  obtain ⟨sup', d₁, hx, hp, hname⟩ := exec_mentionClass_eq d hreg.ready name
  have hreg₁ : d₁.program.Registered := hp ▸ hreg.mention name
  have hc₁ : d₁.program.classes.Holds c := by
    rw [hp]
    exact (Program.Grown.refl hreg).mention name |>.classes.holds hc
  have hlink := exec_inherit hreg₁.nodes hc₁ (hreg₁.name.mp hname).1
    (fun i => { i with superclass := some sup' }) .extends
  rw [extendClass, exec_bind, hx] at h
  simp only [exec_bind, exec_edit, hlink] at h
  cases h
  rw [← hp]
  exact ⟨hname, rfl⟩

/-- A class gets an interface, unless it has it already. -/
theorem of_exec_implement (hreg : d.program.Registered) {c sup : ClassId}
    (hc : d.program.classes.Holds c) {name : String}
    (h : exec (implement c name) d = (.ok sup, d')) :
    (d.program.mention name).Names name sup ∧ ∃ kind, d'.program =
      ((d.program.mention name).modifyClass c fun i => if i.interfaces.contains sup then i
        else { i with interfaces := i.interfaces.push sup }).link c sup kind := by
  obtain ⟨sup', d₁, hx, hp, hname⟩ := exec_mentionClass_eq d hreg.ready name
  have hreg₁ : d₁.program.Registered := hp ▸ hreg.mention name
  have hc₁ : d₁.program.classes.Holds c := by
    rw [hp]
    exact (Program.Grown.refl hreg).mention name |>.classes.holds hc
  have hlink := exec_inherit hreg₁.nodes hc₁ (hreg₁.name.mp hname).1 fun i =>
    if i.interfaces.contains sup' then i else { i with interfaces := i.interfaces.push sup' }
  rw [implement, exec_bind, hx] at h
  simp only [exec_bind, exec_edit, exec_getProgram, hlink] at h
  cases h
  rw [← hp]
  exact ⟨hname, _, rfl⟩

/-- A field is added under a name that the class has not used. -/
theorem of_exec_declareField (hd : d.program.Counted) {c : ClassId} {name : String} {type : Ty}
    {flags : FieldFlags} {f : FieldId}
    (h : exec (declareField c name type flags) d = (.ok f, d')) :
    d.program.declaredField? c name = none ∧ d'.program = d.program.pushField
      { id := d.program.fields.nextId, cls := c, className := (d.program.classDecl c).name
        name, type, flags } := by
  rw [declareField, exec_bind, exec_getProgram] at h
  dsimp only at h
  split at h
  · cases h
  · next hnew =>
    cases h
    rw [← hd.nextField]
    exact ⟨Option.not_isSome_iff_eq_none.mp hnew, rfl⟩

theorem of_exec_declareLocal {m : MethodId} {name : String} {type : Ty} {v : VarId}
    (h : exec (declareLocal m name type) d = (.ok v, d')) :
    d'.program = d.program.pushVar m name type := by
  rw [declareLocal, exec_bind, exec_getProgram] at h
  dsimp only at h
  split at h
  · cases h
  · cases h
    rfl

/-- A class under a new name is added as the next one. -/
theorem of_exec_defineClass (hreg : d.program.Registered)
    (hdefined : ∀ c, d.program.classes.Holds c → (d.program.classDecl c).defined) {name : String}
    {flags : ClassFlags} {c : ClassId} (h : exec (defineClass name flags) d = (.ok c, d')) :
    c = d.program.classes.nextId ∧
      d'.program = d.program.pushClass { id := d.program.classes.nextId, name, flags } := by
  rw [defineClass, exec_bind, exec_report] at h
  simp only [exec_bind, exec_getProgram] at h
  cases hf : d.program.findClass? name with
  | some c₀ =>
    simp only [hf, hdefined c₀ (hreg.name.mp hf).1, if_true] at h
    cases h
  | none =>
    have hfresh : d.program.classes.nextId ∉ d.program.hierarchy.nodes := by
      rw [hreg.nodes.mem_nodes]
      exact Table.not_holds_nextId
    simp only [hf, hreg.counted.nextClass] at h
    rw [exec_addClass (d := { d with events := d.events.push (.defining name) }) hfresh] at h
    cases h
    exact ⟨rfl, rfl⟩

/-- A method is added with its receiver, if it is not static, and its parameters. -/
theorem of_exec_declareMethod (hd : d.program.Counted) {c : ClassId} {g : Signature}
    {flags : MethodFlags} {names : List String} {m : MethodId}
    (h : exec (declareMethod c g flags names) d = (.ok m, d')) :
    let className := (d.program.classDecl c).name
    let flags' := flags ||| Flags.onlyIf g.isConstructor MethodFlags.isConstructor
    let decl : MethodDecl :=
      { id := d.program.methods.nextId, cls := c, className, signature := g, flags := flags' }
    m = d.program.methods.nextId ∧ ∃ decl', Program.AddsVars d.program.methods decl decl'
        ((if flags'.has MethodFlags.isStatic then [] else [("this", .ref className)]) ++
          (paramNames names g.params.length).zip g.params)
        (d.program.pushMethod decl) d'.program ∧
      decl'.this.isSome = (!flags'.has MethodFlags.isStatic) ∧
      decl'.params.size = g.params.length := by
  intro className flags' decl
  rw [declareMethod, exec_bind] at h
  simp only [exec_getProgram] at h
  split at h
  · cases h
  split at h
  · cases h
  next hcount =>
  simp only [exec_bind, exec_edit, hd.nextMethod] at h
  obtain ⟨hm, rfl⟩ := Prod.mk.inj h
  have hmethods : (d.program.pushMethod decl).methods = d.program.methods.push decl := rfl
  obtain ⟨decl₁, hfirst, hthis, hparams⟩ := Program.addsVars_receiver hmethods rfl
    (flags'.has MethodFlags.isStatic) className
  obtain ⟨decl₂, hrest, hthis₂, hparams₂⟩ := Program.addsVars_pushParams hfirst.methods
    ((paramNames names g.params.length).zip g.params)
  have hlength : ((paramNames names g.params.length).zip g.params).length = g.params.length := by
    rw [List.length_zip, length_paramNames hcount, Nat.min_self]
  refine ⟨(Except.ok.inj hm).symm, decl₂, hfirst.trans hrest, ?_, ?_⟩
  · rw [hthis₂, hthis]
  · rw [hparams₂, hparams, hlength]
    exact Nat.zero_add _

end Draft

end PointsTo
