import PointsTo.Proofs.Adoption
import PointsTo.Proofs.Declarations

/-!
Two builders that make the same calls on drafts that differ in one point: some classes of the second
draft have the root class for superclass and no superclass in the first. No call tells them apart.
-/
namespace PointsTo

namespace Program

variable {p q : Program}

theorem Edit.findClass?_of_some (h : Edit p q) {name : String} {c : ClassId}
    (hp : p.findClass? name = some c) : q.findClass? name = some c := by
  cases h with
  | pushClass decl hid hnew =>
    have hne : decl.name ≠ name := by
      intro he
      rw [he, hp] at hnew
      cases hnew
    rw [findClass?_pushClass, if_neg hne]
    exact hp
  | pushStmt m stmt => rw [pushStmt_eq]; exact hp
  | _ => exact hp

/-- A name that is known keeps its class. -/
theorem Edits.findClass?_of_some (h : Edits p q) {name : String} {c : ClassId}
    (hp : p.findClass? name = some c) : q.findClass? name = some c :=
  h.invariant (I := fun p => p.findClass? name = some c) (fun _ _ he => he.findClass?_of_some) hp

theorem Adopted.pushParams {root : ClassId} {l : List ClassId} (h : Adopted root l p q)
    (m : MethodId) (params : List (String × Ty)) : Adopted root l
      (params.foldl (fun p (name, type) => p.pushParam m name type) p)
      (params.foldl (fun p (name, type) => p.pushParam m name type) q) := by
  induction params generalizing p q with
  | nil => exact h
  | cons param params ih =>
    exact ih (h.map (f := fun p => p.pushParam m param.1 param.2) fun _ _ _ => rfl)

end Program

namespace Draft

open Program (Adopted)

variable {α β : Type} {d e : Draft} {root c : ClassId} {l : List ClassId}

/-- Two outcomes: failures, or the same result with drafts as `Q` says. -/
inductive Together (Q : α → Draft → Draft → Prop) :
    Except ProgramError α × Draft → Except ProgramError α × Draft → Prop
  | ok {a : α} {d e : Draft} (h : Q a d e) : Together Q (.ok a, d) (.ok a, e)
  | error (u v : ProgramError) (d e : Draft) : Together Q (.error u, d) (.error v, e)

theorem Together.mono {Q R : α → Draft → Draft → Prop} {r r' : Except ProgramError α × Draft}
    (h : Together Q r r') (hQ : ∀ a d e, Q a d e → R a d e) : Together R r r' := by
  cases h with
  | ok h => exact .ok (hQ _ _ _ h)
  | error => exact .error ..

theorem Together.bind {x y : Build α} {f g : α → Build β} {Q : α → Draft → Draft → Prop}
    {R : β → Draft → Draft → Prop} (h : Together Q (exec x d) (exec y e))
    (hf : ∀ a d' e', Q a d' e' → Together R (exec (f a) d') (exec (g a) e')) :
    Together R (exec (x >>= f) d) (exec (y >>= g) e) := by
  rw [exec_bind, exec_bind]
  generalize exec x d = r at h ⊢
  generalize exec y e = r' at h ⊢
  cases h with
  | ok h => exact hf _ _ _ h
  | error => exact .error ..

theorem Together.discard {x y : Build α} {Q : Draft → Draft → Prop}
    (h : Together (fun _ => Q) (exec x d) (exec y e)) :
    Together (fun _ => Q) (exec (discard x) d) (exec (discard y) e) := by
  rw [exec_discard, exec_discard]
  generalize exec x d = r at h ⊢
  generalize exec y e = r' at h ⊢
  cases h with
  | ok h => exact .ok h
  | error => exact .error ..

/-- What is known of the first run alone. -/
theorem Together.and_left {Q : α → Draft → Draft → Prop} {P : α → Draft → Prop}
    {r r' : Except ProgramError α × Draft} (h : Together Q r r')
    (hP : ∀ a d, r = (.ok a, d) → P a d) : Together (fun a d e => Q a d e ∧ P a d) r r' := by
  cases h with
  | ok h => exact .ok ⟨h, hP _ _ rfl⟩
  | error => exact .error ..

/-- What is read from a text does not depend on the draft. -/
theorem together_lift {Q : Draft → Draft → Prop} (h : Q d e) (x : Except ProgramError α) :
    Together (fun _ => Q) (exec (liftM x : Build α) d) (exec (liftM x : Build α) e) := by
  cases x with
  | error u => exact .error u u d e
  | ok a => exact .ok h

theorem together_forM {I : Draft → Draft → Prop} {f : α → Build PUnit} (l : List α)
    (hstep : ∀ a d e, I d e → Together (fun _ => I) (exec (f a) d) (exec (f a) e)) (h : I d e) :
    Together (fun _ => I) (exec (l.forM f) d) (exec (l.forM f) e) := by
  induction l generalizing d e with
  | nil => exact .ok h
  | cons a l ih => exact (hstep a d e h).bind fun _ _ _ h' => ih h'

/-- Two lists whose members belong together one by one. `I` says how the drafts are when some
members of the first list are done. -/
theorem together_mapM {α' : Type} {S : α → α' → Prop} {I : List α → Draft → Draft → Prop}
    {f : α → Build β} {g : α' → Build β} {l : List α} {l' : List α'} (hl : List.Forall₂ S l l')
    (hstep : ∀ done a rest a' d e, l = done ++ a :: rest → S a a' → I done d e →
      Together (fun _ => I (done ++ [a])) (exec (f a) d) (exec (g a') e)) (h : I [] d e) :
    Together (fun _ => I l) (exec (l.mapM f) d) (exec (l'.mapM g) e) := by
  have hall (done rest : List α) (rest' : List α') (hrest : List.Forall₂ S rest rest')
      (d e : Draft) (hsplit : l = done ++ rest) (h : I done d e) :
      Together (fun _ => I l) (exec (rest.mapM f) d) (exec (rest'.mapM g) e) := by
    induction hrest generalizing done d e with
    | nil =>
      rw [List.append_nil] at hsplit
      rw [hsplit]
      exact .ok h
    | @cons a a' rest rest' ha _ ih =>
      rw [List.mapM_cons, List.mapM_cons]
      refine (hstep done a rest a' d e hsplit ha h).bind fun b d₁ e₁ h₁ => ?_
      have hsplit₁ : l = done ++ [a] ++ rest := by
        rw [hsplit, List.append_assoc, List.singleton_append]
      exact (ih (done ++ [a]) d₁ e₁ hsplit₁ h₁).bind fun bs d₂ e₂ h₂ => .ok h₂
  exact hall [] l l' hl d e rfl h

/-- Two drafts that differ in the listed classes only, which have the root class for superclass in
the second one. -/
structure Apart (root : ClassId) (l : List ClassId) (d e : Draft) : Prop where
  adopted : Adopted root l d.program e.program
  left : Built d
  right : Built e
  held : ∀ c ∈ l, d.program.classes.Holds c
  named : d.program.findClass? rootClassName = some root

/-- The drafts differ as before, and the first has grown. -/
def StillApart (root : ClassId) (l : List ClassId) (d₀ d e : Draft) : Prop :=
  Apart root l d e ∧ d₀.program.Within d.program

theorem StillApart.trans {d₀ d' e' : Draft} (h : StillApart root l d₀ d e)
    (h' : StillApart root l d d' e') : StillApart root l d₀ d' e' :=
  ⟨h'.1, h.2.trans h'.2⟩

/-- A class is known as long as a program grows. -/
theorem StillApart.holds {d₀ : Draft} (h : StillApart root l d₀ d e)
    (hc : d₀.program.classes.Holds c) : d.program.classes.Holds c :=
  Nat.lt_of_lt_of_le hc h.2.classes

theorem Apart.refl (hd : Built d) (hroot : d.program.findClass? rootClassName = some root) :
    Apart root [] d d :=
  ⟨.refl root d.program, hd, hd, fun _ hc => (List.not_mem_nil hc).elim, hroot⟩

/-- A call of which the programs alone are compared. -/
theorem Apart.call {x : Build α} (h : Apart root l d e) (a : Action) (hd : a.Known d.program)
    (he : a.Known e.program) (hx : ∀ d, (exec a.run d).2 = (exec x d).2)
    (ht : Together (fun _ d' e' => Adopted root l d'.program e'.program) (exec x d) (exec x e)) :
    Together (fun _ => StillApart root l d) (exec x d) (exec x e) := by
  have hleft := h.left.act a hd
  have hright := h.right.act a he
  have hedits := (a.careful h.left.ready hd).edits
  rw [hx d] at hleft hedits
  rw [hx e] at hright
  rcases hxd : exec x d with ⟨u | r, d'⟩ <;> rcases hxe : exec x e with ⟨v | r', e'⟩ <;>
    rw [hxd, hxe] at ht
  · exact .error ..
  · cases ht
  · cases ht
  · rw [hxd] at hleft hedits
    rw [hxe] at hright
    cases ht with
    | ok hadopted =>
      have hheld (c : ClassId) (hc : c ∈ l) : d'.program.classes.Holds c :=
        hedits.holds_class (h.held c hc)
      exact .ok ⟨⟨hadopted, hleft, hright, hheld, hedits.findClass?_of_some h.named⟩,
        hedits.within⟩

namespace Apart

variable (h : Apart root l d e)
include h

theorem registered : d.program.Registered := h.left.edits.registered Program.registered_empty

theorem registered_right : e.program.Registered :=
  h.right.edits.registered Program.registered_empty

/-- A name that is mentioned in both drafts stands for the same class. -/
theorem eq_of_names_mention {name : String} {sup sup' : ClassId}
    (hsup : (d.program.mention name).Names name sup)
    (hsup' : (e.program.mention name).Names name sup') : sup' = sup := by
  rw [Program.Names, (h.adopted.mention h.held name).findClass?_eq] at hsup'
  exact Option.some.inj (hsup'.symm.trans hsup)

theorem holds_mention (hc : d.program.classes.Holds c) (name : String) :
    (d.program.mention name).classes.Holds c :=
  ((Program.Grown.refl h.registered).mention name).classes.holds hc

/-- A class that both drafts give the same superclass. -/
theorem extendClass (hc : d.program.classes.Holds c) (hcl : c ∉ l) (name : String) :
    Together (fun _ => StillApart root l d) (exec (extendClass c name) d)
      (exec (extendClass c name) e) := by
  have hc' : e.program.classes.Holds c := h.adopted.holds_iff.mpr hc
  refine h.call (.extendClass c name) hc hc' (fun _ => exec_discard_snd _) ?_
  obtain ⟨sup, d', hx, -⟩ := extendClass_cases h.left.ready hc name
  obtain ⟨sup', e', hx', -⟩ := extendClass_cases h.right.ready hc' name
  obtain ⟨hsup, hp⟩ := of_exec_extendClass h.registered hc hx
  obtain ⟨hsup', hp'⟩ := of_exec_extendClass h.registered_right hc' hx'
  have hmention := h.adopted.mention h.held name
  have hheld := h.holds_mention hc name
  cases h.eq_of_names_mention hsup hsup'
  rw [hx, hx']
  refine .ok ?_
  rw [hp, hp']
  exact hmention.extend hheld hcl _

theorem implement (hc : d.program.classes.Holds c) (name : String) :
    Together (fun _ => StillApart root l d) (exec (implement c name) d)
      (exec (implement c name) e) := by
  have hc' : e.program.classes.Holds c := h.adopted.holds_iff.mpr hc
  refine h.call (.implement c name) hc hc' (fun _ => exec_discard_snd _) ?_
  obtain ⟨sup, d', hx, -⟩ := implement_cases h.left.ready hc name
  obtain ⟨sup', e', hx', -⟩ := implement_cases h.right.ready hc' name
  obtain ⟨hsup, kind, hp⟩ := of_exec_implement h.registered hc hx
  obtain ⟨hsup', kind', hp'⟩ := of_exec_implement h.registered_right hc' hx'
  have hmention := h.adopted.mention h.held name
  have hheld := h.holds_mention hc name
  cases h.eq_of_names_mention hsup hsup'
  rw [hx, hx']
  refine .ok ?_
  rw [hp, hp']
  refine (hmention.modifyClass hheld fun i superclass => ?_).link c _ kind kind'
  dsimp only
  split <;> rfl

theorem declareField (hc : d.program.classes.Holds c) (name : String) (type : Ty)
    (flags : FieldFlags) : Together (fun _ => StillApart root l d)
      (exec (declareField c name type flags) d) (exec (declareField c name type flags) e) := by
  have hc' : e.program.classes.Holds c := h.adopted.holds_iff.mpr hc
  refine h.call (.declareField c name type flags) hc hc' (fun _ => exec_discard_snd _) ?_
  have hcounters := (Program.rest_iff.mp h.adopted.rest).1
  have hname : (e.program.classDecl c).name = (d.program.classDecl c).name := by
    rw [h.adopted.classDecl_eq]
  rw [Draft.declareField, exec_bind, exec_bind, exec_getProgram, exec_getProgram]
  dsimp only
  rw [h.adopted.declaredField?_eq, hcounters, hname]
  split
  · exact .error ..
  · exact .ok (h.adopted.pushField _ hc)

theorem declareLocal {m : MethodId} (hm : d.program.methods.Holds m) (name : String) (type : Ty) :
    Together (fun _ => StillApart root l d) (exec (declareLocal m name type) d)
      (exec (declareLocal m name type) e) := by
  obtain ⟨hcounters, -, hmethods, -⟩ := Program.rest_iff.mp h.adopted.rest
  have hm' : e.program.methods.Holds m := by rwa [hmethods]
  refine h.call (.declareLocal m name type) hm hm' (fun _ => exec_discard_snd _) ?_
  rw [Draft.declareLocal, exec_bind, exec_bind, exec_getProgram, exec_getProgram]
  dsimp only
  rw [h.adopted.findVar?_eq, hcounters]
  split
  · exact .error ..
  · exact .ok (h.adopted.map (f := fun p => p.pushVar m name type) fun _ _ _ => rfl)

/-- A method is declared with its receiver and its parameters. -/
theorem declareMethod (hc : d.program.classes.Holds c) (g : Signature) (flags : MethodFlags)
    (names : List String) : Together
      (fun m d' e' => StillApart root l d d' e' ∧ d'.program.methods.Holds m)
      (exec (declareMethod c g flags names) d) (exec (declareMethod c g flags names) e) := by
  have hc' : e.program.classes.Holds c := h.adopted.holds_iff.mpr hc
  refine Together.and_left ?_ fun m d' hx =>
    (leads_declareMethod h.left hc g flags names m d' hx).2.2
  refine h.call (.declareMethod c g flags names) hc hc' (fun _ => exec_discard_snd _) ?_
  have hcounters := (Program.rest_iff.mp h.adopted.rest).1
  have hname : (e.program.classDecl c).name = (d.program.classDecl c).name := by
    rw [h.adopted.classDecl_eq]
  have hdeclared : (e.program.classDecl c).declaredMethod? g =
      (d.program.classDecl c).declaredMethod? g := by
    rw [h.adopted.classDecl_eq]
    rfl
  rw [Draft.declareMethod, exec_bind, exec_bind, exec_getProgram, exec_getProgram]
  dsimp only
  rw [hdeclared, hcounters, hname]
  split
  · exact .error ..
  split
  · exact .error ..
  refine .ok (Adopted.pushParams ?_ _ _)
  have hmethod := h.adopted.pushMethod
    { id := d.program.counters.methods.next, cls := c, className := (d.program.classDecl c).name
      signature := g
      flags := flags ||| Flags.onlyIf g.isConstructor MethodFlags.isConstructor } hc
  split
  · exact hmethod
  · exact hmethod.map (f := fun p => p.pushThis _ _) fun _ _ _ => rfl

end Apart

end Draft

namespace Description

open Draft

variable {d e : Draft} {root id : ClassId} {l : List ClassId}

theorem Class.declare_extending (c : Class) (name : String) :
    ({ c with superclass := some name } : Class).declare id = (do
      let _ ← extendClass id name
      ({ c with superclass := none } : Class).declare id) := rfl

theorem Class.eq_of_superclass {c : Class} {superclass : Option String}
    (h : c.superclass = superclass) : c = { c with superclass } := by
  cases c
  cases h
  rfl

section Declare

variable (h : Apart root l d e) (hid : d.program.classes.Holds id)
include h hid

theorem Method.together_declare (c : Class) (m : Method) : Together
    (fun _ => StillApart root l d) (exec (m.declare id c) d) (exec (m.declare id c) e) := by
  have h₀ : StillApart root l d d e := ⟨h, .refl _⟩
  rw [Method.declare]
  refine (together_lift h₀ _).bind fun g d₁ e₁ h₁ => ?_
  have hid₁ := h₁.holds hid
  refine (h₁.1.declareMethod hid₁ g (m.flags c) m.params).bind fun i d₂ e₂ h₂ => ?_
  obtain ⟨h₂, hi⟩ := h₂
  have hlocals := together_forM (I := StillApart root l d₂) m.locals (f := fun l => do
    let type ← Ty.parse l.type
    discard (declareLocal i l.name type)) ?_ ⟨h₂.1, .refl _⟩
  · exact hlocals.bind fun _ _ _ h₃ => .ok ((h₁.trans h₂).trans h₃)
  · intro v d₃ e₃ h₃
    refine (together_lift h₃ _).bind fun type d₄ e₄ h₄ => ?_
    have hi₄ := Nat.lt_of_lt_of_le hi h₄.2.methods
    exact ((h₄.1.declareLocal hi₄ v.name type).mono fun _ _ _ h₅ => h₄.trans h₅).discard

/-- A class without superclass gets its interfaces and members. -/
theorem Class.together_declare (c : Class) (hnone : c.superclass = none) :
    Together (fun _ => StillApart root l d) (exec (c.declare id) d) (exec (c.declare id) e) := by
  have h₀ : StillApart root l d d e := ⟨h, .refl _⟩
  have hinterfaces := together_forM (I := StillApart root l d) c.interfaces
    (f := fun name => discard (implement id name)) ?_ h₀
  have hfields (d₁ e₁ : Draft) (h₁ : StillApart root l d d₁ e₁) :=
    together_forM (I := StillApart root l d) c.fields (f := fun f => do
      let type ← Ty.parse f.type
      discard (declareField id f.name type f.flags)) ?_ h₁
  · rw [Class.declare_eq, Class.declareHead, hnone]
    refine (hinterfaces.bind fun _ d₁ e₁ h₁ => hfields d₁ e₁ h₁).bind fun _ d₁ e₁ h₁ => ?_
    refine together_mapM (I := fun _ => StillApart root l d)
      (List.forall₂_same.mpr fun _ _ => rfl) ?_ h₁
    rintro - m - - d₂ e₂ - rfl h₂
    have hid₂ := h₂.holds hid
    exact (Method.together_declare h₂.1 hid₂ c m).bind fun i d₃ e₃ h₃ => .ok (h₂.trans h₃)
  · intro f d₁ e₁ h₁
    refine (together_lift h₁ _).bind fun type d₂ e₂ h₂ => ?_
    have hid₂ := h₂.holds hid
    exact ((h₂.1.declareField hid₂ f.name type f.flags).mono fun _ _ _ h₃ => h₂.trans h₃).discard
  · intro name d₁ e₁ h₁
    have hid₁ := h₁.holds hid
    exact ((h₁.1.implement hid₁ name).mono fun _ _ _ h₂ => h₁.trans h₂).discard

/-- Both drafts get the class as it is described. -/
theorem Class.together_declare_same (c : Class) (hnew : id ∉ l) :
    Together (fun _ => StillApart root l d) (exec (c.declare id) d) (exec (c.declare id) e) := by
  cases hsup : c.superclass with
  | none => exact Class.together_declare h hid c hsup
  | some name =>
    rw [Class.eq_of_superclass hsup, Class.declare_extending]
    refine (h.extendClass hid hnew name).bind fun _ d₁ e₁ h₁ => ?_
    exact (Class.together_declare h₁.1 (h₁.holds hid) _ rfl).mono fun _ _ _ h₂ => h₁.trans h₂

/-- Only the second draft gets the root class as superclass. -/
theorem Class.together_declare_explicit (c : Class) (hnone : c.superclass = none) :
    Together (fun _ => StillApart root (id :: l) d) (exec (c.declare id) d)
      (exec (({ c with superclass := some rootClassName } : Class).declare id) e) := by
  have hid' : e.program.classes.Holds id := h.adopted.holds_iff.mpr hid
  have hroot : e.program.findClass? rootClassName = some root := by
    rw [h.adopted.findClass?_eq, h.named]
  have hextend := exec_extendClass_root h.registered_right hroot hid'
  have hbuilt := h.right.act (.extendClass id rootClassName) hid'
  rw [Action.run, exec_discard_snd, hextend] at hbuilt
  have happart : Apart root (id :: l) d { e with program := e.program.adopt root id } := by
    refine ⟨h.adopted.adopt hid, h.left, hbuilt, ?_, h.named⟩
    intro c hc
    obtain rfl | hc := List.mem_cons.mp hc
    · exact hid
    · exact h.held c hc
  rw [Class.declare_extending, exec_bind, hextend, ← Class.eq_of_superclass hnone]
  exact Class.together_declare happart hid c hnone

end Declare

end Description

end PointsTo
