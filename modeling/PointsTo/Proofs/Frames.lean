import PointsTo.Proofs.Bodies
import PointsTo.Proofs.Keeping

namespace PointsTo

namespace Draft

variable {α β : Type} {d : Draft}

theorem exists_of_exec_bind {x : Build α} {f : α → Build β} {b : β} {d'' : Draft}
    (h : exec (x >>= f) d = (.ok b, d'')) :
    ∃ a d', exec x d = (.ok a, d') ∧ exec (f a) d' = (.ok b, d'') := by
  rw [exec_bind] at h
  rcases hx : exec x d with ⟨e | a, d'⟩ <;> rw [hx] at h
  · cases h
  · exact ⟨a, d', rfl, h⟩

/-- What each step makes sure of its result holds of the results of steps one after the other. -/
theorem map_of_exec_mapM {γ : Type} {f : α → Build β} {g : β → γ} {k : α → γ}
    (hf : ∀ a d b d', exec (f a) d = (.ok b, d') → g b = k a) {l : List α} {bs : List β}
    {d' : Draft} (h : exec (l.mapM f) d = (.ok bs, d')) : bs.map g = l.map k := by
  induction l generalizing d bs with
  | nil =>
    cases h
    rfl
  | cons a l ih =>
    rw [List.mapM_cons] at h
    obtain ⟨b, d₁, hb, h⟩ := exists_of_exec_bind h
    obtain ⟨bs, d₂, hbs, h⟩ := exists_of_exec_bind h
    cases h
    rw [List.map_cons, List.map_cons, hf a d b d₁ hb, ih hbs]

theorem keepsStmts_declareLocal (m : MethodId) (name : String) (type : Ty) :
    Keeps Program.stmts (declareLocal m name type) :=
  keeps_declareLocal_of (fun _ _ _ _ => rfl) m name type

theorem keepsStmts_declareMethod (c : ClassId) (g : Signature) (flags : MethodFlags)
    (names : List String) : Keeps Program.stmts (declareMethod c g flags names) :=
  keeps_declareMethod_of (fun _ _ => rfl) (fun _ _ _ => rfl) (fun _ _ _ _ => rfl) c g flags names

end Draft

namespace Description

open Draft

variable {d : Draft}

/-- Declares what a class inherits from, and its fields. -/
def Class.declareHead (id : ClassId) (c : Class) : Build Unit := do
  if let some superclass := c.superclass then
    let _ ← extendClass id superclass
  c.interfaces.forM fun name => discard (implement id name)
  c.fields.forM fun f => do
    let type ← Ty.parse f.type
    discard (declareField id f.name type f.flags)

/-- Declares a method of a class and its variables. -/
def Method.declare (id : ClassId) (c : Class) (m : Method) : Build MethodId := do
  let signature ← Signature.parse m.signature
  let method ← declareMethod id signature (m.flags c) m.params
  m.locals.forM fun l => do
    let type ← Ty.parse l.type
    discard (declareLocal method l.name type)
  return method

theorem Class.declare_eq (id : ClassId) (c : Class) : c.declare id = (do
    c.declareHead id
    c.methods.mapM fun m => do return (← m.declare id c, m)) := by
  simp only [Class.declare, Class.declareHead, Method.declare]
  cases c.superclass with
  | none => simp only [bind_assoc, pure_bind]
  | some superclass => simp only [bind_assoc, pure_bind]

theorem keepsStmts_declare (id : ClassId) (c : Class) : Keeps Program.stmts (c.declare id) := by
  have hinterfaces :
      Keeps Program.stmts (c.interfaces.forM fun name => discard (implement id name)) :=
    keeps_forM (fun name => (keeps_implement id name).stmts.discard) _
  have hfields : Keeps Program.stmts (c.fields.forM fun f => do
      let type ← Ty.parse f.type
      discard (declareField id f.name type f.flags)) := by
    refine keeps_forM (fun f => ?_) c.fields
    exact (keeps_lift _).bind fun type =>
      (keeps_declareField id f.name type f.flags).stmts.discard
  have hhead : Keeps Program.stmts (c.declareHead id) := by
    rw [Class.declareHead]
    cases c.superclass with
    | none => exact hinterfaces.bind fun _ => hfields
    | some superclass =>
      exact (keeps_extendClass id superclass).stmts.bind fun _ => hinterfaces.bind fun _ => hfields
  have hmethod (m : Method) : Keeps Program.stmts (m.declare id c) := by
    refine (keeps_lift _).bind fun g => ?_
    refine (keepsStmts_declareMethod id g _ _).bind fun i => ?_
    refine (keeps_forM (fun l => ?_) _).bind fun _ => keeps_pure _
    exact (keeps_lift _).bind fun type => (keepsStmts_declareLocal i l.name type).discard
  rw [Class.declare_eq]
  refine hhead.bind fun _ => keeps_mapM (fun m => ?_) _
  exact (hmethod m).bind fun _ => keeps_pure _

theorem keepsStmts_declareAll (desc : Description) : Keeps Program.stmts desc.declareAll := by
  have hdefine : Keeps Program.stmts (desc.classes.mapM fun c => defineClass c.name c.flags) := by
    apply keeps_mapM
    intro c
    exact (keeps_defineClass c.name c.flags).stmts
  have hdeclare (ids : List ClassId) :
      Keeps Program.stmts ((ids.zip desc.classes).mapM fun a => a.2.declare a.1) := by
    apply keeps_mapM
    intro a
    exact keepsStmts_declare a.1 a.2
  exact hdefine.bind fun ids => (hdeclare ids).bind fun mss => keeps_pure mss.flatten

/-- A method with nothing said about its statements but how many there are. -/
def Method.frame (m : Method) : Method := { m with body := m.body.map fun _ => .ret none }

def Class.frame (c : Class) : Class := { c with methods := c.methods.map Method.frame }

/-- A description with nothing said about the statements but how many there are in each body. -/
def frame (desc : Description) : Description :=
  { desc with classes := desc.classes.map Class.frame }

theorem Method.declare_frame (id : ClassId) (c : Class) (m : Method) :
    m.frame.declare id c.frame = m.declare id c := by
  have hflags : m.frame.flags c.frame = m.flags c := by
    simp only [Method.flags, Method.frame, Class.frame, List.isEmpty_map]
  rw [Method.declare, Method.declare, hflags]
  rfl

/-- A described method that has been declared, with its frame only. -/
def frameOf (a : MethodId × Method) : MethodId × Method := (a.1, a.2.frame)

theorem map_mapM {α β γ : Type} (g : β → γ) (f : α → Build β) (l : List α) :
    List.map g <$> l.mapM f = l.mapM fun a => g <$> f a := by
  induction l with
  | nil => simp
  | cons a l ih => simp [← ih, map_bind]

theorem Class.declare_frame (id : ClassId) (c : Class) :
    List.map frameOf <$> c.declare id = c.frame.declare id := by
  have hhead : c.frame.declareHead id = c.declareHead id := rfl
  have hmethods : c.frame.methods = c.methods.map Method.frame := rfl
  rw [Class.declare_eq, Class.declare_eq, hhead, hmethods, List.mapM_map, map_bind]
  congr 1
  funext _
  rw [map_mapM]
  congr 1
  funext m
  simp only [map_bind, map_pure, Function.comp_apply, m.declare_frame]
  rfl

/-- The declarations that a description makes are those of its frame. -/
theorem declareAll_frame (desc : Description) :
    List.map frameOf <$> desc.declareAll = desc.frame.declareAll := by
  have hdefine : (desc.frame.classes.mapM fun c => defineClass c.name c.flags) =
      desc.classes.mapM fun c => defineClass c.name c.flags := by
    rw [frame, List.mapM_map]
    rfl
  have hdeclare (ids : List ClassId) :
      ((ids.zip desc.frame.classes).mapM fun a => a.2.declare a.1) =
        List.map (List.map frameOf) <$> (ids.zip desc.classes).mapM fun a => a.2.declare a.1 := by
    rw [frame, List.zip_map_right, List.mapM_map, map_mapM]
    congr 1
    funext a
    exact (Class.declare_frame a.1 a.2).symm
  simp only [declareAll, hdefine, hdeclare, map_bind, map_pure, bind_map_left, List.map_flatten]

/-- The methods of all classes, in order. -/
def methods (desc : Description) : List Method := desc.classes.flatMap (·.methods)

/-- The statements of all bodies, in order, each with the number of its method. -/
def statements (desc : Description) : List (Nat × Stmt) :=
  desc.methods.zipIdx.flatMap fun a => a.1.body.map fun s => (a.2, s)

theorem Class.methods_of_declare {id : ClassId} {c : Class} {ms : List (MethodId × Method)}
    {d' : Draft} (h : exec (c.declare id) d = (.ok ms, d')) : ms.map Prod.snd = c.methods := by
  rw [Class.declare_eq] at h
  obtain ⟨-, d₁, -, h⟩ := exists_of_exec_bind h
  have hsnd : ms.map Prod.snd = c.methods.map fun m => m := by
    apply map_of_exec_mapM _ h
    intro m d₂ a d₃ ha
    obtain ⟨i, d₄, -, ha⟩ := exists_of_exec_bind ha
    cases ha
    rfl
  rw [hsnd, List.map_id']

/-- The methods that are to be filled are the described ones, in order. -/
theorem methods_of_declareAll {desc : Description} {ms : List (MethodId × Method)} {d' : Draft}
    (h : exec desc.declareAll d = (.ok ms, d')) : ms.map Prod.snd = desc.methods := by
  obtain ⟨ids, d₁, hids, h⟩ := exists_of_exec_bind h
  obtain ⟨mss, d₂, hmss, h⟩ := exists_of_exec_bind h
  cases h
  have hlen : ids.length = desc.classes.length := by
    have hunit := map_of_exec_mapM (g := fun _ => ()) (k := fun _ => ()) (fun _ _ _ _ _ => rfl) hids
    simpa using congrArg List.length hunit
  have hmethods : mss.map (List.map Prod.snd) = (ids.zip desc.classes).map fun a => a.2.methods :=
    map_of_exec_mapM (fun _ _ _ _ ha => Class.methods_of_declare ha) hmss
  have hsnd : (ids.zip desc.classes).map Prod.snd = desc.classes :=
    List.map_snd_zip (Nat.le_of_eq hlen.symm)
  calc mss.flatten.map Prod.snd
    _ = (mss.map (List.map Prod.snd)).flatten := List.map_flatten
    _ = ((ids.zip desc.classes).map fun a => a.2.methods).flatten := by rw [hmethods]
    _ = (((ids.zip desc.classes).map Prod.snd).map (·.methods)).flatten := by rw [List.map_map]; rfl
    _ = desc.methods := by rw [hsnd]; rfl

/-- The statements of methods that are to be filled, in order. -/
def listing (ms : List (MethodId × Method)) : List (MethodId × Stmt) :=
  ms.flatMap fun a => a.2.body.map fun s => (a.1, s)

theorem forM_listing (ms : List (MethodId × Method)) :
    (ms.forM fun a => a.2.fill a.1) = (listing ms).forM fun a => a.2.addTo a.1 := by
  induction ms with
  | nil => rfl
  | cons a ms ih =>
    have hbody := List.forM_map (l := a.2.body) (g := fun s => (a.1, s))
      (f := fun b : MethodId × Stmt => b.2.addTo b.1)
    have happend : ((a.2.body.map fun s => (a.1, s)) ++ listing ms).forM (fun b => b.2.addTo b.1) =
        (do
          (a.2.body.map fun s => (a.1, s)).forM fun b => b.2.addTo b.1
          (listing ms).forM fun b => b.2.addTo b.1) := List.forM_append
    calc (a :: ms).forM (fun a => a.2.fill a.1)
      _ = (do a.2.fill a.1; ms.forM fun a => a.2.fill a.1) := rfl
      _ = (do
          (a.2.body.map fun s => (a.1, s)).forM fun b => b.2.addTo b.1
          (listing ms).forM fun b => b.2.addTo b.1) := by
        rw [ih]
        exact congrArg (· >>= fun _ => (listing ms).forM fun b => b.2.addTo b.1) hbody.symm
      _ = (listing (a :: ms)).forM fun b => b.2.addTo b.1 := happend.symm

theorem listing_eq {ms : List (MethodId × Method)} {ids : Nat → MethodId} {n : Nat}
    (h : ∀ i a, ms[i]? = some a → ids (n + i) = a.1) :
    listing ms = (((ms.map Prod.snd).zipIdx n).flatMap fun a => a.1.body.map fun s => (a.2, s)).map
      fun a => (ids a.1, a.2) := by
  induction ms generalizing n with
  | nil => rfl
  | cons a ms ih =>
    have hfirst : ids n = a.1 := h 0 a rfl
    have hrest := ih (n := n + 1) fun i b hb => by
      rw [Nat.add_right_comm]
      exact h (i + 1) b hb
    rw [listing, List.flatMap_cons, ← listing, hrest, List.map_cons, List.zipIdx_cons,
      List.flatMap_cons, List.map_append, List.map_map, ← hfirst]
    rfl

end Description

end PointsTo
