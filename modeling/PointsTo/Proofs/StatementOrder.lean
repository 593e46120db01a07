import PointsTo.Proofs.Reordering

namespace PointsTo

open Draft

/-- A permutation of the numbers as one of the identifiers. -/
def Id.perm {κ : Entity} (move : Equiv.Perm Nat) : Equiv.Perm (Id κ) where
  toFun i := ⟨move i.index⟩
  invFun i := ⟨move.symm i.index⟩
  left_inv i := congrArg Id.mk (move.symm_apply_apply i.index)
  right_inv i := congrArg Id.mk (move.apply_symm_apply i.index)

/-- Two programs with the same fields, methods and variables, and with the same statements in their
bodies, in an order that may differ. Classes go by their names. -/
structure Program.Agrees (σ : Equiv.Perm StmtId) (p q : Program) : Prop where
  fields : q.fields = p.fields
  methods : q.methods.size = p.methods.size
  vars : q.vars.size = p.vars.size
  method (m : MethodId) : (q.methodDecl m).outline = (p.methodDecl m).outline
  var (v : VarId) : (q.varDecl v).outline = (p.varDecl v).outline
  holds (s : StmtId) : q.stmts.Holds (σ s) ↔ p.stmts.Holds s
  container {s : StmtId} (hs : p.stmts.Holds s) : q.container (σ s) = p.container s
  stmt {s : StmtId} (hs : p.stmts.Holds s) :
    q.stmt (σ s) = (p.stmt s).mapClass (p.counterpart q)

/-- Two solutions that say the same, with the contexts left out, about statements that correspond.
-/
structure Solution.Corresponds (σ : Equiv.Perm StmtId) (r r' : Solution) : Prop where
  reachable (m : MethodId) : m ∈ r'.plainCalls.reachable ↔ m ∈ r.plainCalls.reachable
  edges (k : CallKind) (s : StmtId) (m : MethodId) :
    ⟨k, σ s, m⟩ ∈ r'.plainCalls.edges ↔ ⟨k, s, m⟩ ∈ r.plainCalls.edges
  varSites (v : VarId) (s : StmtId) : σ s ∈ r'.varSites v ↔ s ∈ r.varSites v
  staticSites (f : FieldId) (s : StmtId) : σ s ∈ r'.staticSites f ↔ s ∈ r.staticSites f
  fieldSites (base : StmtId) (f : FieldId) (s : StmtId) :
    σ s ∈ r'.fieldSites (σ base) f ↔ s ∈ r.fieldSites base f

theorem Solution.CarriedBy.corresponds {σ : Equiv.Perm StmtId} {r r' : Solution}
    (h : r.CarriedBy σ r') (hback : r'.CarriedBy σ.symm r) : r.Corresponds σ r' where
  reachable _ := ⟨hback.reachable, h.reachable⟩
  edges k s m := by
    refine ⟨fun he => ?_, h.edges⟩
    have himage := hback.edges he
    rwa [σ.symm_apply_apply] at himage
  varSites v s := by
    refine ⟨fun hs => ?_, h.varSites⟩
    have himage := hback.varSites hs
    rwa [σ.symm_apply_apply] at himage
  staticSites f s := by
    refine ⟨fun hs => ?_, h.staticSites⟩
    have himage := hback.staticSites hs
    rwa [σ.symm_apply_apply] at himage
  fieldSites base f s := by
    refine ⟨fun hs => ?_, h.fieldSites⟩
    have himage := hback.fieldSites hs
    rwa [σ.symm_apply_apply, σ.symm_apply_apply] at himage

namespace Description

variable {desc desc' : Description} {move : Equiv.Perm Nat} {p q : Program} {d : Draft}

namespace Moved

theorem agrees (h : Moved move p q) : p.Agrees (Id.perm move) q := by
  obtain ⟨hfields, hmethods, hvars, hmethod, hvar⟩ := h.declarations
  obtain ⟨ρ, hρ, hcls⟩ := h.exists_renaming
  obtain ⟨ρ', hρ', -⟩ := h.symm.exists_renaming
  refine ⟨hfields, hmethods, hvars, hmethod, hvar, fun s => ⟨fun hs => ?_, fun hs => ?_⟩,
    fun {s} hs => ?_, fun {s} hs => ?_⟩
  · have hback := ρ'.holds hs
    rw [hρ'] at hback
    rwa [← (Id.perm move).symm_apply_apply s]
  · have hforth := ρ.holds hs
    rwa [hρ] at hforth
  · have hforth := ρ.container hs
    rwa [hρ] at hforth
  · have hforth := ρ.stmt hs
    rwa [hρ, hcls] at hforth

/-- What the analysis finds out about the second program it finds out about the first one. -/
theorem carries (h : Moved move p q) (hp : p.Finished) (hq : q.Finished) {π : Policy}
    {r' : Solution} (hr' : (analyze q π).1 = .ok r') :
    ∃ r, (analyze p π).1 = .ok r ∧ r.CarriedBy (Id.perm move) r' := by
  obtain ⟨ρ, hρ, -⟩ := h.exists_renaming
  have hcarries := ρ.carries hp hq hr'
  rwa [hρ] at hcarries

theorem analyze_ok_iff_ok (h : Moved move p q) (hp : p.Finished) (hq : q.Finished) (π : Policy) :
    (∃ r, (analyze p π).1 = .ok r) ↔ ∃ r', (analyze q π).1 = .ok r' := by
  constructor
  · intro hr
    obtain ⟨r, hr⟩ := hr
    obtain ⟨r', hr', -⟩ := h.symm.carries hq hp hr
    exact ⟨r', hr'⟩
  · intro hr'
    obtain ⟨r', hr'⟩ := hr'
    obtain ⟨r, hr, -⟩ := h.carries hp hq hr'
    exact ⟨r, hr⟩

theorem corresponds (h : Moved move p q) (hp : p.Finished) (hq : q.Finished) {π : Policy}
    {r r' : Solution} (hr : (analyze p π).1 = .ok r) (hr' : (analyze q π).1 = .ok r') :
    r.Corresponds (Id.perm move) r' := by
  obtain ⟨r₁, hr₁, hforth⟩ := h.carries hp hq hr'
  obtain ⟨r₂, hr₂, hback⟩ := h.symm.carries hq hp hr
  cases hr.symm.trans hr₁
  cases hr'.symm.trans hr₂
  exact hforth.corresponds hback

end Moved

/-- Two descriptions that differ in the order of the statements in their bodies only: the one at
place `i` of all statements is at place `move i` in the second, in the body of the same method. -/
structure Reorders (desc : Description) (move : Equiv.Perm Nat) (desc' : Description) : Prop where
  frame : desc'.frame = desc.frame
  moved (i : Nat) : desc'.statements[move i]? = desc.statements[i]?

theorem build_eq_finish (desc : Description) :
    desc.build = desc.declareAll >>= fun ms => finish (listing ms) desc.entry := by
  rw [build_eq]
  simp only [forM_listing]
  rfl

/-- Where the bodies begin to be filled. -/
theorem declared_of_declareAll {ms : List (MethodId × Method)}
    (h : exec desc.declareAll {} = (.ok ms, d)) :
    d.program.WellFormed ∧ d.program.Registered ∧ d.program.stmts.size = 0 := by
  obtain ⟨hb, -, -⟩ := leads_declareAll desc ms d h
  have hstmts := keepsStmts_declareAll desc {}
  rw [h] at hstmts
  exact ⟨hb.wellFormed, hb.edits.registered Program.registered_empty, congrArg Table.size hstmts⟩

theorem listing_of_declareAll {ms : List (MethodId × Method)}
    (h : exec desc.declareAll {} = (.ok ms, d)) (ids : Nat → MethodId)
    (hids : ∀ i m, (ms.map Prod.fst)[i]? = some m → ids i = m) :
    listing ms = desc.statements.map fun a => (ids a.1, a.2) := by
  rw [statements, ← methods_of_declareAll h]
  apply listing_eq
  intro i a hi
  rw [Nat.zero_add]
  exact hids i a.1 (by rw [List.getElem?_map, hi, Option.map_some])

namespace Reorders

variable (h : desc.Reorders move desc')
include h

theorem entry : desc'.entry = desc.entry := by
  have hentry := congrArg Description.entry h.frame
  exact hentry

/-- What is declared does not depend on the order of the statements. -/
theorem declareAll_cases :
    (∃ e e' d d', exec desc.declareAll {} = (.error e, d) ∧
      exec desc'.declareAll {} = (.error e', d')) ∨
    ∃ ms ms' d, exec desc.declareAll {} = (.ok ms, d) ∧ exec desc'.declareAll {} = (.ok ms', d) ∧
      ∀ i, (listing ms')[move i]? = (listing ms)[i]? := by
  have hsame : exec (List.map frameOf <$> desc.declareAll) {} =
      exec (List.map frameOf <$> desc'.declareAll) {} := by
    rw [declareAll_frame, declareAll_frame, h.frame]
  rw [exec_map, exec_map] at hsame
  rcases hx : exec desc.declareAll {} with ⟨e | ms, d⟩ <;>
    rcases hx' : exec desc'.declareAll {} with ⟨e' | ms', d'⟩ <;> rw [hx, hx'] at hsame
  · exact .inl ⟨e, e', d, d', rfl, rfl⟩
  · cases hsame
  · cases hsame
  · obtain ⟨hms, rfl⟩ := Prod.mk.inj hsame
    right
    refine ⟨ms, ms', d, rfl, rfl, fun i => ?_⟩
    have hfst : ms'.map Prod.fst = ms.map Prod.fst := by
      have hmap := congrArg (List.map Prod.fst) (Except.ok.inj hms)
      rw [List.map_map, List.map_map] at hmap
      exact hmap.symm
    let ids (i : Nat) : MethodId := (ms.map Prod.fst)[i]?.getD default
    have hids (i : Nat) (m : MethodId) (hm : (ms.map Prod.fst)[i]? = some m) : ids i = m := by
      change (ms.map Prod.fst)[i]?.getD default = m
      rw [hm, Option.getD_some]
    rw [listing_of_declareAll hx ids hids, listing_of_declareAll hx' ids (hfst ▸ hids),
      List.getElem?_map, List.getElem?_map, h.moved]

theorem build_cases :
    (∃ e e', (exec desc.build {}).1 = .error e ∧ (exec desc'.build {}).1 = .error e') ∨
    ∃ p q, (exec desc.build {}).1 = .ok p ∧ (exec desc'.build {}).1 = .ok q ∧ Moved move p q := by
  rw [build_eq_finish, build_eq_finish, exec_bind, exec_bind, h.entry]
  rcases h.declareAll_cases with ⟨e, e', d, d', hx, hx'⟩ | ⟨ms, ms', d, hx, hx', hmove⟩
  · left
    exact ⟨e, e', by rw [hx], by rw [hx']⟩
  · simp only [hx, hx']
    obtain ⟨hwf, hreg, hempty⟩ := declared_of_declareAll hx
    have hmem (a : MethodId × Stmt) : a ∈ listing ms' ↔ a ∈ listing ms := mem_iff_of_move hmove a
    by_cases hok : (∀ a ∈ listing ms, a.2.Accepts d.program a.1) ∧
        (start? desc.entry d.program).isSome
    · obtain ⟨hstmts, hentry⟩ := hok
      obtain ⟨start, hstart⟩ := Option.isSome_iff_exists.mp hentry
      obtain ⟨p, root, hp, hroot, hbuild⟩ := exec_finish hwf hreg hempty hstmts hstart
      obtain ⟨q, root', hq, hroot', hbuild'⟩ := exec_finish hwf hreg hempty
        (fun a ha => hstmts a ((hmem a).mp ha)) hstart
      right
      exact ⟨_, _, hbuild, hbuild', .intro hwf hreg hp hq hmove hroot hroot'⟩
    · obtain ⟨e, hbuild⟩ := exec_finish_error hwf hreg hempty hok
      have hok' : ¬((∀ a ∈ listing ms', a.2.Accepts d.program a.1) ∧
          (start? desc.entry d.program).isSome) := by
        simpa only [hmem] using hok
      obtain ⟨e', hbuild'⟩ := exec_finish_error hwf hreg hempty hok'
      left
      exact ⟨e, e', hbuild, hbuild'⟩

end Reorders

end Description

/-- The order of the statements in the bodies matters neither to the loader nor to an analysis. -/
theorem analyze_reorder {desc desc' : Description} {move : Equiv.Perm Nat}
    (h : desc.Reorders move desc') :
    ((∃ p, (exec desc.build {}).1 = .ok p) ↔ ∃ q, (exec desc'.build {}).1 = .ok q) ∧
    ∀ p q, (exec desc.build {}).1 = .ok p → (exec desc'.build {}).1 = .ok q →
      p.Agrees (Id.perm move) q ∧
      ∀ π : Policy, ((∃ r, (analyze p π).1 = .ok r) ↔ ∃ r', (analyze q π).1 = .ok r') ∧
        ∀ r r', (analyze p π).1 = .ok r → (analyze q π).1 = .ok r' →
          r.Corresponds (Id.perm move) r' := by
  rcases h.build_cases with ⟨e, e', hx, hx'⟩ | ⟨p, q, hx, hx', hmoved⟩
  · simp [hx, hx']
  · refine ⟨⟨fun _ => ⟨q, hx'⟩, fun _ => ⟨p, hx⟩⟩, fun p₁ q₁ hp hq => ?_⟩
    cases hx.symm.trans hp
    cases hx'.symm.trans hq
    have hfinished := Description.finished_of_build (Prod.ext hx rfl)
    have hfinished' := Description.finished_of_build (Prod.ext hx' rfl)
    refine ⟨hmoved.agrees, fun π => ⟨?_, fun r r' hr hr' => ?_⟩⟩
    · exact hmoved.analyze_ok_iff_ok hfinished hfinished' π
    · exact hmoved.corresponds hfinished hfinished' hr hr'

namespace Description

/-- A program that takes something out of a box, puts it in and creates it. Two of its classes are
nowhere declared, so that they have their numbers from the order of the statements. -/
def crates (body : List Stmt) : Description where
  entry := some { cls := "Box", method := "main()V" }
  classes := [
    { name := "Box"
      fields := [{ name := "content", type := "LBox;" }]
      methods := [
        { signature := "main()V"
          isStatic := true
          locals := [{ name := "a", type := "LBox;" }, { name := "b", type := "LBox;" },
            { name := "c", type := "LBox;" }]
          body := body }] }]

def cratesBody : List Stmt :=
  [.load "c" (some "a") "Box.content", .store (some "a") "Box.content" "b", .new "b" "LLid;",
    .new "a" "LCrate;"]

def cratesMove : Equiv.Perm Nat := (Equiv.swap 0 3).trans (Equiv.swap 1 2)

theorem crates_reorders :
    (crates cratesBody).Reorders cratesMove (crates cratesBody.reverse) := by
  have hmoved : ∀ i < 4, (crates cratesBody.reverse).statements[cratesMove i]? =
      (crates cratesBody).statements[i]? := by
    decide
  refine ⟨by decide, fun i => ?_⟩
  by_cases hi : i < 4
  · exact hmoved i hi
  · have houter : Equiv.swap 0 3 i = i := Equiv.swap_apply_of_ne_of_ne (by omega) (by omega)
    have hinner : Equiv.swap 1 2 i = i := Equiv.swap_apply_of_ne_of_ne (by omega) (by omega)
    have hlength : (crates cratesBody).statements.length = 4 := by decide
    have hlength' : (crates cratesBody.reverse).statements.length = 4 := by decide
    have hnone : (crates cratesBody).statements[i]? = none := List.getElem?_eq_none (by omega)
    rw [cratesMove, Equiv.trans_apply, houter, hinner, hnone]
    exact List.getElem?_eq_none (by omega)

end Description

open Description in
/-- The object that is created at the third place is found in a variable that is set at the first
one, and also if the body is turned around. -/
theorem analyze_reorder_crates : ∃ r r',
    (crates cratesBody).Reorders cratesMove (crates cratesBody.reverse) ∧
    (exec (crates cratesBody).build {}).1 = .ok (crates cratesBody).program ∧
    (exec (crates cratesBody.reverse).build {}).1 = .ok (crates cratesBody.reverse).program ∧
    (crates cratesBody).program.Agrees (Id.perm cratesMove) (crates cratesBody.reverse).program ∧
    (analyze (crates cratesBody).program (.object 1)).1 = .ok r ∧
    (analyze (crates cratesBody.reverse).program (.object 1)).1 = .ok r' ∧
    ⟨2⟩ ∈ r.varSites ⟨2⟩ ∧ ⟨1⟩ ∈ r'.varSites ⟨2⟩ ∧ r.Corresponds (Id.perm cratesMove) r' := by
  have hp : (exec (crates cratesBody).build {}).1 = .ok (crates cratesBody).program :=
    exec_build (by decide +kernel)
  have hq : (exec (crates cratesBody.reverse).build {}).1 =
      .ok (crates cratesBody.reverse).program :=
    exec_build (by decide +kernel)
  obtain ⟨r, hr, hsite⟩ := Solution.exists_of_hasSite (p := (crates cratesBody).program)
    (π := .object 1) (v := ⟨2⟩) (s := ⟨2⟩) (b := true) (by decide +kernel)
  have hreorder := (analyze_reorder crates_reorders).2 _ _ hp hq
  obtain ⟨r', hr'⟩ := (hreorder.2 (.object 1)).1.mp ⟨r, hr⟩
  have hcorresponds := (hreorder.2 (.object 1)).2 r r' hr hr'
  have hsite' := (hcorresponds.varSites ⟨2⟩ ⟨2⟩).mpr (hsite.mpr rfl)
  exact ⟨r, r', crates_reorders, hp, hq, hreorder.1, hr, hr', hsite.mpr rfl, hsite', hcorresponds⟩

end PointsTo
