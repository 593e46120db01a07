import PointsTo.Proofs.Registry
import PointsTo.Proofs.Walks

namespace PointsTo

/-- A method without its body. -/
def MethodDecl.outline (d : MethodDecl) : MethodDecl :=
  { d with stmts := #[], returns := #[], calls := #[] }

@[simp] theorem MethodDecl.outline_cls (d : MethodDecl) : d.outline.cls = d.cls := rfl
@[simp] theorem MethodDecl.outline_this (d : MethodDecl) : d.outline.this = d.this := rfl
@[simp] theorem MethodDecl.outline_params (d : MethodDecl) : d.outline.params = d.params := rfl

/-- A variable without the statements that go through it. -/
def VarDecl.outline (d : VarDecl) : VarDecl :=
  { d with loads := #[], stores := #[], arrayLoads := #[], arrayStores := #[], calls := #[] }

/-- A class without members that extends nothing. -/
structure ClassDecl.Blank (d : ClassDecl) : Prop where
  superclass : d.superclass = none
  declared : d.declared = []
  fields : d.fields = #[]
  interface : d.isInterface = false

theorem VarDecl.outline_record (d : VarDecl) (s : StmtId) (u : Use) :
    (d.record s u).outline = d.outline := by
  cases u <;> rfl

namespace Program

variable {b p : Program}

theorem blank_of_not_holds {c : ClassId} (hc : ¬p.classes.Holds c) : (p.classDecl c).Blank := by
  rw [classDecl, Table.get_of_not_holds hc]
  exact ⟨rfl, rfl, rfl, by decide⟩

/-- `p` has the declarations of `b`, and besides at most statements and undefined classes. -/
structure Grown (b p : Program) : Prop where
  registered : p.Registered
  fields : p.fields = b.fields
  links : p.hierarchy.links = b.hierarchy.links
  methods : p.methods.size = b.methods.size
  vars : p.vars.size = b.vars.size
  method (m : MethodId) : (p.methodDecl m).outline = (b.methodDecl m).outline
  var (v : VarId) : (p.varDecl v).outline = (b.varDecl v).outline
  classes : p.classes.Extends b.classes
  undefined {c : ClassId} (hc : p.classes.Holds c) (hn : ¬b.classes.Holds c) :
    ∃ name, p.classDecl c = { id := c, name, defined := false }

namespace Grown

theorem refl (hb : b.Registered) : Grown b b where
  registered := hb
  fields := rfl
  links := rfl
  methods := rfl
  vars := rfl
  method _ := rfl
  var _ := rfl
  classes := .refl _
  undefined hc hn := (hn hc).elim

theorem mention (h : Grown b p) (name : String) : Grown b (p.mention name) := by
  have hregistered := h.registered.mention name
  cases hf : p.findClass? name with
  | some c =>
    rw [mention_of_some hf]
    exact h
  | none =>
    rw [mention_of_none hf] at hregistered ⊢
    refine { h with
      registered := hregistered
      links := Hierarchy.links_insertNode.trans h.links
      classes := Table.extends_push.trans h.classes
      undefined := ?_ }
    intro c hc hn
    have hclass : (p.pushClass { id := p.classes.nextId, name, defined := false }).classDecl c =
        if c = p.classes.nextId then { id := p.classes.nextId, name, defined := false }
        else p.classDecl c := Table.get_push
    rw [hclass]
    split
    · next hi => exact ⟨name, by rw [hi]⟩
    · next hi => exact h.undefined ((Table.holds_push.mp hc).resolve_right hi) hn

theorem pushStmt (h : Grown b p) (m : MethodId) (stmt : Stmt) : Grown b (p.pushStmt m stmt) := by
  have hcounted := h.registered.counted.pushStmt m stmt
  rw [pushStmt_eq] at hcounted ⊢
  refine { h with
    registered := h.registered.congr hcounted rfl rfl rfl (fun _ => ⟨rfl, rfl⟩) fun _ hl => .inl hl
    methods := Table.size_modify.trans h.methods, vars := ?_, method := ?_, var := ?_ }
  · cases stmt.use? with
    | none => exact h.vars
    | some w => exact Table.size_modify.trans h.vars
  · intro i
    rw [← h.method i]
    exact Table.apply_get_modify (g := MethodDecl.outline) fun _ => rfl
  · intro v
    rw [← h.var v]
    cases stmt.use? with
    | none => rfl
    | some w =>
      exact Table.apply_get_modify (g := VarDecl.outline) fun d => d.outline_record _ w.2

variable (h : Grown b p)
include h

theorem classDecl_eq {c : ClassId} (hc : b.classes.Holds c) : p.classDecl c = b.classDecl c :=
  h.classes.get hc

theorem blank {c : ClassId} (hn : ¬b.classes.Holds c) : (p.classDecl c).Blank := by
  by_cases hc : p.classes.Holds c
  · obtain ⟨name, hdecl⟩ := h.undefined hc hn
    have hflags : (.none : ClassFlags).has ClassFlags.isInterface = false := by decide
    rw [hdecl]
    exact ⟨rfl, rfl, rfl, hflags⟩
  · exact blank_of_not_holds hc

theorem size_le : b.classes.size ≤ p.classes.size := by
  by_contra hlt
  have hnext : b.classes.Holds p.classes.nextId := Nat.lt_of_not_le hlt
  exact Table.not_holds_nextId (h.classes.holds hnext)

theorem findVar?_eq (m : MethodId) (name : String) : p.findVar? m name = b.findVar? m name := by
  have hvars := congrArg MethodDecl.vars (h.method m)
  change (p.methodDecl m).vars = (b.methodDecl m).vars at hvars
  have hname (v : VarId) : (p.varDecl v).name = (b.varDecl v).name := by
    have hv := congrArg VarDecl.name (h.var v)
    exact hv
  simp only [findVar?, hvars, hname]

theorem declaredField?_eq (c : ClassId) (name : String) :
    p.declaredField? c name = b.declaredField? c name := by
  have hfield (f : FieldId) : p.fieldDecl f = b.fieldDecl f := by
    rw [fieldDecl, fieldDecl, h.fields]
  simp only [declaredField?, hfield]
  by_cases hc : b.classes.Holds c
  · rw [h.classDecl_eq hc]
  · rw [(h.blank hc).fields, (blank_of_not_holds hc).fields]

theorem checkVar_eq (m : MethodId) (v : VarId) : p.checkVar m v = b.checkVar m v := by
  have hlabel := congrArg MethodDecl.label (h.method m)
  change p.methodLabel m = b.methodLabel m at hlabel
  have hholds : p.vars.Holds v ↔ b.vars.Holds v := by rw [Table.Holds, Table.Holds, h.vars]
  by_cases hv : b.vars.Holds v
  · have hmethod := congrArg VarDecl.method (h.var v)
    have hname := congrArg VarDecl.name (h.var v)
    change (p.vars.get v).method = (b.vars.get v).method at hmethod
    change (p.vars.get v).name = (b.vars.get v).name at hname
    rw [checkVar, checkVar, Table.get?_of_holds hv, Table.get?_of_holds (hholds.mpr hv)]
    simp only [hmethod, hname, hlabel]
  · have hnone {t : Table .var VarDecl} (ht : ¬t.Holds v) : t.get? v = none := by
      cases hg : t.get? v with
      | none => rfl
      | some d => exact (ht (Table.holds_of_get? hg)).elim
    have hp : ¬p.vars.Holds v := fun hp => hv (hholds.mp hp)
    rw [checkVar, checkVar, hnone hv, hnone hp]

/-- What can be added to a body does not depend on what is there. -/
theorem checkStmt_eq (m : MethodId) (stmt : Stmt) : p.checkStmt m stmt = b.checkStmt m stmt := by
  have hflags := congrArg MethodDecl.flags (h.method m)
  change (p.methodDecl m).flags = (b.methodDecl m).flags at hflags
  have hlabel := congrArg MethodDecl.label (h.method m)
  change (p.methodDecl m).label = (b.methodDecl m).label at hlabel
  have hvar : p.checkVar m = b.checkVar m := funext (h.checkVar_eq m)
  have hshape : p.checkShape stmt = b.checkShape stmt := by
    have haccess : p.checkAccess = b.checkAccess := by
      funext base f
      simp only [checkAccess, fieldDecl, fieldLabel, h.fields]
    cases stmt <;> simp only [checkShape, haccess]
  simp only [checkStmt, MethodDecl.isAbstract, MethodDecl.isNative, hflags, hlabel, hvar, hshape]
  rfl

/-- A name that is known in both programs stands for a declared class, and one that is not declared
stands for a class without members. -/
theorem findClass?_cases (hb : b.Registered) (name : String) :
    (∃ c, b.classes.Holds c ∧ b.findClass? name = some c ∧ p.findClass? name = some c) ∨
      b.findClass? name = none ∧ ∀ c, p.findClass? name = some c → ¬b.classes.Holds c := by
  cases hf : b.findClass? name with
  | some c =>
    obtain ⟨hc, hname⟩ := hb.name.mp hf
    refine .inl ⟨c, hc, rfl, h.registered.name.mpr ⟨h.classes.holds hc, ?_⟩⟩
    rw [h.classDecl_eq hc, hname]
  | none =>
    refine .inr ⟨rfl, fun c hp hc => ?_⟩
    have hname := (h.registered.name.mp hp).2
    rw [h.classDecl_eq hc] at hname
    rw [hb.name.mpr ⟨hc, hname⟩] at hf
    cases hf

theorem superclassesWithin_eq (hb : b.WellFormed) {c : ClassId} (hc : b.classes.Holds c)
    (fuel : Nat) : p.superclassesWithin fuel (some c) = b.superclassesWithin fuel (some c) := by
  induction fuel generalizing c with
  | zero => rfl
  | succ fuel ih =>
    rw [superclassesWithin, superclassesWithin, h.classDecl_eq hc]
    cases hs : (b.classDecl c).superclass with
    | none => rw [superclassesWithin_none, superclassesWithin_none]
    | some sup => rw [ih (hb.superclass hs)]

end Grown

/-- The field that the class of a name declares or inherits under a name. -/
def findField? (p : Program) (className name : String) : Option FieldId :=
  (p.findClass? className).bind fun c =>
    (p.superclassChain c).findSome? fun sup => p.declaredField? sup name

theorem Grown.findField?_eq (h : Grown b p) (hb : b.WellFormed) (hr : b.Registered)
    (className name : String) : p.findField? className name = b.findField? className name := by
  have hdeclared : (fun c => p.declaredField? c name) = fun c => b.declaredField? c name :=
    funext fun c => h.declaredField?_eq c name
  rw [findField?, findField?, hdeclared]
  rcases h.findClass?_cases hr className with ⟨c, hc, hfb, hfp⟩ | ⟨hfb, hfp⟩
  · rw [hfb, hfp, Option.bind_some, Option.bind_some, superclassChain,
      h.superclassesWithin_eq hb hc, hb.findSome?_superclassesWithin hc h.size_le]
  · rw [hfb, Option.bind_none, Option.bind_eq_none_iff]
    intro c hf
    rw [List.findSome?_eq_none_iff]
    intro d hd
    have hdc : d = c := by
      cases hfuel : p.classes.size with
      | zero =>
        rw [superclassChain, hfuel] at hd
        cases hd
      | succ fuel =>
        rw [superclassChain, hfuel, superclassesWithin, (h.blank (hfp c hf)).superclass,
          superclassesWithin_none] at hd
        exact List.mem_singleton.mp hd
    rw [← h.declaredField?_eq, declaredField?, hdc, (h.blank (hfp c hf)).fields]
    rfl

end Program

end PointsTo
