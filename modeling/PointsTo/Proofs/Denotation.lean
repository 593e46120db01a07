import PointsTo.Proofs.Declarations
import PointsTo.Proofs.StatementOrder

namespace PointsTo

/-- The numbers of a stretch are picked out of all numbers. -/
theorem filter_range_of_stretch {P : Nat → Bool} {a b c : Nat} (ha : ∀ i < a, P i = false)
    (hb : ∀ i < b, P (a + i) = true) (hc : ∀ i < c, P (a + b + i) = false) :
    (List.range (a + b + c)).filter P = List.range' a b := by
  have hsplit :
      List.range (a + b + c) = List.range a ++ List.range' a b ++ List.range' (a + b) c := by
    rw [List.range_eq_range', ← List.range'_append_1, ← List.range'_append_1, Nat.zero_add,
      Nat.zero_add, List.range_eq_range']
  have hfirst : (List.range a).filter P = [] := by
    apply List.filter_eq_nil_iff.mpr
    intro i hi
    rw [ha i (List.mem_range.mp hi)]
    exact Bool.false_ne_true
  have hmiddle : (List.range' a b).filter P = List.range' a b := by
    apply List.filter_eq_self.mpr
    intro i hi
    obtain ⟨j, hj, rfl⟩ := List.mem_range'.mp hi
    simpa using hb j hj
  have hlast : (List.range' (a + b) c).filter P = [] := by
    apply List.filter_eq_nil_iff.mpr
    intro i hi
    obtain ⟨j, hj, rfl⟩ := List.mem_range'.mp hi
    simpa using hc j hj
  rw [hsplit, List.filter_append, List.filter_append, hfirst, hmiddle, hlast, List.nil_append,
    List.append_nil]

namespace Description

/-- A list stands as a whole among the lists that are put one after the other. -/
theorem blocks_split {α : Type} {l : List (List α)} {k : Nat} {b : List α} (h : l[k]? = some b) :
    ∃ pre post, blocks l = pre ++ b.map (fun x => (k, x)) ++ post ∧
      pre.length = (l.take k).flatten.length ∧ (∀ a ∈ pre, a.1 ≠ k) ∧ ∀ a ∈ post, a.1 ≠ k := by
  obtain ⟨hk, rfl⟩ := List.getElem?_eq_some_iff.mp h
  have hlen : (l.take k).length = k := List.length_take_of_le (Nat.le_of_lt hk)
  have hsplit : l = l.take k ++ l[k] :: l.drop (k + 1) := by
    rw [← List.drop_eq_getElem_cons hk, List.take_append_drop]
  refine ⟨(l.take k).zipIdx.flatMap fun a => a.1.map fun x => (a.2, x),
    ((l.drop (k + 1)).zipIdx (k + 1)).flatMap fun a => a.1.map fun x => (a.2, x), ?_, ?_, ?_, ?_⟩
  · conv_lhs => rw [blocks, hsplit]
    rw [List.zipIdx_append, List.flatMap_append, hlen, List.zipIdx_cons, List.flatMap_cons,
      Nat.zero_add, List.append_assoc]
  · rw [List.length_flatMap, List.length_flatten]
    congr 1
    calc ((l.take k).zipIdx.map fun a => (a.1.map fun x => (a.2, x)).length)
      _ = ((l.take k).zipIdx.map Prod.fst).map List.length := by
        rw [List.map_map]
        simp [Function.comp_def]
      _ = (l.take k).map List.length := by rw [List.zipIdx_map_fst]
  · intro a ha he
    obtain ⟨⟨xs, j⟩, hj, hmem⟩ := List.mem_flatMap.mp ha
    obtain ⟨x, -, rfl⟩ := List.mem_map.mp hmem
    have hlt := List.snd_lt_of_mem_zipIdx hj
    dsimp only at he
    omega
  · intro a ha he
    obtain ⟨⟨xs, j⟩, hj, hmem⟩ := List.mem_flatMap.mp ha
    obtain ⟨x, -, rfl⟩ := List.mem_map.mp hmem
    have hle := List.le_snd_of_mem_zipIdx hj
    dsimp only at he
    omega

/-- Of the lists that are put one after the other, one can be read off. -/
theorem filter_blocks {α : Type} {l : List (List α)} {k : Nat} {b : List α} (h : l[k]? = some b) :
    ((blocks l).filter fun a => a.1 = k).map Prod.snd = b := by
  obtain ⟨pre, post, hblocks, -, hpre, hpost⟩ := blocks_split h
  have hnone {part : List (Nat × α)} (hpart : ∀ a ∈ part, a.1 ≠ k) :
      (part.filter fun a => a.1 = k) = [] :=
    List.filter_eq_nil_iff.mpr fun a ha he => hpart a ha (of_decide_eq_true he)
  have hmiddle : ((b.map fun x => (k, x)).filter fun a => a.1 = k) = b.map fun x => (k, x) := by
    apply List.filter_eq_self.mpr
    intro a ha
    obtain ⟨x, -, rfl⟩ := List.mem_map.mp ha
    exact decide_eq_true rfl
  rw [hblocks, List.filter_append, List.filter_append, hnone hpre, hnone hpost, hmiddle,
    List.nil_append, List.append_nil, List.map_map]
  exact List.map_id b

end Description

namespace Table

variable {κ κ' : Entity} {α : Type} {t : Table κ α} {P : α → Bool} {listed : Array (Id κ)}

theorem length_ids : t.ids.length = t.size := by rw [ids, List.length_map, List.length_range]

theorem eq_of_getElem?_ids {i : Nat} {j : Id κ} (h : t.ids[i]? = some j) : ⟨i⟩ = j := by
  obtain ⟨hi, rfl⟩ := List.getElem?_eq_some_iff.mp h
  simp [ids]

/-- Rows that are added block by block are listed as a block. -/
theorem Lists.block {key : Id κ → Id κ'} {k : Nat} (h : t.Lists (fun i => key i = ⟨k⟩) listed)
    {β : Type} {l : List (List β)}
    (hkeys : t.ids.map key = (Description.blocks l).map fun a => ⟨a.1⟩) {b : List β}
    (hb : l[k]? = some b) :
    listed.toList = (List.range' (l.take k).flatten.length b.length).map Id.mk := by
  obtain ⟨pre, post, hblocks, hlen, hpre, hpost⟩ := Description.blocks_split hb
  have hrow {i : Nat} {a : Nat × β} (hi : (Description.blocks l)[i]? = some a) :
      decide (key ⟨i⟩ = ⟨k⟩) = decide (a.1 = k) := by
    have hget : (t.ids.map key)[i]? = some ⟨a.1⟩ := by rw [hkeys, List.getElem?_map, hi]; rfl
    rw [ids, List.map_map, List.getElem?_map] at hget
    obtain ⟨j, hj, he⟩ := Option.map_eq_some_iff.mp hget
    obtain ⟨hlt, rfl⟩ := List.getElem?_eq_some_iff.mp hj
    rw [List.getElem_range] at he
    have hkey : key ⟨i⟩ = ⟨a.1⟩ := he
    simp [hkey]
  have hsize : t.size = pre.length + b.length + post.length := by
    have hlength := congrArg List.length hkeys
    rw [List.length_map, List.length_map, length_ids, hblocks] at hlength
    simpa [Nat.add_assoc] using hlength
  rw [h, ids, hsize, List.filter_map,
    filter_range_of_stretch (a := pre.length) (b := b.length), hlen]
  · intro i hi
    have hget : (Description.blocks l)[i]? = some pre[i] := by
      rw [hblocks, List.append_assoc, List.getElem?_append_left hi, List.getElem?_eq_getElem hi]
    exact (hrow hget).trans (decide_eq_false (hpre _ (List.getElem_mem hi)))
  · intro i hi
    have hget : (Description.blocks l)[pre.length + i]? = some (k, b[i]) := by
      rw [hblocks, List.append_assoc, List.getElem?_append_right (Nat.le_add_right _ _),
        Nat.add_sub_cancel_left, List.getElem?_append_left (by simpa using hi)]
      simp [hi]
    exact (hrow hget).trans (decide_eq_true rfl)
  · intro i hi
    have hget : (Description.blocks l)[pre.length + b.length + i]? = some post[i] := by
      rw [hblocks, List.getElem?_append_right (by simp), List.length_append, List.length_map,
        Nat.add_sub_cancel_left, List.getElem?_eq_getElem hi]
    exact (hrow hget).trans (decide_eq_false (hpost _ (List.getElem_mem hi)))

variable [Inhabited α]

theorem toList_eq : t.toList = t.ids.map t.get := by
  apply List.ext_getElem?
  intro i
  rw [getElem?_toList, List.getElem?_map, ids, List.getElem?_map]
  by_cases hi : i < t.size
  · rw [List.getElem?_range hi]
    exact get?_of_holds (i := ⟨i⟩) hi
  · rw [List.getElem?_eq_none (by rw [List.length_range]; omega)]
    cases hg : t.get? ⟨i⟩ with
    | none => rfl
    | some a => exact (hi (holds_of_get? hg)).elim

/-- The rows that are listed, in order. -/
theorem Lists.map_get (h : t.Lists (fun i => P (t.get i)) listed) :
    listed.toList.map t.get = t.toList.filter P := by
  rw [h, toList_eq, List.filter_map]
  rfl

/-- Tables of the same size with rows that agree in something. -/
theorem map_toList_congr {u : Table κ α} {β : Type} {f : α → β} (hsize : t.size = u.size)
    (h : ∀ i, f (t.get i) = f (u.get i)) : t.toList.map f = u.toList.map f := by
  have hids : t.ids = u.ids := by rw [ids, ids, hsize]
  rw [toList_eq, toList_eq, List.map_map, List.map_map, hids]
  exact List.map_congr_left fun i _ => h i

end Table

/-- The variables of a method in order, each with its type. -/
def Program.variables (p : Program) (m : MethodId) : List (String × Ty) :=
  (p.methodDecl m).vars.toList.map fun v => ((p.varDecl v).name, (p.varDecl v).type)

section Relations

variable {α β : Type} {R : α → β → Prop} {l : List α} {u : List β}

theorem forall₂_iff_getElem? : List.Forall₂ R l u ↔ l.length = u.length ∧
    ∀ (i : Nat) (a : α) (b : β), l[i]? = some a → u[i]? = some b → R a b := by
  rw [List.forall₂_iff_get]
  refine and_congr_right fun _ => ⟨fun h i a b ha hb => ?_, fun h i hl hu => ?_⟩
  · obtain ⟨hl, rfl⟩ := List.getElem?_eq_some_iff.mp ha
    obtain ⟨hu, rfl⟩ := List.getElem?_eq_some_iff.mp hb
    exact h i hl hu
  · exact h i _ _ (List.getElem?_eq_getElem hl) (List.getElem?_eq_getElem hu)

theorem exists_of_forall₂_left (h : List.Forall₂ R l u) {i : Nat} {a : α} (ha : l[i]? = some a) :
    ∃ b, u[i]? = some b ∧ R a b := by
  obtain ⟨hlen, hall⟩ := forall₂_iff_getElem?.mp h
  have hi : i < u.length := hlen ▸ (List.getElem?_eq_some_iff.mp ha).1
  have hb := List.getElem?_eq_getElem hi
  exact ⟨u[i], hb, hall i a u[i] ha hb⟩

theorem exists_of_forall₂_right (h : List.Forall₂ R l u) {i : Nat} {b : β} (hb : u[i]? = some b) :
    ∃ a, l[i]? = some a ∧ R a b :=
  exists_of_forall₂_left (R := fun b a => R a b) h.flip hb

theorem forall₂_of_mapM {f : α → Option β} (hf : ∀ a b, f a = some b → R a b)
    (h : l.mapM f = some u) : List.Forall₂ R l u := by
  induction l generalizing u with
  | nil =>
    rw [List.mapM_nil] at h
    cases h
    exact .nil
  | cons a l ih =>
    rw [List.mapM_cons] at h
    obtain ⟨b, hb, h⟩ := Option.bind_eq_some_iff.mp h
    obtain ⟨bs, hbs, h⟩ := Option.bind_eq_some_iff.mp h
    cases h
    exact .cons (hf a b hb) (ih hbs)

theorem forall₂_of_mapM? {f : α → Option β} (hf : ∀ a b, f a = some b → R a b) {a : Option α}
    {b : Option β} (h : a.mapM f = some b) : List.Forall₂ R a.toList b.toList := by
  cases a with
  | none =>
    cases h
    exact .nil
  | some a =>
    obtain ⟨x, hx, rfl⟩ := Option.map_eq_some_iff.mp h
    exact .cons (hf a x hx) .nil

end Relations

namespace Description

open Draft

variable {desc : Description} {d : Draft} {p : Program} {m : MethodId}

theorem mem_members {α : Type} {f : Class → List α} {classes : List Class} {a : Member α} :
    a ∈ members f classes ↔ classes[a.number]? = some a.cls ∧ a.item ∈ f a.cls := by
  simp only [members, List.mem_flatMap, List.mem_map]
  constructor
  · intro h
    obtain ⟨⟨c, i⟩, hc, x, hx, rfl⟩ := h
    exact ⟨List.mem_zipIdx_iff_getElem?.mp hc, hx⟩
  · intro h
    exact ⟨(a.cls, a.number), List.mem_zipIdx_iff_getElem?.mpr h.1, a.item, h.2, rfl⟩

/-- Where rows are declared as members are described, every row is one of these members. -/
theorem exists_member_of_holds {κ : Entity} {α β : Type} [Inhabited β] {t : Table κ β}
    {f : Class → List α} {classes : List Class} {R : Member α → β → Prop}
    (h : List.Forall₂ R (members f classes) t.toList) {i : Id κ} (hi : t.Holds i) :
    ∃ a, classes[a.number]? = some a.cls ∧ a.item ∈ f a.cls ∧ R a (t.get i) := by
  have hget : t.toList[i.index]? = some (t.get i) := by
    rw [Table.getElem?_toList]
    exact Table.get?_of_holds hi
  obtain ⟨a, ha, hrow⟩ := exists_of_forall₂_right h hget
  obtain ⟨hc, hitem⟩ := mem_members.mp (List.mem_of_getElem? ha)
  exact ⟨a, hc, hitem, hrow⟩

/-- A variable of the method has the name. If others have it too then it is the first of them. -/
structure NamesVar (p : Program) (m : MethodId) (x : String) (v : VarId) : Prop where
  mem : v ∈ (p.methodDecl m).vars
  name : (p.varDecl v).name = x
  first : ∀ w ∈ (p.methodDecl m).vars, (p.varDecl w).name = x → v.index ≤ w.index

/-- From the class of the first name up the described superclasses, the class of the second name is
the first one that declares the field. -/
inductive Inherits (desc : Description) (field : String) : String → String → Prop
  | declares {c : Class} (hc : c ∈ desc.classes) (hf : ∃ f ∈ c.fields, f.name = field) :
      Inherits desc field c.name c.name
  | inherits {c : Class} {superclass owner : String} (hc : c ∈ desc.classes)
      (hf : ∀ f ∈ c.fields, f.name ≠ field) (hs : c.superclass = some superclass)
      (h : Inherits desc field superclass owner) : Inherits desc field c.name owner

/-- A reference `Class.field` to a field that the class declares or inherits. -/
def NamesField (desc : Description) (p : Program) (reference : String) (f : FieldId) : Prop :=
  ∃ r, MemberRef.parse? reference = some r ∧ p.fields.Holds f ∧ (p.fieldDecl f).name = r.member ∧
    desc.Inherits r.member r.cls (p.fieldDecl f).className

/-- A statement of a method is the one that is described. -/
inductive Denotes (desc : Description) (p : Program) (m : MethodId) :
    Description.Stmt → PointsTo.Stmt → Prop
  | new {target type : String} {x : VarId} {t : Ty} (hx : NamesVar p m target x)
      (ht : Ty.parse? type = some t) : Denotes desc p m (.new target type) (.new x t)
  | copy {target source : String} {x y : VarId} (hx : NamesVar p m target x)
      (hy : NamesVar p m source y) : Denotes desc p m (.copy target source) (.copy x y)
  | load {target field : String} {base : Option String} {x : VarId} {b : Option VarId}
      {f : FieldId} (hx : NamesVar p m target x)
      (hb : List.Forall₂ (NamesVar p m) base.toList b.toList) (hf : NamesField desc p field f) :
      Denotes desc p m (.load target base field) (.load x b f)
  | store {field source : String} {base : Option String} {y : VarId} {b : Option VarId}
      {f : FieldId} (hb : List.Forall₂ (NamesVar p m) base.toList b.toList)
      (hf : NamesField desc p field f) (hy : NamesVar p m source y) :
      Denotes desc p m (.store base field source) (.store b f y)
  | arrayLoad {target array index : String} {x a i : VarId} (hx : NamesVar p m target x)
      (ha : NamesVar p m array a) (hi : NamesVar p m index i) :
      Denotes desc p m (.arrayLoad target array index) (.arrayLoad x a i)
  | arrayStore {array index source : String} {a i y : VarId} (ha : NamesVar p m array a)
      (hi : NamesVar p m index i) (hy : NamesVar p m source y) :
      Denotes desc p m (.arrayStore array index source) (.arrayStore a i y)
  | invoke {method : String} {receiver result : Option String} {args : List String} {r : MemberRef}
      {call : Call} (hr : MemberRef.parse? method = some r)
      (hc : p.Names r.cls call.target.cls)
      (hg : Signature.parse? r.member = some call.target.signature)
      (hrecv : List.Forall₂ (NamesVar p m) receiver.toList call.receiver.toList)
      (hargs : List.Forall₂ (NamesVar p m) args call.args)
      (hx : List.Forall₂ (NamesVar p m) result.toList call.result.toList) :
      Denotes desc p m (.invoke call.kind method receiver args result) (.invoke call)
  | ret {value : Option String} {v : Option VarId}
      (hv : List.Forall₂ (NamesVar p m) value.toList v.toList) :
      Denotes desc p m (.ret value) (.ret v)

/-- A statement that is read with names that stand for what they name is the one that is described.
-/
theorem denotes_of_read? {b : Program} {lookup : String → Option ClassId}
    (hvar : ∀ x v, b.findVar? m x = some v → NamesVar p m x v)
    (hfield : ∀ r f, b.readField? r = some f → NamesField desc p r f)
    (hclass : ∀ n c, lookup n = some c → p.Names n c) {s : Stmt} {stmt : PointsTo.Stmt}
    (h : s.read? b m lookup = some stmt) : Denotes desc p m s stmt := by
  cases s with
  | new target type =>
    obtain ⟨x, hx, h⟩ := Option.bind_eq_some_iff.mp h
    obtain ⟨t, ht, h⟩ := Option.bind_eq_some_iff.mp h
    cases h
    exact .new (hvar _ _ hx) ht
  | copy target source =>
    obtain ⟨x, hx, h⟩ := Option.bind_eq_some_iff.mp h
    obtain ⟨y, hy, h⟩ := Option.bind_eq_some_iff.mp h
    cases h
    exact .copy (hvar _ _ hx) (hvar _ _ hy)
  | load target base f =>
    obtain ⟨x, hx, h⟩ := Option.bind_eq_some_iff.mp h
    obtain ⟨y, hy, h⟩ := Option.bind_eq_some_iff.mp h
    obtain ⟨g, hg, h⟩ := Option.bind_eq_some_iff.mp h
    cases h
    exact .load (hvar _ _ hx) (forall₂_of_mapM? hvar hy) (hfield _ _ hg)
  | store base f source =>
    obtain ⟨y, hy, h⟩ := Option.bind_eq_some_iff.mp h
    obtain ⟨g, hg, h⟩ := Option.bind_eq_some_iff.mp h
    obtain ⟨x, hx, h⟩ := Option.bind_eq_some_iff.mp h
    cases h
    exact .store (forall₂_of_mapM? hvar hy) (hfield _ _ hg) (hvar _ _ hx)
  | arrayLoad target array index =>
    obtain ⟨x, hx, h⟩ := Option.bind_eq_some_iff.mp h
    obtain ⟨a, ha, h⟩ := Option.bind_eq_some_iff.mp h
    obtain ⟨i, hi, h⟩ := Option.bind_eq_some_iff.mp h
    cases h
    exact .arrayLoad (hvar _ _ hx) (hvar _ _ ha) (hvar _ _ hi)
  | arrayStore array index source =>
    obtain ⟨a, ha, h⟩ := Option.bind_eq_some_iff.mp h
    obtain ⟨i, hi, h⟩ := Option.bind_eq_some_iff.mp h
    obtain ⟨y, hy, h⟩ := Option.bind_eq_some_iff.mp h
    cases h
    exact .arrayStore (hvar _ _ ha) (hvar _ _ hi) (hvar _ _ hy)
  | invoke kind method receiver args result =>
    obtain ⟨recv, hrecv, h⟩ := Option.bind_eq_some_iff.mp h
    obtain ⟨as, has, h⟩ := Option.bind_eq_some_iff.mp h
    obtain ⟨x, hx, h⟩ := Option.bind_eq_some_iff.mp h
    obtain ⟨r, hr, h⟩ := Option.bind_eq_some_iff.mp h
    obtain ⟨g, hg, h⟩ := Option.bind_eq_some_iff.mp h
    obtain ⟨c, hc, h⟩ := Option.bind_eq_some_iff.mp h
    cases h
    let call : Call := ⟨kind, ⟨c, g⟩, recv, as, x⟩
    have hcls : p.Names r.cls call.target.cls := hclass _ _ hc
    exact .invoke hr hcls hg (forall₂_of_mapM? hvar hrecv) (forall₂_of_mapM hvar has)
      (forall₂_of_mapM? hvar hx)
  | ret value =>
    obtain ⟨v, hv, h⟩ := Option.bind_eq_some_iff.mp h
    cases h
    exact .ret (forall₂_of_mapM? hvar hv)

/-- What is found under a name is the first variable that has it, as variables are listed in order.
-/
theorem namesVar_of_findVar? (hp : p.Represented) {x : String} {v : VarId}
    (h : p.findVar? m x = some v) : NamesVar p m x v := by
  have hsorted : (p.methodDecl m).vars.toList.Pairwise fun v w => v.index < w.index := by
    rw [hp.vars m, Table.ids]
    apply List.Pairwise.filter
    exact List.pairwise_map.mpr List.pairwise_lt_range
  obtain ⟨hname, pre, post, hvars, hpre⟩ := List.find?_eq_some_iff_append.mp h
  rw [decide_eq_true_eq] at hname
  refine ⟨Array.mem_toList_iff.mp (by rw [hvars]; simp), hname, fun w hw hwx => ?_⟩
  rw [← Array.mem_toList_iff, hvars, List.mem_append, List.mem_cons] at hw
  rw [hvars] at hsorted
  rcases hw with hw | rfl | hw
  · have hnot := hpre w hw
    simp [hwx] at hnot
  · exact Nat.le_refl _
  · have hrest := (List.pairwise_append.mp hsorted).2.1
    exact Nat.le_of_lt ((List.pairwise_cons.mp hrest).1 w hw)

/-- All that a description declares is declared. -/
abbrev AllDeclared (desc : Description) (d : Draft) : Prop :=
  Declared desc.classes (supertypes desc.classes) (members Class.fields desc.classes)
    (members Class.methods desc.classes) d

section Declarations

variable (hd : desc.AllDeclared d)
include hd

/-- A described field is found in its class. -/
theorem isSome_declaredField? {i : Nat} {c : Class} (hc : desc.classes[i]? = some c) {f : Field}
    (hf : f ∈ c.fields) : (d.program.declaredField? ⟨i⟩ f.name).isSome := by
  have hmem : (⟨i, c, f⟩ : Member Field) ∈ members Class.fields desc.classes :=
    mem_members.mpr ⟨hc, hf⟩
  obtain ⟨j, hj⟩ := List.mem_iff_getElem?.mp hmem
  obtain ⟨decl, hdecl, hdeclared⟩ := exists_of_forall₂_left hd.fields hj
  rw [Table.getElem?_toList] at hdecl
  have hget : d.program.fields.get ⟨j⟩ = decl := Table.get_of_get? hdecl
  have hlisted : (⟨j⟩ : FieldId) ∈ (d.program.classDecl ⟨i⟩).fields := by
    rw [(hd.built.edits.represented.fields ⟨i⟩).mem_iff, Program.fieldDecl, hget]
    exact ⟨Table.holds_of_get? hdecl, decide_eq_true hdeclared.cls⟩
  apply List.find?_isSome.mpr
  refine ⟨⟨j⟩, Array.mem_toList_iff.mpr hlisted, ?_⟩
  rw [decide_eq_true_eq, Program.fieldDecl, hget]
  exact hdeclared.name

/-- What is found in a class is a field that it is described with. -/
theorem of_declaredField? {c : ClassId} {name : String} {f : FieldId}
    (h : d.program.declaredField? c name = some f) :
    d.program.fields.Holds f ∧ (d.program.fieldDecl f).name = name ∧
      ∃ cls, desc.classes[c.index]? = some cls ∧ (∃ g ∈ cls.fields, g.name = name) ∧
        (d.program.fieldDecl f).className = cls.name := by
  have hmem : f ∈ (d.program.classDecl c).fields :=
    Array.mem_toList_iff.mp (List.mem_of_find?_eq_some h)
  have hname := List.find?_some h
  rw [decide_eq_true_eq] at hname
  obtain ⟨hholds, hcls⟩ := (hd.built.edits.represented.fields c).mem_iff.mp hmem
  rw [decide_eq_true_eq] at hcls
  obtain ⟨a, ha, hitem, hdecl⟩ := exists_member_of_holds hd.fields hholds
  have hindex : c.index = a.number := by
    rw [← hcls]
    exact congrArg Id.index hdecl.cls
  refine ⟨hholds, hname, a.cls, hindex ▸ ha, ⟨a.item, hitem, ?_⟩, hdecl.className⟩
  rw [← hdecl.name]
  exact hname

/-- A field that is found on the superclass chain of a class is the first one on the described
chain. -/
theorem inherits_of_findSome? {fuel : Nat} {c : ClassId} {name : String} {f : FieldId}
    (h : (d.program.superclassesWithin fuel (some c)).findSome?
      (d.program.declaredField? · name) = some f) :
    d.program.fields.Holds f ∧ (d.program.fieldDecl f).name = name ∧
      desc.Inherits name (d.program.classDecl c).name (d.program.fieldDecl f).className := by
  induction fuel generalizing c with
  | zero => cases h
  | succ fuel ih =>
    rw [Program.superclassesWithin, List.findSome?_cons] at h
    cases hfield : d.program.declaredField? c name with
    | some g =>
      rw [hfield] at h
      cases h
      obtain ⟨hholds, hname, cls, hcls, hg, hclass⟩ := of_declaredField? hd hfield
      refine ⟨hholds, hname, ?_⟩
      rw [hclass, (hd.headed.described hcls).1]
      exact .declares (List.mem_of_getElem? hcls) hg
    | none =>
      simp only [hfield] at h
      cases hsup : (d.program.classDecl c).superclass with
      | none =>
        rw [hsup, Program.superclassesWithin_none] at h
        cases h
      | some sup =>
        rw [hsup] at h
        obtain ⟨hholds, hname, hinherits⟩ := ih h
        have hsups := hd.headed.superclass c
        rw [hsup, supertypes] at hsups
        cases hcls : desc.classes[c.index]? with
        | none =>
          rw [hcls] at hsups
          cases hsups
        | some cls =>
          cases hs : cls.superclass with
          | none =>
            simp only [hcls, Option.map_some, Option.getD_some, hs] at hsups
            cases hsups
          | some superclass =>
            simp only [hcls, Option.map_some, Option.getD_some, hs] at hsups
            obtain ⟨hnames, -⟩ := List.forall₂_cons.mp hsups
            rw [(hd.registered.name.mp hnames).2] at hinherits
            refine ⟨hholds, hname, ?_⟩
            rw [(hd.headed.described hcls).1]
            refine .inherits (List.mem_of_getElem? hcls) (fun g hg he => ?_) hs hinherits
            have hsome := isSome_declaredField? hd hcls hg
            rw [he, hfield] at hsome
            cases hsome

theorem namesField_of_readField? {reference : String} {f : FieldId}
    (h : d.program.readField? reference = some f) : NamesField desc d.program reference f := by
  obtain ⟨r, hr, h⟩ := Option.bind_eq_some_iff.mp h
  obtain ⟨c, hc, h⟩ := Option.bind_eq_some_iff.mp h
  obtain ⟨hholds, hname, hinherits⟩ := inherits_of_findSome? hd h
  rw [(hd.registered.name.mp hc).2] at hinherits
  exact ⟨r, hr, hholds, hname, hinherits⟩

end Declarations

end Description

end PointsTo
