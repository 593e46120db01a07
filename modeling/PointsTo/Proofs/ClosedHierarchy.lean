import Mathlib.Order.WellFoundedSet
import PointsTo.Proofs.Bodies
import PointsTo.Proofs.Completion
import PointsTo.Proofs.MethodLookup

namespace PointsTo

namespace Program

variable {p b : Program} {root c sup : ClassId} {α : Type}

/-- No class is among the superclasses of its superclass. -/
def AcyclicChains (p : Program) : Prop :=
  ∀ c sup, (p.classDecl c).superclass = some sup → ¬p.OnChain sup c

theorem FiniteChains.acyclicChains (h : p.FiniteChains) : p.AcyclicChains := by
  intro c sup hsup hchain
  have hup : p.OnChain c sup := .single hsup
  have heq : c = sup := h.antisymm hup hchain
  subst heq
  exact h.irrefl.irrefl c hsup

/-- Where there are finitely many classes, a chain that does not end is a circle. -/
theorem AcyclicChains.finiteChains (h : p.AcyclicChains) (hwf : p.WellFormed) :
    p.FiniteChains := by
  let above : ClassId → ClassId → Prop := fun sup sub => (p.classDecl sub).superclass = some sup
  let held : Set ClassId := {c | p.classes.Holds c}
  have hfinite : held.Finite := by
    apply (List.finite_toSet p.classes.ids).subset
    intro c hc
    exact Table.mem_ids.mpr hc
  have hirrefl : Std.Irrefl (Relation.TransGen above) := by
    constructor
    intro c hc
    obtain ⟨sup, hsup, hchain⟩ := Relation.TransGen.head'_iff.mp (Relation.transGen_swap.mp hc)
    exact h c sup hsup hchain
  have hstrict : IsStrictOrder ClassId (Relation.TransGen above) := {}
  have hheld : held.WellFoundedOn (Relation.TransGen above) := hfinite.wellFoundedOn
  refine Subrelation.wf ?_ (Set.wellFoundedOn_iff.mp hheld)
  intro sup c hsup
  have hc : p.classes.Holds c := by
    by_contra hn
    rw [(blank_of_not_holds hn).superclass] at hsup
    cases hsup
  exact ⟨.single hsup, hwf.superclass hsup, hc⟩

/-- Going up the superclasses until `f` finds something or there is no superclass. A walk that does
not end has no outcome. -/
inductive Climb (p : Program) (f : ClassId → Option α) : Option ClassId → Option α → Prop
  | out : Climb p f none none
  | found {c : ClassId} {a : α} (h : f c = some a) : Climb p f (some c) (some a)
  | up {c : ClassId} {a? : Option α} (h : f c = none)
      (hup : Climb p f (p.classDecl c).superclass a?) : Climb p f (some c) a?

theorem WellFormed.superclassChain_cons (h : p.WellFormed) (hchains : p.FiniteChains)
    (hc : p.classes.Holds c) :
    p.superclassChain c = c :: ((p.classDecl c).superclass.toList.flatMap p.superclassChain) := by
  rw [← h.superclassChain_eq hchains hc (Nat.le_succ _), superclassesWithin]
  cases hsup : (p.classDecl c).superclass with
  | none => rw [superclassesWithin_none]; rfl
  | some sup => simp [superclassChain]

/-- A walk up a chain that ends has an outcome: that of the walk that counts its steps. -/
theorem WellFormed.climb (h : p.WellFormed) (hchains : p.FiniteChains)
    (hc : p.classes.Holds c) (f : ClassId → Option α) :
    p.Climb f (some c) ((p.superclassChain c).findSome? f) := by
  induction c using hchains.induction with
  | _ c ih =>
    rw [h.superclassChain_cons hchains hc, List.findSome?_cons]
    cases hf : f c with
    | some a => exact .found hf
    | none =>
      refine .up hf ?_
      cases hsup : (p.classDecl c).superclass with
      | none => exact .out
      | some sup => simpa using ih sup hsup (h.superclass hsup)

/-- The walks of dispatch and of field lookup end, for every class and whatever they look for, and
what they come to is what the program uses. -/
structure WalksEnd (p : Program) : Prop where
  dispatch {c : ClassId} (hc : p.classes.Holds c) (g : Signature) :
    ∃ m?, p.Climb (p.concreteMethod? g) (some c) m? ∧
      p.dispatch c g = m?.or ((p.hierarchy.supertypes c).findSome? (p.defaultMethod? g))
  field (className name : String) :
    ∃ f?, p.Climb (fun c => p.declaredField? c name) (p.findClass? className) f? ∧
      ∀ d : Draft, d.program = p → Draft.Finds (Draft.lookupField className name) f? d

theorem WellFormed.walksEnd (h : p.WellFormed) (hchains : p.FiniteChains) : p.WalksEnd where
  dispatch hc g := ⟨_, h.climb hchains hc (p.concreteMethod? g), rfl⟩
  field className name := by
    refine ⟨p.findField? className name, ?_, ?_⟩
    · rw [findField?]
      cases hf : p.findClass? className with
      | none => exact .out
      | some c => exact h.climb hchains (h.names className c hf) _
    · rintro d rfl
      exact Draft.finds_lookupField className name

/-- `p` is `b` with every class below the root class, or below an interface, and with all that was
recorded in `b`. -/
structure Closes (root : ClassId) (b p : Program) : Prop where
  named : p.findClass? rootClassName = some root
  extended {c : ClassId} (hc : p.classes.Holds c) (hne : c ≠ root)
    (hclass : (p.classDecl c).isInterface = false) : (p.classDecl c).superclass.isSome
  finite : p.FiniteChains
  top {c : ClassId} (hc : p.classes.Holds c) : ∃ top, p.OnChain c top ∧
    (p.classDecl top).superclass = none ∧ (top = root ∨ (p.classDecl top).isInterface = true)
  rest : p = { b with
    counters.classes := p.counters.classes, classes := p.classes, classIds := p.classIds
    hierarchy := p.hierarchy }
  name {n : String} {c : ClassId} (h : b.findClass? n = some c) : p.findClass? n = some c
  holds {c : ClassId} (hc : b.classes.Holds c) : p.classes.Holds c
  classDecl {c : ClassId} (hc : b.classes.Holds c) :
    p.classDecl c = { b.classDecl c with superclass := (p.classDecl c).superclass }
  superclass {c sup : ClassId} (h : (b.classDecl c).superclass = some sup) :
    (p.classDecl c).superclass = some sup
  new {c : ClassId} (hc : p.classes.Holds c) (hn : ¬b.classes.Holds c) : c = root
  link {l : Link} (hl : l ∈ b.hierarchy.links) : l ∈ p.hierarchy.links

/-- A class without superclass can become the superclass of others without a circle. -/
theorem Adopted.finiteChains {l : List ClassId} {q : Program} (h : Adopted root l p q)
    (hp : p.FiniteChains) (hroot : (q.classDecl root).superclass = none) : q.FiniteChains := by
  have hfirst : Acc (fun sup c => (q.classDecl c).superclass = some sup) root := by
    constructor
    intro sup hsup
    rw [hroot] at hsup
    cases hsup
  constructor
  intro c
  induction c using hp.induction with
  | _ c ih =>
    constructor
    intro sup hsup
    rw [h.classDecl] at hsup
    split at hsup
    · cases hsup
      exact hfirst
    · exact ih sup hsup

theorem mem_links_insert {h : Hierarchy} {l : Link} (hl : l ∈ h.links) (sub sup : ClassId)
    (kind : Inheritance) : l ∈ (h.insert sub sup kind).links := by
  rw [Hierarchy.insert]
  split
  · exact hl
  · exact Array.mem_push.mpr (.inl hl)

theorem mem_links_foldl_adopt {k : Link} (l : List ClassId) (hk : k ∈ p.hierarchy.links) :
    k ∈ (l.foldl (adopt root) p).hierarchy.links := by
  induction l generalizing p with
  | nil => exact hk
  | cons c l ih => exact ih (mem_links_insert hk c root .extends)

/-- Classes that are only mentioned extend nothing. -/
theorem Grown.finiteChains (h : Grown b p) (hb : b.FiniteChains) : p.FiniteChains := by
  refine Subrelation.wf ?_ hb
  intro sup c hsup
  by_cases hc : b.classes.Holds c
  · rwa [h.classDecl_eq hc] at hsup
  · rw [(h.blank hc).superclass] at hsup
    cases hsup

/-- The root class is one that was there before or the one class that is new. -/
theorem mention_cases {name : String} (h : (p.mention name).findClass? name = some c) :
    p.findClass? name = some c ∧ p.mention name = p ∨
      c = p.classes.nextId ∧ p.mention name =
        p.pushClass { id := p.classes.nextId, name, defined := false } := by
  rw [findClass?_mention, if_pos rfl] at h
  cases hf : p.findClass? name with
  | some r =>
    rw [hf] at h
    cases h
    exact .inl ⟨rfl, mention_of_some hf⟩
  | none =>
    rw [hf] at h
    cases h
    exact .inr ⟨rfl, mention_of_none hf⟩

/-- A chain that ends does so where a class has no superclass. -/
theorem FiniteChains.exists_top (h : p.FiniteChains) (c : ClassId) :
    ∃ top, p.OnChain c top ∧ (p.classDecl top).superclass = none := by
  induction c using h.induction with
  | _ c ih =>
    cases hsup : (p.classDecl c).superclass with
    | none => exact ⟨c, .refl, hsup⟩
    | some sup =>
      obtain ⟨top, hchain, htop⟩ := ih sup hsup
      exact ⟨top, .head hsup hchain, htop⟩

theorem WellFormed.holds_of_onChain (h : p.WellFormed) (hc : p.classes.Holds c)
    (hchain : p.OnChain c sup) : p.classes.Holds sup := by
  induction hchain with
  | refl => exact hc
  | tail _ hsup _ => exact h.superclass hsup

section Rooted

variable (hp : p.Registered) (root)
include hp

theorem superclass_rooted (hsup : (p.classDecl c).superclass = some sup) :
    ((p.rooted root).classDecl c).superclass = some sup := by
  have hnot : c ∉ p.orphans root := by
    intro hmem
    have hnone := ((mem_orphans hp).mp hmem).2.2.1
    rw [hsup] at hnone
    cases hnone
  rw [(adopted_rooted hp root).classDecl, if_neg hnot, hsup]

theorem classDecl_rooted_root : (p.rooted root).classDecl root = p.classDecl root := by
  have hnot : root ∉ p.orphans root := fun hmem => ((mem_orphans hp).mp hmem).2.1 rfl
  rw [(adopted_rooted hp root).classDecl, if_neg hnot]

theorem isSome_superclass_rooted (hc : p.classes.Holds c) (hne : c ≠ root)
    (hclass : (p.classDecl c).isInterface = false) :
    ((p.rooted root).classDecl c).superclass.isSome := by
  cases hsup : (p.classDecl c).superclass with
  | some sup => rw [superclass_rooted root hp hsup]; rfl
  | none =>
    have hmem : c ∈ p.orphans root := (mem_orphans hp).mpr ⟨hc, hne, hsup, hclass⟩
    rw [(adopted_rooted hp root).classDecl, if_pos hmem]
    rfl

theorem extended_rooted (hc : (p.rooted root).classes.Holds c) (hne : c ≠ root)
    (hclass : ((p.rooted root).classDecl c).isInterface = false) :
    ((p.rooted root).classDecl c).superclass.isSome := by
  rw [(adopted_rooted hp root).classDecl_eq] at hclass
  exact isSome_superclass_rooted root hp ((holds_rooted hp).mp hc) hne hclass

/-- A chain of the completed hierarchy ends at the root class or at an interface. -/
theorem exists_top_rooted (hchains : (p.rooted root).FiniteChains)
    (hwf : (p.rooted root).WellFormed) (hc : (p.rooted root).classes.Holds c) :
    ∃ top, (p.rooted root).OnChain c top ∧
      ((p.rooted root).classDecl top).superclass = none ∧
      (top = root ∨ ((p.rooted root).classDecl top).isInterface = true) := by
  obtain ⟨top, hchain, htop⟩ := hchains.exists_top c
  refine ⟨top, hchain, htop, ?_⟩
  by_contra hnot
  rw [not_or, Bool.not_eq_true] at hnot
  have hsome := extended_rooted root hp (hwf.holds_of_onChain hc hchain) hnot.1 hnot.2
  rw [htop] at hsome
  cases hsome

end Rooted

theorem rest_trans {q : Program}
    (hp : p = { b with
      counters.classes := p.counters.classes, classes := p.classes, classIds := p.classIds
      hierarchy := p.hierarchy })
    (hq : q = { p with classes := q.classes, hierarchy := q.hierarchy }) :
    q = { b with
      counters.classes := q.counters.classes, classes := q.classes, classIds := q.classIds
      hierarchy := q.hierarchy } := by
  rw [hp] at hq
  rw [hq]

theorem superclass_mention (hb : b.Registered) {name : String}
    (h : (b.classDecl c).superclass = some sup) :
    ((b.mention name).classDecl c).superclass = some sup := by
  have hc : b.classes.Holds c := by
    by_contra hn
    rw [(blank_of_not_holds hn).superclass] at h
    cases h
  rw [((Grown.refl hb).mention name).classDecl_eq hc, h]

theorem superclass_mention_eq_none (hb : b.Registered) {name : String}
    (hfound : (b.mention name).findClass? name = some root)
    (hroot : ∀ r, b.findClass? name = some r → (b.classDecl r).superclass = none) :
    ((b.mention name).classDecl root).superclass = none := by
  obtain ⟨hold, hsame⟩ | ⟨rfl, -⟩ := mention_cases hfound
  · rw [hsame]
    exact hroot root hold
  · exact (((Grown.refl hb).mention name).blank Table.not_holds_nextId).superclass

theorem eq_of_holds_mention {name : String}
    (hfound : (b.mention name).findClass? name = some root)
    (hc : (b.mention name).classes.Holds c) (hn : ¬b.classes.Holds c) : c = root := by
  obtain ⟨-, hsame⟩ | ⟨rfl, hnew⟩ := mention_cases hfound
  · rw [hsame] at hc
    exact (hn hc).elim
  · rw [hnew] at hc
    exact (Table.holds_push.mp hc).resolve_left hn

/-- Completion closes a hierarchy without circles. -/
theorem closes_rooted (hb : b.Registered) (hchains : b.FiniteChains)
    (hroot : ∀ r, b.findClass? rootClassName = some r → (b.classDecl r).superclass = none)
    (hfound : (b.mention rootClassName).findClass? rootClassName = some root)
    (hwf : ((b.mention rootClassName).rooted root).WellFormed) :
    Closes root b ((b.mention rootClassName).rooted root) := by
  have hgrown : Grown b (b.mention rootClassName) := (Grown.refl hb).mention rootClassName
  have hreg := hgrown.registered
  have hadopted := adopted_rooted hreg root
  have hnone : (((b.mention rootClassName).rooted root).classDecl root).superclass = none := by
    rw [classDecl_rooted_root root hreg]
    exact superclass_mention_eq_none hb hfound hroot
  have hfinite := hadopted.finiteChains (hgrown.finiteChains hchains) hnone
  constructor
  case named => rw [findClass?_rooted hreg, hfound]
  case extended => exact extended_rooted root hreg
  case finite => exact hfinite
  case top => exact exists_top_rooted root hreg hfinite hwf
  case rest => exact rest_trans (mention_eq b rootClassName) hadopted.rest
  case name =>
    intro n c hf
    rw [findClass?_rooted hreg]
    exact findClass?_mention_of_some hf rootClassName
  case holds => exact fun hc => (holds_rooted hreg).mpr (hgrown.classes.holds hc)
  case classDecl =>
    intro c hc
    rw [hadopted.classDecl_eq, hgrown.classDecl_eq hc]
  case superclass => exact fun h => superclass_rooted root hreg (superclass_mention hb h)
  case new => exact fun hc hn => eq_of_holds_mention hfound ((holds_rooted hreg).mp hc) hn
  case link => exact fun hl => mem_links_foldl_adopt _ (hgrown.links ▸ hl)

end Program

namespace Draft

variable {d : Draft}

/-- Completion of a draft without circles among its superclasses does not fail, and closes the
hierarchy. All walks up the superclasses end, before it and after it. -/
theorem complete_closes (h : Built d) (hacyclic : d.program.AcyclicChains)
    (hroot : ∀ r, d.program.findClass? rootClassName = some r →
      (d.program.classDecl r).superclass = none) :
    ∃ p d' root, exec complete d = (.ok p, d') ∧ Program.Closes root d.program p ∧
      d.program.WalksEnd ∧ p.WalksEnd := by
  have hregistered := h.edits.registered Program.registered_empty
  have hwf := h.edits.wellFormed
  have hchains := hacyclic.finiteChains hwf
  obtain ⟨root, hfound, hp⟩ := exec_complete d hregistered
  have hcomplete : exec complete d =
      (.ok ((d.program.mention rootClassName).rooted root), (exec complete d).2) :=
    Prod.ext hp rfl
  have hfinished : ((d.program.mention rootClassName).rooted root).Finished :=
    ⟨d, _, h, hcomplete⟩
  have hcloses :=
    Program.closes_rooted hregistered hchains hroot hfound hfinished.wellFormed
  exact ⟨_, _, root, hcomplete, hcloses, hwf.walksEnd hchains,
    hfinished.wellFormed.walksEnd hcloses.finite⟩

/-- An interface with a super-interface, and a class that extends another before that is defined.
The root class is not there. -/
def diskCalls : List Action :=
  [.defineClass "Disk" .none,
    .extendClass ⟨0⟩ "Oval",
    .implement ⟨0⟩ "Shape",
    .defineClass "Shape" ClassFlags.isInterface,
    .implement ⟨2⟩ "Item",
    .defineClass "Oval" .none,
    .declareField ⟨1⟩ "width" (.prim .int) .none,
    .declareMethod ⟨1⟩ ⟨"area", [], .prim .int⟩ .none []]

theorem complete_closes_disk :
    Built (runAll {} diskCalls) ∧ (runAll {} diskCalls).program.AcyclicChains ∧
      (runAll {} diskCalls).program.findClass? rootClassName = none ∧
      (runAll {} diskCalls).program.classes.size = 4 ∧
      ∃ p d' root, exec complete (runAll {} diskCalls) = (.ok p, d') ∧
        Program.Closes root (runAll {} diskCalls).program p ∧
        (runAll {} diskCalls).program.WalksEnd ∧ p.WalksEnd := by
  have hbuilt : Built (runAll {} diskCalls) := Built.empty.runAll diskCalls
  have hfacts : (runAll {} diskCalls).program.findClass? rootClassName = none ∧
      (runAll {} diskCalls).program.classes.size = 4 ∧
      ∀ i < (runAll {} diskCalls).program.classes.size,
        ∀ sup ∈ ((runAll {} diskCalls).program.classDecl ⟨i⟩).superclass,
          [1, 0, 0, 0].getD sup.index 0 < [1, 0, 0, 0].getD i 0 := by
    decide +kernel
  obtain ⟨hnone, hsize, hranks⟩ := hfacts
  have hacyclic := (Program.finiteChains_of_ranks [1, 0, 0, 0] hranks).acyclicChains
  refine ⟨hbuilt, hacyclic, hnone, hsize, complete_closes hbuilt hacyclic ?_⟩
  intro r hr
  rw [hnone] at hr
  cases hr

end Draft

end PointsTo
