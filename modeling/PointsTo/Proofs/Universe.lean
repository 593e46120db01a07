import Mathlib.Data.Finset.NAry
import Mathlib.Data.Set.Card
import Mathlib.Tactic.Ring
import PointsTo.Proofs.Tasks
import PointsTo.Proofs.Walks

namespace PointsTo

section Counting

variable {α β γ : Type} {S S' : Set α} {T : Set β} {m n : Nat}

/-- A set with no more than `n` elements. -/
def AtMost (S : Set α) (n : Nat) : Prop := ∃ F : Finset α, S ⊆ F ∧ F.card ≤ n

theorem AtMost.mono (h : AtMost S m) (hS : S' ⊆ S) (hmn : m ≤ n) : AtMost S' n := by
  obtain ⟨F, hF, hm⟩ := h
  exact ⟨F, hS.trans hF, hm.trans hmn⟩

theorem AtMost.ncard_le (h : AtMost S n) (hS : S' ⊆ S) : S'.ncard ≤ n := by
  obtain ⟨F, hF, hn⟩ := h
  calc
    S'.ncard ≤ (F : Set α).ncard := Set.ncard_le_ncard (hS.trans hF) F.finite_toSet
    _ = F.card := Set.ncard_coe_finset F
    _ ≤ n := hn

theorem atMost_singleton (a : α) : AtMost {a} 1 := ⟨{a}, by simp, by simp⟩

theorem AtMost.union (h : AtMost S m) (h' : AtMost S' n) : AtMost (S ∪ S') (m + n) := by
  classical
  obtain ⟨F, hF, hm⟩ := h
  obtain ⟨F', hF', hn⟩ := h'
  refine ⟨F ∪ F', ?_, (Finset.card_union_le F F').trans (Nat.add_le_add hm hn)⟩
  rw [Finset.coe_union]
  exact Set.union_subset_union hF hF'

theorem AtMost.image (h : AtMost S m) (f : α → β) : AtMost (f '' S) m := by
  classical
  obtain ⟨F, hF, hm⟩ := h
  refine ⟨F.image f, ?_, Finset.card_image_le.trans hm⟩
  rw [Finset.coe_image]
  exact Set.image_mono hF

theorem AtMost.image2 (h : AtMost S m) (h' : AtMost T n) (f : α → β → γ) :
    AtMost (Set.image2 f S T) (m * n) := by
  classical
  obtain ⟨F, hF, hm⟩ := h
  obtain ⟨F', hF', hn⟩ := h'
  refine ⟨Finset.image₂ f F F', ?_, ?_⟩
  · rw [Finset.coe_image₂]
    exact Set.image2_subset hF hF'
  · exact (Finset.card_image₂_le f F F').trans (Nat.mul_le_mul hm hn)

theorem atMost_holds {κ : Entity} (t : Table κ α) : AtMost {i | t.Holds i} t.size := by
  classical
  refine ⟨(Finset.range t.size).image Id.mk, fun i hi => ?_, ?_⟩
  · exact Finset.mem_coe.mpr (Finset.mem_image.mpr ⟨i.index, Finset.mem_range.mpr hi, rfl⟩)
  · exact Finset.card_image_le.trans (Finset.card_range _).le

/-- There are few lists of bounded length with few elements to choose from. -/
theorem atMost_lists (h : AtMost S m) (k : Nat) :
    AtMost {l : List α | l.length ≤ k ∧ ∀ a ∈ l, a ∈ S} ((m + 1) ^ k) := by
  induction k with
  | zero =>
    refine (atMost_singleton []).mono ?_ (by simp)
    rintro l ⟨hl, -⟩
    exact List.eq_nil_of_length_eq_zero (Nat.le_zero.mp hl)
  | succ k ih =>
    refine ((atMost_singleton []).union (h.image2 ih List.cons)).mono ?_ ?_
    · rintro l ⟨hl, hS⟩
      cases l with
      | nil => exact .inl rfl
      | cons a l =>
        refine .inr ⟨a, hS a List.mem_cons_self, l, ⟨?_, ?_⟩, rfl⟩
        · exact Nat.le_of_succ_le_succ hl
        · exact fun b hb => hS b (List.mem_cons_of_mem a hb)
    · have hpos : 1 ≤ (m + 1) ^ k := Nat.one_le_pow _ _ (Nat.succ_pos m)
      calc
        1 + m * (m + 1) ^ k ≤ (m + 1) ^ k + m * (m + 1) ^ k := Nat.add_le_add_right hpos _
        _ = (m + 1) ^ (k + 1) := by ring

end Counting

/-- An element of the program. -/
def ContextElem.Fits (p : Program) : ContextElem → Prop
  | call s | alloc s => p.stmts.Holds s
  | type c => p.classes.Holds c

/-- A context with at most `k` elements of the program. -/
structure Context.Fits (p : Program) (k : Nat) (c : Context) : Prop where
  length : c.elems.length ≤ k
  elem : ∀ e ∈ c.elems, e.Fits p

structure HeapObj.Fits (p : Program) (k : Nat) (o : HeapObj) : Prop where
  heap : o.heap.Fits p k
  obj : p.objectAt o.obj.site = .ok o.obj

def Location.Fits (p : Program) (k : Nat) : Location → Prop
  | var c v => c.Fits p k ∧ p.vars.Holds v
  | static f => p.fields.Holds f
  | field o f => o.Fits p k ∧ p.fields.Holds f
  | array o => o.Fits p k

/-- A fact about elements of the program in contexts with at most `k` elements. -/
def Fact.Fits (p : Program) (k : Nat) : Fact → Prop
  | reach c m => c.Fits p k ∧ p.methods.Holds m
  | call _ c s d m => c.Fits p k ∧ p.stmts.Holds s ∧ d.Fits p k ∧ p.methods.Holds m
  | flow x y => x.Fits p k ∧ y.Fits p k
  | pts x o => x.Fits p k ∧ o.Fits p k

section Closed

variable {p : Program} {π : Policy} {c : Context} {o : HeapObj} {s : StmtId}

theorem Context.fits_empty (p : Program) (k : Nat) : Context.empty.Fits p k :=
  ⟨Nat.zero_le k, fun _ h => by cases h⟩

theorem Context.fits_recent {j k : Nat} (hjk : j ≤ k) (h : ∀ e ∈ c.elems, e.Fits p) :
    (c.recent j).Fits p k := by
  refine ⟨?_, fun e he => h e (List.mem_of_mem_drop he)⟩
  rw [Context.recent, List.length_drop]
  omega

theorem Context.fits_extend {e : ContextElem} (k : Nat) (h : ∀ e ∈ c.elems, e.Fits p)
    (he : e.Fits p) : (c.extend e k).Fits p k := by
  refine Context.fits_recent (Nat.le_refl k) fun d hd => ?_
  rcases List.mem_append.mp hd with hd | hd
  · exact h d hd
  · exact List.mem_singleton.mp hd ▸ he

theorem fits_forObject (h : c.Fits p π.bound) : (π.forObject c).Fits p π.bound := by
  cases π with
  | insensitive => exact Context.fits_empty p _
  | callSite k | object k | type k => exact Context.fits_recent (Nat.sub_le k 1) h.elem

theorem fits_forStaticCall (h : c.Fits p π.bound) (hs : p.stmts.Holds s) :
    (π.forStaticCall c s).Fits p π.bound := by
  cases π with
  | insensitive => exact Context.fits_empty p _
  | callSite k => exact Context.fits_extend k h.elem hs
  | object k | type k => exact h

theorem HeapObj.Fits.site {k : Nat} (h : o.Fits p k) : p.stmts.Holds o.obj.site := by
  obtain ⟨⟨x, name, hs, -⟩, -⟩ := Program.of_objectAt h.obj
  exact Program.holds_of_stmt_ne (by simp [hs])

theorem fits_calleeContext (hwf : p.WellFormed) (h : c.Fits p π.bound) (hs : p.stmts.Holds s)
    (ho : o.Fits p π.bound) : (π.calleeContext c s o).Fits p π.bound := by
  cases π with
  | insensitive => exact Context.fits_empty p _
  | callSite k => exact Context.fits_extend k h.elem hs
  | object k => exact Context.fits_extend k ho.heap.elem ho.site
  | type k =>
    refine Context.fits_extend k ho.heap.elem ?_
    rw [ContextElem.Fits, (Program.of_objectAt ho.obj).2.2]
    exact hwf.owner (hwf.container ho.site)

/-- The facts that fit a program and a policy are closed under the inclusion rules. -/
theorem closed_fits (hwf : p.WellFormed) (π : Policy) :
    Closed p π {f | f.Fits p π.bound} := by
  have hstmt {m : MethodId} {s : StmtId} (hs : s ∈ (p.methodDecl m).stmts) : p.stmts.Holds s :=
    (hwf.body.mp hs).1
  have hvar {s : StmtId} {st : Stmt} {v : VarId} (h : p.stmt s = st) (hv : v ∈ st.vars) :
      p.vars.Holds v :=
    (hwf.operand (h ▸ hv)).1
  have hfield {s : StmtId} {st : Stmt} {f : FieldId} (h : p.stmt s = st)
      (hf : st.field? = some f) : p.fields.Holds f :=
    hwf.field (h ▸ hf)
  intro f hf
  cases hf with
  | entry h => exact ⟨Context.fits_empty p _, hwf.entry h⟩
  | new hm hs h ho =>
    exact ⟨⟨hm.1, hvar h (by simp [Stmt.vars])⟩, fits_forObject hm.1,
      by rwa [Program.site_of_objectAt ho]⟩
  | copy hm hs h =>
    exact ⟨⟨hm.1, hvar h (by simp [Stmt.vars])⟩, hm.1, hvar h (by simp [Stmt.vars])⟩
  | loadStatic hm hs h =>
    exact ⟨hfield h rfl, hm.1, hvar h (by simp [Stmt.vars])⟩
  | storeStatic hm hs h =>
    exact ⟨⟨hm.1, hvar h (by simp [Stmt.vars])⟩, hfield h rfl⟩
  | load hm hs h ho =>
    exact ⟨⟨ho.2, hfield h rfl⟩, hm.1, hvar h (by simp [Stmt.vars])⟩
  | store hm hs h ho =>
    exact ⟨⟨hm.1, hvar h (by simp [Stmt.vars])⟩, ho.2, hfield h rfl⟩
  | arrayLoad hm hs h ho => exact ⟨ho.2, hm.1, hvar h (by simp [Stmt.vars])⟩
  | arrayStore hm hs h ho => exact ⟨⟨hm.1, hvar h (by simp [Stmt.vars])⟩, ho.2⟩
  | staticCall hm hs h hk hc =>
    exact ⟨hm.1, hstmt hs, fits_forStaticCall hm.1 (hstmt hs), hwf.holds_of_calleeAt hc⟩
  | instanceCall hm hs h hk hb ho hc =>
    exact ⟨hm.1, hstmt hs, fits_calleeContext hwf hm.1 (hstmt hs) ho.2, hwf.holds_of_calleeAt hc⟩
  | receiver hm hs h hk hb ho hc ht =>
    exact ⟨⟨fits_calleeContext hwf hm.1 (hstmt hs) ho.2, (hwf.this ht).1⟩, ho.2⟩
  | callee h => exact h.2.2
  | argument hc h ha =>
    obtain ⟨harg, hparam⟩ := List.of_mem_zip ha
    exact ⟨⟨hc.1, hvar h (by simp [Stmt.vars, harg])⟩, hc.2.2.1,
      (hwf.param (Array.mem_toList_iff.mp hparam)).1⟩
  | result hc h hx hv =>
    obtain ⟨s, hs, -⟩ := hwf.returns.mp hv
    exact ⟨⟨hc.2.2.1, hvar hs (by simp [Stmt.vars])⟩, hc.1, hvar h (by simp [Stmt.vars, hx])⟩
  | along hf ho => exact ⟨hf.2, ho.2⟩

end Closed

section Bounds

variable (p : Program) (k : Nat)

/-- The number of declarations and statements. -/
def Program.extent : Nat :=
  p.classes.size + p.fields.size + p.methods.size + p.vars.size + p.stmts.size

/-- A number that neither the objects nor the locations exceed. -/
def Program.span : Nat := (3 * p.extent + 1) ^ k * (p.extent + 2) ^ 2

theorem Program.one_le_span : 1 ≤ p.span k :=
  Nat.mul_pos (Nat.pow_pos (Nat.succ_pos _)) (Nat.pow_pos (Nat.succ_pos _))

theorem atMost_contexts : AtMost {c : Context | c.Fits p k} ((3 * p.extent + 1) ^ k) := by
  have helems : AtMost {e : ContextElem | e.Fits p} (3 * p.extent) := by
    have hstmts := atMost_holds p.stmts
    have hclasses := atMost_holds p.classes
    refine (((hstmts.image .call).union (hstmts.image .alloc)).union
      (hclasses.image .type)).mono ?_ (by rw [Program.extent]; omega)
    intro e he
    cases e with
    | call s => exact .inl (.inl ⟨s, he, rfl⟩)
    | alloc s => exact .inl (.inr ⟨s, he, rfl⟩)
    | type c => exact .inr ⟨c, he, rfl⟩
  refine ((atMost_lists helems k).image Context.mk).mono ?_ le_rfl
  exact fun c hc => ⟨c.elems, ⟨hc.length, hc.elem⟩, rfl⟩

/-- Something in a context, such as a variable. -/
theorem atMost_inContext {κ : Entity} {α β : Type} (t : Table κ α) (ht : t.size ≤ p.extent)
    (f : Context → Id κ → β) :
    AtMost (Set.image2 f {c | c.Fits p k} {i | t.Holds i}) ((3 * p.extent + 1) ^ k * p.extent) :=
  ((atMost_contexts p k).image2 (atMost_holds t) f).mono subset_rfl (Nat.mul_le_mul_left _ ht)

theorem atMost_objects :
    AtMost {o : HeapObj | o.Fits p k} ((3 * p.extent + 1) ^ k * p.extent) := by
  refine (atMost_inContext p k p.stmts (by rw [Program.extent]; omega)
    fun c s => ⟨c, (p.objectAt s).toOption.getD default⟩).mono ?_ le_rfl
  intro o ho
  refine ⟨o.heap, ho.heap, o.obj.site, ho.site, ?_⟩
  dsimp only
  rw [ho.obj]
  rfl

theorem atMost_locations : AtMost {x : Location | x.Fits p k} (p.span k) := by
  have hvars := atMost_inContext p k p.vars (by rw [Program.extent]; omega) Location.var
  have hfields : AtMost {f | p.fields.Holds f} p.extent :=
    (atMost_holds p.fields).mono subset_rfl (by rw [Program.extent]; omega)
  have hobjs := atMost_objects p k
  refine (((hvars.union (hfields.image .static)).union (hobjs.image2 hfields .field)).union
    (hobjs.image .array)).mono ?_ ?_
  · intro x hx
    cases x with
    | var c v => exact .inl (.inl (.inl ⟨c, hx.1, v, hx.2, rfl⟩))
    | static f => exact .inl (.inl (.inr ⟨f, hx, rfl⟩))
    | field o f => exact .inl (.inr ⟨o, hx.1, f, hx.2, rfl⟩)
    | array o => exact .inr ⟨o, hx, rfl⟩
  · rw [Program.span]
    have hpos : 1 ≤ (3 * p.extent + 1) ^ k := Nat.pow_pos (Nat.succ_pos _)
    generalize (3 * p.extent + 1) ^ k = c at hpos ⊢
    calc
      c * p.extent + p.extent + c * p.extent * p.extent + c * p.extent
        ≤ c * p.extent + c * p.extent + c * p.extent * p.extent + c * p.extent := by
          have h := Nat.le_mul_of_pos_left p.extent hpos
          omega
      _ ≤ c * (p.extent + 2) ^ 2 := by
          ring_nf
          omega

/-- The facts that an analysis can find at all. -/
theorem atMost_facts : AtMost {f : Fact | f.Fits p k} (8 * p.span k ^ 2) := by
  have hspan : (3 * p.extent + 1) ^ k * p.extent ≤ p.span k := by
    refine Nat.mul_le_mul_left _ ?_
    calc
      p.extent ≤ p.extent + 2 := Nat.le_add_right _ 2
      _ ≤ (p.extent + 2) ^ 2 := Nat.le_self_pow (by decide) _
  have hkinds : AtMost (Set.univ : Set CallKind) 5 := by
    refine ⟨{.static, .special, .virtual, .interface, .dynamic}, fun kind _ => ?_, by decide⟩
    cases kind <;> simp
  have hsites := (atMost_inContext p k p.stmts (by rw [Program.extent]; omega) Prod.mk).mono
    subset_rfl hspan
  have hmethods := (atMost_inContext p k p.methods (by rw [Program.extent]; omega) Prod.mk).mono
    subset_rfl hspan
  have hobjs := (atMost_objects p k).mono subset_rfl hspan
  have hlocs := atMost_locations p k
  refine ((((hmethods.image fun m => Fact.reach m.1 m.2).union
    (hkinds.image2 (hsites.image2 hmethods Prod.mk)
      fun kind e => .call kind e.1.1 e.1.2 e.2.1 e.2.2)).union
    (hlocs.image2 hlocs .flow)).union (hlocs.image2 hobjs .pts)).mono ?_ ?_
  · intro f hf
    cases f with
    | reach c m => exact .inl (.inl (.inl ⟨(c, m), ⟨c, hf.1, m, hf.2, rfl⟩, rfl⟩))
    | call kind c s d m =>
      exact .inl (.inl (.inr ⟨kind, trivial, ((c, s), (d, m)),
        ⟨(c, s), ⟨c, hf.1, s, hf.2.1, rfl⟩, (d, m), ⟨d, hf.2.2.1, m, hf.2.2.2, rfl⟩, rfl⟩, rfl⟩))
    | flow x y => exact .inl (.inr ⟨x, hf.1, y, hf.2, rfl⟩)
    | pts x o => exact .inr ⟨x, hf.1, o, hf.2, rfl⟩
  · have h := Nat.le_mul_of_pos_left (p.span k) (p.one_le_span k)
    rw [sq]
    omega

end Bounds

end PointsTo
