import PointsTo.Proofs.Bodies
import PointsTo.Proofs.ByteCuts
import PointsTo.Proofs.Signatures

namespace PointsTo

namespace Text

theorem takeWhile_append_of_notMem {c : Char} {a : List Char} (h : c ∉ a) (l : List Char) :
    (a ++ l).takeWhile (· ≠ c) = a ++ l.takeWhile (· ≠ c) := by
  apply List.takeWhile_append_of_pos
  intro x hx
  rw [decide_eq_true_iff]
  rintro rfl
  exact h hx

/-- A text up to the first `c`, and what follows from there on: nothing, or a text that starts
with `c`. -/
theorem exists_append_rest (c : Char) (s : List Char) :
    ∃ rest, s = s.takeWhile (· ≠ c) ++ rest ∧ c ∉ s.takeWhile (· ≠ c) ∧
      rest.takeWhile (· ≠ c) = [] := by
  induction s with
  | nil => exact ⟨[], by simp⟩
  | cons x s ih =>
    by_cases hx : x = c
    · exact ⟨x :: s, by simp [hx]⟩
    · obtain ⟨rest, hs, hc, hrest⟩ := ih
      have hcons : (x :: s).takeWhile (· ≠ c) = x :: s.takeWhile (· ≠ c) :=
        List.takeWhile_cons_of_pos (by simpa using hx)
      refine ⟨rest, ?_, ?_, hrest⟩
      · rw [hcons, List.cons_append, ← hs]
      · rw [hcons, List.mem_cons]
        exact fun h => h.elim (fun h => hx h.symm) hc

/-- The byte at which the first `c` starts, or the end of the text, is where the part before any `c`
ends. -/
theorem getD_firstByte? (c : Char) (s : String) :
    (firstByte? c s.toList).getD s.utf8ByteSize =
      (String.ofList (s.toList.takeWhile (· ≠ c))).utf8ByteSize := by
  rw [firstByte?_eq]
  cases hfound : splitFirst c s.toList with
  | none =>
    have hhead := takeWhile_append_of_notMem (splitFirst_eq_none_iff.1 hfound) []
    rw [List.takeWhile_nil, List.append_nil] at hhead
    rw [hhead, String.ofList_toList]
    rfl
  | some parts =>
    obtain ⟨a, b⟩ := parts
    obtain ⟨hs, ha⟩ := splitFirst_eq_some hfound
    have hhead : s.toList.takeWhile (· ≠ c) = a := by
      rw [hs, takeWhile_append_of_notMem ha]
      simp
    rw [hhead]
    rfl

end Text

namespace MemberRef

open Text

/-- The part of a text in which a reference is cut. -/
def head (s : String) : List Char := s.toList.takeWhile (· ≠ '(')

/-- `parse?` by byte offsets: the text is cut before the first parenthesis, and then behind the dot
that follows the class. The outer option is `none` where a cut fails. -/
def parseAtBytes? (s : String) : Option (Option MemberRef) :=
  (toByte? s ((firstByte? '(' s.toList).getD s.utf8ByteSize)).bind fun front =>
    match splitLast '.' front.toList with
    | none => some none
    | some (cls, _) =>
      let cls := String.ofList cls
      (fromByte? s (cls.utf8ByteSize + 1)).map fun member => some ⟨cls, member⟩

theorem parse?_eq_none_iff {s : String} : parse? s = none ↔ '.' ∉ head s := by
  rw [parse?, Option.map_eq_none_iff, splitLast_eq_none_iff, head]

/-- The parts of a text that is read as a reference. -/
theorem parse?_of_head {s : String} {a b rest : List Char} (hs : s.toList = head s ++ rest)
    (hcut : splitLast '.' (head s) = some (a, b)) :
    parse? s = some ⟨String.ofList a, String.ofList (b ++ rest)⟩ := by
  have hrest : (head s ++ rest).drop (head s).length = rest := List.drop_left
  rw [← hs] at hrest
  simp only [parse?]
  rw [← head, hcut, hrest]
  rfl

theorem parse?_eq_some_iff {s : String} {r : MemberRef} : parse? s = some r ↔
    r.text = s ∧ '(' ∉ r.cls.toList ∧ '.' ∉ head r.member := by
  obtain ⟨cls, member⟩ := r
  constructor
  · intro h
    obtain ⟨rest, hs, hopen, hrest⟩ := exists_append_rest '(' s.toList
    cases hcut : splitLast '.' (head s) with
    | none =>
      rw [parse?_eq_none_iff.2 (splitLast_eq_none_iff.1 hcut)] at h
      cases h
    | some parts =>
      obtain ⟨a, b⟩ := parts
      rw [parse?_of_head hs hcut] at h
      cases h
      obtain ⟨hhead, hdot⟩ := splitLast_eq_some hcut
      rw [← head, hhead] at hs hopen
      have ha : '(' ∉ a := fun ha => hopen (List.mem_append_left _ ha)
      have hb : '(' ∉ b := fun hb => hopen (List.mem_append_right _ (List.mem_cons_of_mem _ hb))
      refine ⟨?_, by rwa [String.toList_ofList], ?_⟩
      · rw [← String.toList_inj, hs]
        simp [text]
      · rwa [head, String.toList_ofList, takeWhile_append_of_notMem hb, hrest, List.append_nil]
  · rintro ⟨rfl, hcls, hmember⟩
    obtain ⟨rest, hs, -, -⟩ := exists_append_rest '(' member.toList
    have htext : (text ⟨cls, member⟩).toList = cls.toList ++ '.' :: member.toList := by
      simp [text]
    have hhead : head (text ⟨cls, member⟩) = cls.toList ++ '.' :: head member := by
      rw [head, htext, takeWhile_append_of_notMem hcls, List.takeWhile_cons_of_pos (by decide),
        head]
    have hsplit : (text ⟨cls, member⟩).toList = head (text ⟨cls, member⟩) ++ rest := by
      rw [hhead, htext, List.append_assoc, List.cons_append, head, ← hs]
    rw [parse?_of_head hsplit (by rw [hhead, splitLast_append _ hmember]), head, ← hs]
    simp

/-- No cut fails: the part before the parenthesis is one of the text, and the dot is one byte. -/
theorem parseAtBytes?_eq (s : String) : parseAtBytes? s = some (parse? s) := by
  obtain ⟨rest, hs, -, -⟩ := exists_append_rest '(' s.toList
  have htext : s = String.ofList (head s) ++ String.ofList rest := by
    rw [← String.ofList_append, head, ← hs, String.ofList_toList]
  have hfront : toByte? s ((firstByte? '(' s.toList).getD s.utf8ByteSize) =
      some (String.ofList (head s)) := by
    have hcut := toByte?_append (String.ofList (head s)) (String.ofList rest)
    rwa [← htext, head, ← getD_firstByte?, ← head] at hcut
  rw [parseAtBytes?, hfront, Option.bind_some, String.toList_ofList]
  cases hcut : splitLast '.' (head s) with
  | none => rw [parse?_eq_none_iff.2 (splitLast_eq_none_iff.1 hcut)]
  | some parts =>
    obtain ⟨a, b⟩ := parts
    obtain ⟨hhead, -⟩ := splitLast_eq_some hcut
    have hdot : (String.ofList a ++ ".").utf8ByteSize = (String.ofList a).utf8ByteSize + 1 := by
      rw [String.utf8ByteSize_append]
      rfl
    have hmember : s = (String.ofList a ++ ".") ++ String.ofList (b ++ rest) := by
      rw [htext, hhead, ← String.toList_inj]
      simp
    have hback := fromByte?_append (String.ofList a ++ ".") (String.ofList (b ++ rest))
    rw [← hmember, hdot] at hback
    simp only [hback, Option.map_some, parse?_of_head hs hcut]

/-- A reference is cut before the signature of a method, whatever types it has. -/
theorem head_text {g : Signature} (h : '(' ∉ g.name.toList) : head g.text = g.name.toList := by
  rw [head, Signature.toList_text, takeWhile_append_of_notMem h]
  simp

/-- A call is loaded with the signature that its reference is written with and with the class of
the name that it is written with. -/
theorem exec_resolve_invoke {d : Draft} (hd : d.program.Registered) {m : MethodId} {kind : CallKind}
    {method : String} {receiver result : Option String} {args : List String}
    {recv x : Option VarId} {as : List VarId} {r : MemberRef} {g : Signature}
    (hrecv : receiver.mapM (d.program.findVar? m) = some recv)
    (has : args.mapM (d.program.findVar? m) = some as)
    (hx : result.mapM (d.program.findVar? m) = some x) (hr : parse? method = some r)
    (hg : Signature.parse? r.member = some g) :
    ∃ c d', Draft.exec ((Description.Stmt.invoke kind method receiver args result).resolve m) d =
        (.ok (.invoke { kind, target := ⟨c, g⟩, receiver := recv, args := as, result := x }), d') ∧
      d'.program.findClass? r.cls = some c ∧ d'.program.classes.Holds c ∧
      (d'.program.classDecl c).name = r.cls := by
  let s := Description.Stmt.invoke kind method receiver args result
  have hread (f : String → Option ClassId) {c : ClassId} (hc : f r.cls = some c) :
      s.read? d.program m f =
        some (.invoke { kind, target := ⟨c, g⟩, receiver := recv, args := as, result := x }) := by
    simp only [s, Description.Stmt.read?, hrecv, has, hx, hr, hg, hc, Option.bind_eq_bind,
      Option.bind_some]
    rfl
  have hname : s.mentioned? = some r.cls := by
    simp only [s, Description.Stmt.mentioned?, hr, Option.map_some]
  obtain ⟨stmt, d', hexec, hresolved⟩ := (s.yields_resolve m d hd.ready).some (hread _ rfl)
  obtain ⟨c, hc⟩ : ∃ c, (d.program.mention r.cls).findClass? r.cls = some c := by
    rw [Program.findClass?_mention, if_pos rfl]
    exact ⟨_, rfl⟩
  have hstmt := hresolved.read
  rw [hname, Program.mention?, hread _ hc] at hstmt
  obtain rfl := Option.some.inj hstmt
  have hp : d'.program = d.program.mention r.cls := by
    have hmention := hresolved.mention
    rw [hname] at hmention
    exact hmention
  have hreg : d'.program.Registered := hp ▸ hd.mention r.cls
  rw [← hp] at hc
  exact ⟨c, d', hexec, hc, (hreg.name.mp hc).1, (hreg.name.mp hc).2⟩

/-- Reading a reference fails exactly when there is no dot before the first parenthesis, and else
gives the one pair that it is written from. A call is loaded as one of the method that it names. -/
theorem reference_roundtrip :
    (∀ s, parseAtBytes? s = some (parse? s)) ∧
    (∀ s, parse? s = none ↔ '.' ∉ s.toList.takeWhile (· ≠ '(')) ∧
    (∀ s r, parse? s = some r ↔ r.text = s ∧ '(' ∉ r.cls.toList ∧
      '.' ∉ r.member.toList.takeWhile (· ≠ '(')) ∧
    ∀ (cls : String) (g : Signature), '(' ∉ cls.toList → Signature.parse? g.text = some g →
      '.' ∉ g.name.toList →
      parse? (cls ++ "." ++ g.text) = some ⟨cls, g.text⟩ ∧
      ∀ d m kind receiver args result recv as x, Draft.Built d →
        receiver.mapM (d.program.findVar? m) = some recv →
        args.mapM (d.program.findVar? m) = some as →
        result.mapM (d.program.findVar? m) = some x →
        ∃ c d',
          Draft.exec ((Description.Stmt.invoke kind (cls ++ "." ++ g.text) receiver args
              result).resolve m) d =
            (.ok (.invoke { kind, target := ⟨c, g⟩, receiver := recv, args := as, result := x }),
              d') ∧
          d'.program.findClass? cls = some c ∧ d'.program.classes.Holds c ∧
          (d'.program.classDecl c).name = cls := by
  refine ⟨parseAtBytes?_eq, fun s => parse?_eq_none_iff, fun s r => parse?_eq_some_iff, ?_⟩
  intro cls g hcls hparse hname
  have hopen := (Signature.readable_of_parse? hparse).2.name_open
  have href : parse? (cls ++ "." ++ g.text) = some ⟨cls, g.text⟩ := by
    rw [parse?_eq_some_iff]
    exact ⟨rfl, hcls, by rwa [head_text hopen]⟩
  refine ⟨href, fun d m kind receiver args result recv as x hd hrecv has hx => ?_⟩
  exact exec_resolve_invoke (hd.edits.registered Program.registered_empty) hrecv has hx href hparse

/-- A call in the method `swap` of a cell, on a class that is not known before. -/
theorem reference_roundtrip_types :
    let d := Draft.runAll {} Draft.cellCalls
    Draft.Built d ∧ d.program.findClass? "naïve/文.Liste" = none ∧
    (∃ c d', Draft.exec ((Description.Stmt.invoke .virtual "naïve/文.Liste.get(La.b;)Lc.d(;"
          (some "this") ["x", "y"] none).resolve ⟨0⟩) d =
        (.ok (.invoke
          { kind := .virtual, target := ⟨c, ⟨"get", [.ref "a.b"], .ref "c.d("⟩⟩
            receiver := some ⟨0⟩, args := [⟨1⟩, ⟨2⟩], result := none }), d') ∧
      d'.program.findClass? "naïve/文.Liste" = some c ∧ d'.program.classes.Holds c ∧
      (d'.program.classDecl c).name = "naïve/文.Liste") ∧
    '(' ∉ "naïve/文.Liste".toList ∧
    parse? "naïve/文.Liste.get(La.b;)Lc.d(;" = some ⟨"naïve/文.Liste", "get(La.b;)Lc.d(;"⟩ ∧
    parseAtBytes? "naïve/文.Liste.get(La.b;)Lc.d(;" =
      some (some ⟨"naïve/文.Liste", "get(La.b;)Lc.d(;"⟩) ∧
    parse? "get(La.b;)V" = none := by
  intro d
  obtain ⟨hbytes, hnone, -, hmethod⟩ := reference_roundtrip
  have hparse : Signature.parse? (Signature.text ⟨"get", [.ref "a.b"], .ref "c.d("⟩) =
      some ⟨"get", [.ref "a.b"], .ref "c.d("⟩ := by decide +kernel
  obtain ⟨href, hload⟩ := hmethod "naïve/文.Liste" _ (by decide) hparse (by decide)
  have htext : "naïve/文.Liste" ++ "." ++ Signature.text ⟨"get", [.ref "a.b"], .ref "c.d("⟩ =
      "naïve/文.Liste.get(La.b;)Lc.d(;" := by decide +kernel
  rw [htext] at href hload
  have hbuilt : Draft.Built d := Draft.Built.empty.runAll Draft.cellCalls
  have hvars : (some "this").mapM (d.program.findVar? ⟨0⟩) = some (some ⟨0⟩) ∧
      ["x", "y"].mapM (d.program.findVar? ⟨0⟩) = some [⟨1⟩, ⟨2⟩] ∧
      d.program.findClass? "naïve/文.Liste" = none := by decide +kernel
  have hcall := hload d ⟨0⟩ .virtual _ _ none _ _ none hbuilt hvars.1 hvars.2.1 rfl
  refine ⟨hbuilt, hvars.2.2, hcall, by decide, href, ?_, (hnone _).mpr (by decide)⟩
  rw [hbytes]
  exact congrArg some href

end MemberRef

end PointsTo
