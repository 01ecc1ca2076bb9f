import SymbolDocs.Index
import SymbolDocs.Proofs.Outcome
import SymbolDocs.Proofs.Xml.Descendants

namespace SymbolDocs

open Xml (Element)

namespace Xml.Element

def IsNamed (e : Element) (s : String) : Prop :=
  ∃ name, e.child? "name" = some name ∧ name.children = [] ∧ Text.trim name.text = s

end Xml.Element

namespace Index

theorem mem_targets_iff {index : Index} {refid kindref : String} {t : Element} :
    t ∈ index.targets refid kindref ↔
      t ∈ index.root.descendants ∧ t.name = kindref ∧ t.attr? "refid" = some refid := by
  rw [targets, List.mem_filter, Bool.and_eq_true, beq_iff_eq, beq_iff_eq]

theorem commonName_some_eq_ok_iff {kindref refid first name : String} {ts : List Element} :
    commonName kindref refid (some first) ts = .ok name ↔
      first = name ∧ ∀ t ∈ ts, targetName kindref refid t = .ok name := by
  induction ts with
  | nil => simp [commonName]
  | cons t ts ih =>
    rw [commonName, bind_eq_ok, List.forall_mem_cons]
    constructor
    · rintro ⟨found, hfound, h⟩
      split at h
      · next hsame =>
        obtain ⟨rfl, hts⟩ := ih.mp h
        exact ⟨rfl, hsame ▸ hfound, hts⟩
      · cases h
    · rintro ⟨rfl, hfound, hts⟩
      refine ⟨first, hfound, ?_⟩
      rw [if_pos rfl]
      exact ih.mpr ⟨rfl, hts⟩

theorem resolve_eq_ok_iff {index : Index} {refid kindref name : String} :
    index.resolve refid kindref = .ok name ↔ index.targets refid kindref ≠ [] ∧
      ∀ t ∈ index.targets refid kindref, targetName kindref refid t = .ok name := by
  rw [resolve]
  cases index.targets refid kindref with
  | nil => simp [commonName]
  | cons t ts =>
    rw [commonName, bind_eq_ok, List.forall_mem_cons]
    constructor
    · rintro ⟨found, hfound, h⟩
      obtain ⟨rfl, hts⟩ := commonName_some_eq_ok_iff.mp h
      exact ⟨List.cons_ne_nil t ts, hfound, hts⟩
    · rintro ⟨-, hfound, hts⟩
      exact ⟨name, hfound, commonName_some_eq_ok_iff.mpr ⟨rfl, hts⟩⟩

/-- The ways in which a target fails to have the name of the first target. -/
inductive Offends (kindref refid : String) (first t : Element) : Error → Prop
  | unnamed (h : t.child? "name" = none) : Offends kindref refid first t (.missingField kindref "name")
  | markup {name : Element} (h : t.child? "name" = some name) (hc : name.children ≠ []) :
      Offends kindref refid first t (.malformed (.childrenInName kindref refid))
  | otherName {s s' : String} (hfirst : first.IsNamed s) (h : t.IsNamed s') (hne : s ≠ s') :
      Offends kindref refid first t (.ambiguousReference kindref refid s s')

section Offends

variable {kindref refid s : String} {first t : Element} {error : Error}

theorem targetName_eq_ok_iff : targetName kindref refid t = .ok s ↔ t.IsNamed s := by
  unfold targetName Element.IsNamed
  cases t.child? "name" with
  | none => simp
  | some name => cases hc : name.children <;> simp [hc]

theorem targetName_eq_error_iff : targetName kindref refid t = .error error ↔
    (t.child? "name" = none ∧ error = .missingField kindref "name") ∨
      ∃ name, t.child? "name" = some name ∧ name.children ≠ [] ∧
        error = .malformed (.childrenInName kindref refid) := by
  unfold targetName
  cases t.child? "name" with
  | none => simp only [Except.error.injEq, reduceCtorEq, true_and, false_and, exists_const, or_false,
      eq_comm]
  | some name => cases hc : name.children <;> simp [hc, @eq_comm _ error]

theorem offends_iff (hfirst : first.IsNamed s) : Offends kindref refid first t error ↔
    targetName kindref refid t = .error error ∨
      ∃ s', targetName kindref refid t = .ok s' ∧ s ≠ s' ∧
        error = .ambiguousReference kindref refid s s' := by
  rw [targetName_eq_error_iff]
  constructor
  · rintro (h | ⟨h, hc⟩ | ⟨hfirst', h, hne⟩)
    · exact .inl (.inl ⟨h, rfl⟩)
    · exact .inl (.inr ⟨_, h, hc, rfl⟩)
    · rw [← @targetName_eq_ok_iff kindref refid] at *
      obtain rfl := Except.ok.inj (hfirst.symm.trans hfirst')
      exact .inr ⟨_, h, hne, rfl⟩
  · rintro ((⟨h, rfl⟩ | ⟨name, h, hc, rfl⟩) | ⟨s', h, hne, rfl⟩)
    · exact .unnamed h
    · exact .markup h hc
    · exact .otherName hfirst (targetName_eq_ok_iff.mp h) hne

theorem offends_self_iff :
    Offends kindref refid first first error ↔ targetName kindref refid first = .error error := by
  rw [targetName_eq_error_iff]
  constructor
  · rintro (h | ⟨h, hc⟩ | ⟨h, h', hne⟩)
    · exact .inl ⟨h, rfl⟩
    · exact .inr ⟨_, h, hc, rfl⟩
    · rw [← @targetName_eq_ok_iff kindref refid] at h h'
      exact absurd (Except.ok.inj (h.symm.trans h')) hne
  · rintro (⟨h, rfl⟩ | ⟨name, h, hc, rfl⟩)
    · exact .unnamed h
    · exact .markup h hc

theorem not_offends_iff (hfirst : first.IsNamed s) :
    (∀ error, ¬Offends kindref refid first t error) ↔ targetName kindref refid t = .ok s := by
  simp only [offends_iff hfirst]
  cases targetName kindref refid t with
  | error error => simp
  | ok s' => simp [eq_comm]

end Offends

theorem commonName_some_eq_error_iff {kindref refid s : String} {first : Element} {error : Error}
    {ts : List Element} (hfirst : first.IsNamed s) :
    commonName kindref refid (some s) ts = .error error ↔ ∃ before t after,
      ts = before ++ t :: after ∧ Offends kindref refid first t error ∧
        ∀ u ∈ before, ∀ error', ¬Offends kindref refid first u error' := by
  induction ts with
  | nil => simp [commonName]
  | cons t ts ih =>
    rw [exists_first_cons_iff, ← ih, not_offends_iff hfirst, offends_iff hfirst, commonName]
    cases targetName kindref refid t with
    | error error' => simp [bind, Except.bind]
    | ok s' =>
      by_cases hs : s = s'
      · simp [bind, Except.bind, hs]
      · simp [bind, Except.bind, hs, eq_comm]

theorem resolve_eq_error_iff {index : Index} {refid kindref : String} {error : Error} :
    index.resolve refid kindref = .error error ↔
      (index.targets refid kindref = [] ∧ error = .unresolvedReference kindref refid) ∨
        ∃ first before t after, (index.targets refid kindref).head? = some first ∧
          index.targets refid kindref = before ++ t :: after ∧
          Offends kindref refid first t error ∧
          ∀ u ∈ before, ∀ error', ¬Offends kindref refid first u error' := by
  rw [resolve]
  cases index.targets refid kindref with
  | nil => simp [commonName, eq_comm]
  | cons first ts =>
    simp only [List.head?_cons, Option.some_inj, reduceCtorEq, false_and, false_or,
      exists_and_left, exists_eq_left']
    rw [exists_first_cons_iff, commonName]
    simp only [offends_self_iff]
    cases hname : targetName kindref refid first with
    | error error' => simp [bind, Except.bind]
    | ok s =>
      rw [← commonName_some_eq_error_iff (targetName_eq_ok_iff.mp hname)]
      simp [bind, Except.bind]

theorem resolve_unanimous (index : Index) (refid kindref : String) :
    index.targets refid kindref = (Element.preorderAll index.root.children).filter
        (fun t => t.name == kindref && t.attr? "refid" == some refid) ∧
      (∀ s, index.resolve refid kindref = .ok s ↔ index.targets refid kindref ≠ [] ∧
        ∀ t ∈ index.targets refid kindref, t.IsNamed s) ∧
      (∀ kindref' refid', index.resolve refid kindref = .error (.unresolvedReference kindref' refid') ↔
        index.targets refid kindref = [] ∧ kindref' = kindref ∧ refid' = refid) ∧
      ∀ error, index.resolve refid kindref = .error error ↔
        (index.targets refid kindref = [] ∧ error = .unresolvedReference kindref refid) ∨
          ∃ first before t after, (index.targets refid kindref).head? = some first ∧
            index.targets refid kindref = before ++ t :: after ∧
            Offends kindref refid first t error ∧
            ∀ u ∈ before, ∀ error', ¬Offends kindref refid first u error' := by
  refine ⟨by rw [targets, Element.descendants_eq_preorderAll], ?_, ?_, fun _ => resolve_eq_error_iff⟩
  · intro s
    simp only [resolve_eq_ok_iff, targetName_eq_ok_iff]
  · intro kindref' refid'
    rw [resolve_eq_error_iff]
    constructor
    · rintro (⟨hnone, h⟩ | ⟨first, before, t, after, -, -, hoffends, -⟩)
      · obtain ⟨rfl, rfl⟩ := Error.unresolvedReference.inj h
        exact ⟨hnone, rfl, rfl⟩
      · cases hoffends
    · rintro ⟨hnone, rfl, rfl⟩
      exact .inl ⟨hnone, rfl⟩

-- A target inside another one comes before the next sibling, so the missing name is not reported.
example :
    let named (name : String) (inside : List Element) := Element.mk "compound" [("refid", "a")] ""
      (.mk "name" [] name [] "" :: inside) ""
    let unnamed := Element.mk "compound" [("refid", "a")] "" [] ""
    let root := Element.mk "doxygenindex" [] "" [named " A " [named "B" []], unnamed] ""
    (Index.mk "xml" root).resolve "a" "compound" =
      .error (.ambiguousReference "compound" "a" "A" "B") := by
  decide +kernel

end Index

end SymbolDocs
