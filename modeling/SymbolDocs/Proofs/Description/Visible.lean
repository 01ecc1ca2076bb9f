import SymbolDocs.Proofs.Description.Invariant
import SymbolDocs.Proofs.Description.PlainText
import SymbolDocs.Proofs.Description.Pruning

namespace SymbolDocs.Description

open Text (ReadAlike IsTidy)

def isReturns : Description → Bool
  | returns _ _ => true
  | _ => false

def Hidden (v : Visibility) (n : Description) : Prop :=
  v.returns = false ∧ n.isReturns = true ∨
    v.preconditions = false ∧ n.listTitle = some "Preconditions" ∨
    v.postconditions = false ∧ n.listTitle = some "Postconditions"

instance (v : Visibility) (n : Description) : Decidable (Hidden v n) :=
  inferInstanceAs (Decidable (_ ∨ _))

theorem isHidden_iff (v : Visibility) (n : Description) : isHidden v n = true ↔ Hidden v n := by
  cases n with
  | list title ds =>
    cases title with
    | none => simp [isHidden, Hidden, isReturns, listTitle]
    | some title =>
      by_cases hpre : title = preconditions
      · simp [isHidden, Hidden, isReturns, listTitle, hpre, preconditions]
      · by_cases hpost : title = postconditions
        · simp [isHidden, Hidden, isReturns, listTitle, hpost, preconditions, postconditions]
        · simp only [preconditions, postconditions] at hpre hpost
          simp [isHidden, Hidden, isReturns, listTitle, hpre, hpost, preconditions, postconditions]
  | _ => simp [isHidden, Hidden, isReturns, listTitle]

theorem not_hidden_text (v : Visibility) (s : String) : ¬Hidden v (text s) := by
  simp [Hidden, isReturns, listTitle]

theorem not_hidden_paragraph (v : Visibility) (ds : List Description) :
    ¬Hidden v (paragraph ds) := by
  simp [Hidden, isReturns, listTitle]

theorem prune_of_hidden {v : Visibility} {d : Description} (h : Hidden v d) : prune v d = none := by
  rw [← isHidden_iff] at h
  cases d with
  | list title ds => rw [prune, if_pos h]
  | returns title body => rw [prune, if_pos h]
  | _ => cases h

theorem prune_cases {v : Visibility} {d : Description} (h : ¬Hidden v d) :
    (∃ s, d = text s ∧ prune v d = some (text s)) ∨
      (∃ e, prune v d = some e ∧ e.isText = false ∧ ¬Hidden v e ∧
        e.children = compose (pruneEach v d.children)) ∨
      ∃ e body, prune v d = some e ∧ e.isText = false ∧ ¬Hidden v e ∧ d.children = [body] ∧
        e.children = [(prune v body).getD (paragraph [])] := by
  have hd : ¬isHidden v d = true := (isHidden_iff v d).not.mpr h
  cases d with
  | text s => exact .inl ⟨s, rfl, by rw [prune]⟩
  | paragraph ds =>
    refine .inr (.inl ⟨paragraph (compose (pruneEach v ds)), ?_, rfl, h, rfl⟩)
    rw [prune]
  | list title ds =>
    refine .inr (.inl ⟨list title (compose (pruneEach v ds)), ?_, rfl, h, rfl⟩)
    rw [prune, if_neg hd]
  | admonition style title body =>
    refine .inr (.inr ⟨admonition style title ((prune v body).getD (paragraph [])), body, ?_, rfl,
      h, rfl, rfl⟩)
    rw [prune]
  | parameter name type direction body =>
    refine .inr (.inr ⟨parameter name type direction ((prune v body).getD (paragraph [])), body, ?_,
      rfl, h, rfl, rfl⟩)
    rw [prune]
  | returns title body =>
    refine .inr (.inr ⟨returns title ((prune v body).getD (paragraph [])), body, ?_, rfl, h, rfl,
      rfl⟩)
    rw [prune, if_neg hd]

@[elab_as_elim]
theorem children_induction {P : Description → Prop}
    (step : ∀ d : Description, (∀ c ∈ d.children, P c) → P d) (d : Description) : P d := by
  induction d using Description.induction with
  | text s => exact step _ nofun
  | paragraph ds ih => exact step _ ih
  | list title ds ih => exact step _ ih
  | admonition style title body ih => exact step _ (List.forall_mem_singleton.mpr ih)
  | parameter name type direction body ih => exact step _ (List.forall_mem_singleton.mpr ih)
  | returns title body ih => exact step _ (List.forall_mem_singleton.mpr ih)

mutual

/-- The text leaves in document order, each with the nodes that it lies in, from the outermost down
to the leaf itself. -/
def placedLeaves : Description → List (List Description × String)
  | text s => [([text s], s)]
  | paragraph ds => (placedLeavesAll ds).map fun l => (paragraph ds :: l.1, l.2)
  | list title ds => (placedLeavesAll ds).map fun l => (list title ds :: l.1, l.2)
  | admonition style title body =>
    (placedLeaves body).map fun l => (admonition style title body :: l.1, l.2)
  | parameter name type direction body =>
    (placedLeaves body).map fun l => (parameter name type direction body :: l.1, l.2)
  | returns title body => (placedLeaves body).map fun l => (returns title body :: l.1, l.2)

def placedLeavesAll : List Description → List (List Description × String)
  | [] => []
  | d :: ds => placedLeaves d ++ placedLeavesAll ds

end

def visibleLeaves (v : Visibility) (d : Description) : List String :=
  (d.placedLeaves.filter fun l => ∀ n ∈ l.1, ¬Hidden v n).map (·.2)

theorem placedLeavesAll_eq_flatMap (ds : List Description) :
    placedLeavesAll ds = ds.flatMap placedLeaves := by
  induction ds with
  | nil => rfl
  | cons d ds ih => rw [placedLeavesAll, ih, List.flatMap_cons]

theorem placedLeaves_eq {d : Description} (h : d.isText = false) :
    d.placedLeaves = (d.children.flatMap placedLeaves).map fun l => (d :: l.1, l.2) := by
  cases d with
  | text s => cases h
  | _ => simp [placedLeaves, children, placedLeavesAll_eq_flatMap]

theorem leavesAll_eq_flatMap (ds : List Description) : leavesAll ds = ds.flatMap leaves := by
  induction ds with
  | nil => rfl
  | cons d ds ih => rw [leavesAll, ih, List.flatMap_cons]

theorem leaves_eq {d : Description} (h : d.isText = false) :
    d.leaves = leavesAll d.children := by
  cases d with
  | text s => cases h
  | _ => simp [leaves, leavesAll, children]

theorem visibleLeaves_text (v : Visibility) (s : String) : visibleLeaves v (text s) = [s] := by
  simp [visibleLeaves, placedLeaves, not_hidden_text]

theorem visibleLeaves_of_hidden {v : Visibility} {d : Description} (h : Hidden v d) :
    visibleLeaves v d = [] := by
  have htext : d.isText = false := by
    cases d with
    | text s => exact absurd h (not_hidden_text v s)
    | _ => rfl
  rw [visibleLeaves, placedLeaves_eq htext, List.map_eq_nil_iff, List.filter_eq_nil_iff]
  intro l hl
  obtain ⟨l', -, rfl⟩ := List.mem_map.mp hl
  simp [h]

theorem visibleLeaves_of_not_hidden {v : Visibility} {d : Description} (h : ¬Hidden v d)
    (htext : d.isText = false) : visibleLeaves v d = d.children.flatMap (visibleLeaves v) := by
  have hkeep (l : List Description × String) :
      decide (∀ n ∈ d :: l.1, ¬Hidden v n) = decide (∀ n ∈ l.1, ¬Hidden v n) := by
    simp [h]
  rw [visibleLeaves, placedLeaves_eq htext, List.filter_map, List.map_map]
  simp only [Function.comp_def, hkeep, List.filter_flatMap, List.map_flatMap]
  rfl

theorem leavesAll_compose {ds : List Description} (h : ∀ d ∈ ds, tidy d = some d) :
    ReadAlike (leavesAll (compose ds)) (leavesAll ds) := by
  induction ds using List.reverseRecOn with
  | nil => exact .refl _
  | append_singleton ds d ih =>
    obtain ⟨hds, hd⟩ := List.forall_mem_append.mp h
    rw [compose_concat, leavesAll_append, leavesAll_singleton]
    apply (leavesAll_merge_block (compose ds) (hd d List.mem_cons_self)).trans
    exact (ih hds).append (.refl _)

theorem tidy_of_isText {d : Description} (h : d.isText = false) : tidy d = some d := by
  cases d with
  | text s => cases h
  | _ => rfl

theorem tidy_of_prune {v : Visibility} {d e : Description} (h : ∀ s ∈ d.leaves, IsTidy s)
    (he : prune v d = some e) : tidy e = some e := by
  by_cases hd : Hidden v d
  · rw [prune_of_hidden hd] at he
    cases he
  · rcases prune_cases hd with ⟨s, rfl, hp⟩ | ⟨e', hp, ht, -⟩ | ⟨e', -, hp, ht, -⟩
    · obtain rfl := Option.some.inj (hp.symm.trans he)
      obtain ⟨hblank, htrim⟩ := h s (by simp [leaves])
      simp [tidy, hblank, htrim]
    · exact Option.some.inj (hp.symm.trans he) ▸ tidy_of_isText ht
    · exact Option.some.inj (hp.symm.trans he) ▸ tidy_of_isText ht

theorem leavesAll_pruneEach {v : Visibility} {ds : List Description}
    (h : ∀ d ∈ ds, ReadAlike (leavesAll (prune v d).toList) (visibleLeaves v d)) :
    ReadAlike (leavesAll (pruneEach v ds)) (ds.flatMap (visibleLeaves v)) := by
  induction ds with
  | nil => exact .refl _
  | cons d ds ih =>
    rw [List.forall_mem_cons] at h
    rw [pruneEach, leavesAll_append, List.flatMap_cons]
    exact h.1.append (ih h.2)

theorem leaves_prune_step {v : Visibility} {d : Description} (hd : ¬Hidden v d)
    (htext : d.isText = false) (h : ∀ c ∈ d.children, ∀ s ∈ c.leaves, IsTidy s) :
    ReadAlike (leavesAll (prune v d).toList) (leavesAll (pruneEach v d.children)) := by
  rcases prune_cases hd with ⟨s, rfl, -⟩ | ⟨e, hp, he, -, hc⟩ | ⟨e, body, hp, he, -, hb, hc⟩
  · cases htext
  · rw [hp, Option.toList_some, leavesAll_singleton, leaves_eq he, hc]
    apply leavesAll_compose
    exact forall_mem_pruneEach fun c hc e => tidy_of_prune (h c hc)
  · rw [hp, Option.toList_some, leavesAll_singleton, leaves_eq he, hc, leavesAll_singleton, hb,
      pruneEach_singleton]
    cases prune v body with
    | none => exact .refl _
    | some inner =>
      rw [Option.toList_some, leavesAll_singleton]
      exact .refl _

theorem leaves_prune {v : Visibility} {d : Description} (h : ∀ s ∈ d.leaves, IsTidy s) :
    ReadAlike (leavesAll (prune v d).toList) (visibleLeaves v d) := by
  induction d using children_induction with
  | step d ih =>
    by_cases hd : Hidden v d
    · rw [prune_of_hidden hd, visibleLeaves_of_hidden hd]
      exact .refl _
    · cases htext : d.isText with
      | true =>
        cases d with
        | text s =>
          rw [prune, visibleLeaves_text]
          exact .refl _
        | _ => cases htext
      | false =>
        rw [leaves_eq htext, leavesAll_eq_flatMap, List.forall_mem_flatMap] at h
        rw [visibleLeaves_of_not_hidden hd htext]
        apply (leaves_prune_step hd htext h).trans
        exact leavesAll_pruneEach fun c hc => ih c hc (h c hc)

theorem plainText_visible {d : Description} (h : ∀ s ∈ d.leaves, IsTidy s) {v : Visibility}
    (hv : v.description = true) :
    ((visible v (some d)).map plainText).getD "" = Text.joinWith " " (d.visibleLeaves v) := by
  have hjoin := (leaves_prune (v := v) h).join
  rw [visible, if_pos hv, Option.bind_some, ← hjoin]
  cases hp : prune v d with
  | none => rfl
  | some e =>
    rw [Option.toList_some, leavesAll_singleton]
    cases he : e.isEmptyParagraph with
    | false => simp [Option.filter, he, plainText]
    | true =>
      obtain rfl := eq_of_isEmptyParagraph he
      rfl

-- Hidden nodes stand between two texts, inside an admonition and as the body of a parameter.
def nestedSections : Description :=
  paragraph [text "before", returns "Returns" (paragraph [text "a value"]), text "between",
    admonition "note" "Note" (paragraph [text "kept",
      list (some "Preconditions") [paragraph [text "never"]], text "too"]),
    list (some "Parameters") [parameter "x" none none (returns "Returns" (text "odd"))],
    text "after"]

theorem plainText_visible_nestedSections :
    (∀ s ∈ nestedSections.leaves, IsTidy s) ∧
      ((visible { returns := false, preconditions := false } (some nestedSections)).map
        plainText).getD "" = "before between kept too after" := by
  have h : ∀ s ∈ nestedSections.leaves, IsTidy s := by decide +kernel
  refine ⟨h, ?_⟩
  rw [plainText_visible h rfl]
  decide +kernel

end SymbolDocs.Description
