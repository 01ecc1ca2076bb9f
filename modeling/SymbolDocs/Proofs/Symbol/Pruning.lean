import SymbolDocs.Proofs.Description.Pruning
import SymbolDocs.Proofs.Symbol.Descriptions

namespace SymbolDocs

namespace Visibility

theorem showsEverything_iff (v : Visibility) :
    v.showsEverything = true ↔ v = ⟨true, true, true, true, true⟩ := by
  obtain ⟨description, initializer, preconditions, postconditions, returns⟩ := v
  simp [showsEverything, and_assoc]

theorem both_all (v : Visibility) : v.both ⟨true, true, true, true, true⟩ = v := by
  simp [both]

theorem all_both (v : Visibility) : both ⟨true, true, true, true, true⟩ v = v := by
  simp [both]

theorem showsEverything_both (p q : Visibility) :
    (p.both q).showsEverything = (p.showsEverything && q.showsEverything) := by
  simp only [showsEverything, both]
  ac_rfl

end Visibility

namespace Description

theorem toList_visible (v : Visibility) (o : Option Description) :
    (visible v o).toList = o.toList.filterMap fun d => visible v (some d) := by
  cases o with
  | none => cases h : v.description <;> simp [visible, h]
  | some d => cases h : visible v (some d) <;> simp [h]

theorem wellFormed_visible {v : Visibility} {d e : Description} (hd : d.WellFormed)
    (h : visible v (some d) = some e) : e.WellFormed := by
  unfold visible at h
  split at h
  · obtain ⟨hp, -⟩ := Option.filter_eq_some_iff.mp h
    exact ⟨(kind_of_prune hp).1.trans hd.isParagraph, sound_prune v d hd.sound e hp⟩
  · cases h

theorem filter_prune_filter (v : Visibility) (o : Option Description) :
    ((o.filter fun d => !isEmptyParagraph d).bind (prune v)).filter (fun d => !isEmptyParagraph d) =
      (o.bind (prune v)).filter fun d => !isEmptyParagraph d := by
  cases o with
  | none => rfl
  | some e =>
    cases he : isEmptyParagraph e with
    | false => simp [Option.filter, he]
    | true =>
      obtain rfl := eq_of_isEmptyParagraph he
      simp [Option.filter, prune, pruneEach, compose, he]

theorem visible_of_description {v : Visibility} (h : v.description = true)
    (o : Option Description) :
    visible v o = (o.bind (prune v)).filter fun d => !isEmptyParagraph d :=
  if_pos h

theorem visible_of_not_description {v : Visibility} (h : v.description = false)
    (o : Option Description) : visible v o = none := by
  rw [visible, h]
  rfl

theorem visible_visible (p q : Visibility) (o : Option Description)
    (h : ∀ d ∈ o.toList, d.WellFormed) : visible q (visible p o) = visible (p.both q) o := by
  cases hp : p.description with
  | false =>
    have hpq : (p.both q).description = false := by simp [Visibility.both, hp]
    rw [visible_of_not_description hp, visible_of_not_description hpq]
    cases hq : q.description <;> simp [visible, hq]
  | true =>
    cases hq : q.description with
    | false =>
      have hpq : (p.both q).description = false := by simp [Visibility.both, hq]
      rw [visible_of_not_description hq, visible_of_not_description hpq]
    | true =>
      have hpq : (p.both q).description = true := by simp [Visibility.both, hp, hq]
      rw [visible_of_description hp, visible_of_description hq, visible_of_description hpq,
        filter_prune_filter]
      cases o with
      | none => rfl
      | some d => rw [Option.bind_some, prune_prune p q d (h d (by simp)).sound, Option.bind_some]

end Description

namespace Symbol

open Description (visible)

theorem pruneAll_eq_map (v : Visibility) (ss : List Symbol) : pruneAll v ss = ss.map (prune v) := by
  induction ss with
  | nil => rfl
  | cons s ss ih => rw [pruneAll, ih, List.map_cons]

theorem descriptions_prune (v : Visibility) (s : Symbol) :
    (s.prune v).descriptions = s.descriptions.filterMap fun d => visible v (some d) := by
  induction s using Symbol.induction with
  | function f => simp only [prune, descriptions, Description.toList_visible]
  | define d => simp only [prune, descriptions, Description.toList_visible]
  | enum e =>
    simp only [prune, descriptions, Description.toList_visible, List.filterMap_append,
      List.flatMap_map, pruneValue, List.filterMap_flatMap]
  | variable_ x => simp only [prune, descriptions, Description.toList_visible]
  | compound head members ih =>
    simp only [prune, descriptions, Description.toList_visible, List.filterMap_append,
      descriptionsAll_eq_flatMap, pruneAll_eq_map, List.flatMap_map, List.filterMap_flatMap]
    rw [List.flatMap_congr ih]

theorem wellDescribed_prune {v : Visibility} {s : Symbol} (h : s.WellDescribed) :
    (s.prune v).WellDescribed := by
  intro e he
  rw [descriptions_prune] at he
  obtain ⟨d, hd, hv⟩ := List.mem_filterMap.mp he
  exact Description.wellFormed_visible (h d hd) hv

theorem wellFormed_of_mem_shown {s : Symbol} (h : ∀ d ∈ s.descriptions, d.WellFormed)
    (v : Visibility) : ∀ d ∈ (s.shown v).descriptions, d.WellFormed := by
  unfold shown
  split
  · exact h
  · exact wellDescribed_prune h

def sectionedEnum : Symbol :=
  let body : List Description := [.text "before", .returns "Returns" (.paragraph [.text "it"]),
    .text "after", .list (some "Parameters") [], .list (some "Preconditions") [],
    .list (some "Parameters") [.parameter "x" none none (.paragraph [])]]
  enum ⟨"e", [⟨"a", none, some (.paragraph body)⟩], some (.paragraph [.paragraph body]),
    ⟨"f.h", 1, 1⟩⟩

theorem wellFormed_of_mem_shown_sectionedEnum :
    (∀ d ∈ sectionedEnum.descriptions, d.WellFormed) ∧
      (sectionedEnum.shown ⟨true, true, false, true, false⟩).descriptions.map (·.plainText) =
        ["before after", "before after"] ∧
      ∀ d ∈ (sectionedEnum.shown ⟨true, true, false, true, false⟩).descriptions, d.WellFormed := by
  have h : ∀ d ∈ sectionedEnum.descriptions, d.WellFormed := by decide +kernel
  exact ⟨h, by decide +kernel, wellFormed_of_mem_shown h ⟨true, true, false, true, false⟩⟩

theorem prune_prune (p q : Visibility) (s : Symbol) (h : s.WellDescribed) :
    (s.prune p).prune q = s.prune (p.both q) := by
  have hvisible := Description.visible_visible p q
  have hvalue {α : Type} (o : Option α) : (if q.initializer then
      (if p.initializer then o else none) else none) =
        if (p.both q).initializer then o else none := by
    cases hp : p.initializer <;> cases hq : q.initializer <;> simp [Visibility.both, hp, hq]
  induction s using Symbol.induction with
  | function f => simp only [prune, hvisible f.description h]
  | define d => simp only [prune, hvisible d.description h, hvalue]
  | enum e =>
    obtain ⟨he, hvalues⟩ := (wellDescribed_enum e).mp h
    simp only [prune, hvisible e.description he, List.map_map]
    congr 2
    apply List.map_congr_left
    intro value hv
    simp only [Function.comp_apply, pruneValue, hvisible value.description (hvalues value hv)]
  | variable_ x => simp only [prune, hvisible x.description h, hvalue]
  | compound head members ih =>
    obtain ⟨hhead, hmembers⟩ := (wellDescribed_compound head members).mp h
    simp only [prune, hvisible head.description hhead, pruneAll_eq_map, List.map_map]
    congr 1
    apply List.map_congr_left
    intro s hs
    exact ih s hs (hmembers s hs)

theorem shown_shown {s : Symbol} (h : s.IsBuilt) (p q : Visibility) :
    (s.shown p).shown q = s.shown (p.both q) := by
  by_cases hp : p.showsEverything = true
  · rw [(Visibility.showsEverything_iff p).mp hp, Visibility.all_both]
    rfl
  · by_cases hq : q.showsEverything = true
    · rw [(Visibility.showsEverything_iff q).mp hq, Visibility.both_all]
      rfl
    · have hpq : ¬(p.both q).showsEverything = true := by
        rw [Visibility.showsEverything_both, Bool.and_eq_true]
        exact fun h => hp h.1
      simp only [shown, if_neg hp, if_neg hq, if_neg hpq]
      exact prune_prune p q s h.wellDescribed

def sectionedMacro : Xml.Element :=
  .mk "memberdef" [("kind", "define")] ""
    [.mk "name" [] "M" [] "",
     .mk "initializer" [] "1" [] "",
     .mk "detaileddescription" [] ""
       [.mk "para" [] "before"
         [.mk "simplesect" [("kind", "return")] "" [.mk "para" [] "one" [] ""] "",
          .mk "simplesect" [("kind", "pre")] "" [.mk "para" [] "none" [] ""] "after"] ""] "",
     .mk "location" [("file", "f.h"), ("line", "1"), ("column", "1")] "" [] ""] ""

theorem shown_shown_sectionedMacro : ∃ s : Symbol, s.IsBuilt ∧
    (s.shown { returns := false }).shown { preconditions := false } =
      s.shown { returns := false, preconditions := false } ∧
    (s.shown { returns := false, preconditions := false }).description.map (·.plainText) =
      some "before after" := by
  have h : (ofMember (Index.resolve ⟨"xml", default⟩) sectionedMacro).map (fun s =>
      (s.shown { returns := false, preconditions := false }).description.map (·.plainText)) =
      .ok (some "before after") := by decide +kernel
  obtain ⟨s, hs, hd⟩ := map_eq_ok.mp h
  exact ⟨s, .member hs, shown_shown (.member hs) { returns := false } { preconditions := false }, hd⟩

end Symbol

end SymbolDocs
