import SymbolDocs.Proofs.Description.Invariant
import SymbolDocs.Proofs.Description.WellFormed

namespace SymbolDocs.Description

open Xml (Element)

theorem wellFormed_together {ds : List Description} (h : ∀ d ∈ ds, d.WellFormed) :
    (together ds).WellFormed := by
  unfold together
  split
  · next d => exact h d List.mem_cons_self
  · rw [wellFormed_paragraph]
    refine ⟨isChain_of_apart ?_, fun d hd => (h d hd).isEntry⟩
    exact fun d hd => apart_of_isParagraph (h d hd).isParagraph

theorem isEntry_sectionNode {kind : String} {body d : Description} (hb : body.WellFormed)
    (h : sectionNode kind body = .ok d) : d.IsEntry := by
  have hlist (title : String) (ht : title = preconditions ∨ title = postconditions) :
      (list (some title) [body]).IsEntry := by
    refine ⟨(sound_list _ _).mpr ⟨.inl ⟨.inr (ht.imp (congrArg some) (congrArg some)), ?_⟩, ?_⟩, rfl⟩
    · exact List.forall_mem_singleton.mpr hb.isParagraph
    · exact List.forall_mem_singleton.mpr hb.sound
  revert h
  fun_cases sectionNode kind body with
  | case1 =>
    rintro ⟨⟩
    exact ⟨(sound_returns _ _).mpr hb, rfl⟩
  | case2 hk style title =>
    rintro ⟨⟩
    exact ⟨(sound_admonition _ _ _).mpr hb, rfl⟩
  | case3 =>
    rintro ⟨⟩
    exact hlist preconditions (.inl rfl)
  | case4 =>
    rintro ⟨⟩
    exact hlist postconditions (.inr rfl)
  | case5 => nofun

variable (ctx : DescriptionContext)

def wellFormedInvariant : Invariant ctx where
  Whole := WellFormed
  Entry := IsEntry
  Documented d := d.isParameter = true ∧ d.Sound
  empty := by simp [wellFormed_paragraph]
  together := wellFormed_together
  merge_text := wellFormed_merge_text
  merge_entry := wellFormed_merge_entry
  entry_of_whole := WellFormed.isEntry
  entry_of_section := isEntry_sectionNode
  entry_of_parameters h :=
    ⟨(sound_list _ _).mpr ⟨.inr ⟨rfl, fun d hd => (h d hd).1⟩, fun d hd => (h d hd).2⟩, rfl⟩
  entry_of_items h :=
    ⟨(sound_list _ _).mpr ⟨.inl ⟨.inl rfl, fun d hd => (h d hd).isParagraph⟩,
      fun d hd => (h d hd).sound⟩, rfl⟩
  documented _ _ hb := ⟨rfl, (sound_parameter _ _ _ _).mpr hb⟩

theorem wellFormed_ofParagraph (e : Element) (d : Description) (h : ofParagraph ctx e = .ok d) :
    d.WellFormed :=
  (wellFormedInvariant ctx).whole_ofParagraph e d h

theorem wellFormed_ofParagraphs {es : List Element} {d : Description}
    (h : ofParagraphs ctx es = .ok d) : d.WellFormed :=
  (wellFormedInvariant ctx).whole_ofParagraphs h

theorem wellFormed_ofDeclaration {e : Element} {d : Description}
    (h : ofDeclaration ctx e = .ok (some d)) : d.WellFormed :=
  (wellFormedInvariant ctx).whole_ofDeclaration h

/-- The descriptions that can be read in a context: of one paragraph, of several, and of a
declaration. -/
inductive IsRead : Description → Prop
  | paragraph {e : Element} {d : Description} (h : ofParagraph ctx e = .ok d) : IsRead d
  | paragraphs {es : List Element} {d : Description} (h : ofParagraphs ctx es = .ok d) : IsRead d
  | declaration {e : Element} {d : Description} (h : ofDeclaration ctx e = .ok (some d)) : IsRead d

theorem wellFormed_of_isRead {d : Description} (h : IsRead ctx d) :
    d.WellFormed ∧ ∀ n ∈ d.nodes, ∀ c ∈ n.children,
      (c.isText = true → n.isParagraph = true) ∧
        (c.isParameter = true → n.listTitle = some "Parameters") := by
  have hd : d.WellFormed := by
    cases h with
    | paragraph h => exact wellFormed_ofParagraph ctx _ d h
    | paragraphs h => exact wellFormed_ofParagraphs ctx h
    | declaration h => exact wellFormed_ofDeclaration ctx h
  exact ⟨hd, fun n hn c hc => hd.sound.placement hn hc⟩

def nestedMarkup : Element :=
  .mk "para" [] " Sets it "
    [.mk "bold" [] "now" [] ". ",
     .mk "simplesect" [("kind", "pre")] "" [.mk "para" [] "x > 0" [] ""] "\n ",
     .mk "simplesect" [("kind", "pre")] ""
       [.mk "para" [] "" [.mk "itemizedlist" [] ""
         [.mk "listitem" [] "" [.mk "para" [] "a" [] "", .mk "para" [] " b" [] ""] ""] ""] ""] "",
     .mk "parameterlist" [] "" [.mk "parameteritem" [] ""
       [.mk "parameternamelist" [] "" [.mk "parametername" [] "x" [] ""] "",
        .mk "parameterdescription" [] "" [.mk "para" [] "the value" [] ""] ""] ""] " ",
     .mk "parameterlist" [] "" [] " end "] ""

theorem wellFormed_nestedMarkup : ∃ d,
    ofParagraph ⟨none, [⟨some "int", some "x"⟩]⟩ nestedMarkup = .ok d ∧
      d.plainText = "Sets it <b>now</b>. x > 0 a b the value end" ∧ d.WellFormed := by
  have h : (ofParagraph ⟨none, [⟨some "int", some "x"⟩]⟩ nestedMarkup).map plainText =
      .ok "Sets it <b>now</b>. x > 0 a b the value end" := by decide +kernel
  obtain ⟨d, hd, hp⟩ := map_eq_ok.mp h
  exact ⟨d, hd, hp, (wellFormed_of_isRead _ (.paragraph hd)).1⟩

end SymbolDocs.Description
