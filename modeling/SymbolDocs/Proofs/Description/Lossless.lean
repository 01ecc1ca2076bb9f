import SymbolDocs.Proofs.Description.Grammar
import SymbolDocs.Proofs.Description.Wording
/-!
What a description keeps of the text of a paragraph. Nothing that stands where documentation belongs
is left out. Text that strays into the scaffolding of a block is not always refused: the reader
passes over it in the items of lists and of parameters, and with it over elements that are not the
ones it looks for.
-/

namespace SymbolDocs

open Xml (Element)
open Text (ink)

structure TextOnlyIn (tag : String) (e : Element) : Prop where
  noText : NoDirectText e
  others : ∀ c ∈ e.children, c.name ≠ tag → ink c.characterData = []

instance (tag : String) (e : Element) : Decidable (TextOnlyIn tag e) :=
  decidable_of_iff (NoDirectText e ∧ ∀ c ∈ e.children, c.name ≠ tag → ink c.characterData = [])
    ⟨fun h => ⟨h.1, h.2⟩, fun h => ⟨h.noText, h.others⟩⟩

structure TextOnlyInParts (item : Element) : Prop where
  noText : NoDirectText item
  others : ∀ c ∈ item.children, c.name ≠ "parameternamelist" → c.name ≠ "parameterdescription" →
    ink c.characterData = []
  names : ∀ c ∈ item.childrenNamed "parameternamelist", TextOnlyIn "parametername" c
  body : ∀ c ∈ item.childrenNamed "parameterdescription", TextOnlyIn "para" c
  order : ∃ before behind, item.children = before ++ behind ∧
    (∀ c ∈ before, c.name ≠ "parameterdescription") ∧ ∀ c ∈ behind, c.name ≠ "parameternamelist"

/-- Neither the block nor any block inside it holds text where the reader passes over it. -/
inductive NothingStray : Block → Element → Prop
  | paragraph {e : Element} (blocks : ∀ c ∈ e.children, ∀ block,
      Block.ofTag? c.name = some block → NothingStray block c) : NothingStray .paragraph e
  | simpleSection {e : Element}
      (others : ∀ c ∈ e.children, c.name ≠ "para" → ink c.characterData = [])
      (body : ∀ p ∈ e.childrenNamed "para", NothingStray .paragraph p) :
      NothingStray .simpleSection e
  | parameterList {e : Element}
      (others : ∀ c ∈ e.children, c.name ≠ "parameteritem" → ink c.characterData = [])
      (items : ∀ item ∈ e.childrenNamed "parameteritem", TextOnlyInParts item)
      (body : ∀ item ∈ e.childrenNamed "parameteritem",
        ∀ p ∈ item.findAll "parameterdescription/para", NothingStray .paragraph p) :
      NothingStray .parameterList e
  | itemizedList {e : Element} (noText : NoDirectText e)
      (items : ∀ item ∈ e.children, NoDirectText item)
      (body : ∀ item ∈ e.children, ∀ p ∈ item.children, NothingStray .paragraph p) :
      NothingStray .itemizedList e

def inks (es : List Element) : List Char :=
  es.flatMap fun e => ink e.characterData

@[simp] theorem inks_nil : inks [] = [] := rfl

theorem inks_cons (e : Element) (es : List Element) :
    inks (e :: es) = ink e.characterData ++ inks es := rfl

theorem inks_append (xs ys : List Element) : inks (xs ++ ys) = inks xs ++ inks ys :=
  List.flatMap_append

theorem ink_characterData (e : Element) :
    ink e.characterData = ink e.text.toList ++ ink (Element.characterDataAll e.children) := by
  obtain ⟨name, attributes, text, children, tail⟩ := e
  rw [Element.characterData, Text.ink_append]
  rfl

theorem ink_characterDataAll {es : List Element}
    (h : ∀ e ∈ es, Text.isBlankText e.tail = true) :
    ink (Element.characterDataAll es) = inks es := by
  induction es with
  | nil => rfl
  | cons e es ih =>
    rw [List.forall_mem_cons] at h
    rw [Element.characterDataAll, Text.ink_append, Text.ink_append, Text.ink_of_isBlankText h.1,
      ih h.2, List.append_nil]
    rfl

theorem NoDirectText.ink_eq {e : Element} (h : NoDirectText e) :
    ink e.characterData = inks e.children := by
  rw [ink_characterData, Text.ink_of_isBlankText h.1, ink_characterDataAll h.2, List.nil_append]

theorem inks_filter {es : List Element} {tag : String}
    (h : ∀ e ∈ es, e.name ≠ tag → ink e.characterData = []) :
    inks (es.filter (·.name == tag)) = inks es := by
  induction es with
  | nil => rfl
  | cons e es ih =>
    rw [List.forall_mem_cons] at h
    by_cases he : e.name = tag
    · rw [List.filter_cons_of_pos (by simpa using he), inks_cons, inks_cons, ih h.2]
    · rw [List.filter_cons_of_neg (by simpa using he), inks_cons, h.1 he, ih h.2, List.nil_append]

theorem TextOnlyIn.ink_eq {tag : String} {e : Element} (h : TextOnlyIn tag e) :
    ink e.characterData = inks (e.childrenNamed tag) := by
  rw [h.noText.ink_eq]
  exact (inks_filter h.others).symm

theorem inks_eq_inks_select {e : Element} {first second path : String}
    (hpath : Element.pathSteps path = [first, second])
    (h : ∀ c ∈ e.childrenNamed first, TextOnlyIn second c) :
    inks (e.childrenNamed first) = inks (e.findAll path) := by
  rw [findAll_eq_flatMap hpath, inks, inks, List.flatMap_assoc]
  exact List.flatMap_congr fun c hc => (h c hc).ink_eq

theorem TextOnlyInParts.ink_eq {item : Element} (h : TextOnlyInParts item) :
    ink item.characterData = inks (item.findAll "parameternamelist/parametername") ++
      inks (item.findAll "parameterdescription/para") := by
  obtain ⟨before, behind, hchildren, hbefore, hbehind⟩ := h.order
  have hothers := h.others
  rw [hchildren, List.forall_mem_append] at hothers
  have hnames : inks (item.childrenNamed "parameternamelist") = inks before := by
    have hnone : behind.filter (·.name == "parameternamelist") = [] := by
      simpa using hbehind
    rw [Element.childrenNamed, hchildren, List.filter_append, hnone, List.append_nil]
    exact inks_filter fun c hc hne => hothers.1 c hc hne (hbefore c hc)
  have hbody : inks (item.childrenNamed "parameterdescription") = inks behind := by
    have hnone : before.filter (·.name == "parameterdescription") = [] := by
      simpa using hbefore
    rw [Element.childrenNamed, hchildren, List.filter_append, hnone, List.nil_append]
    exact inks_filter fun c hc hne => hothers.2 c hc (hbehind c hc) hne
  rw [h.noText.ink_eq, hchildren, inks_append, ← hnames, ← hbody,
    inks_eq_inks_select pathSteps_names h.names, inks_eq_inks_select pathSteps_description h.body]

theorem exists_name_of_documentedParameter {item : Element} {name : String}
    {direction : Option Direction} (h : documentedParameter item = .ok (name, direction)) :
    ∃ node, item.findAll "parameternamelist/parametername" = [node] ∧
      simpleText node = .ok name := by
  unfold documentedParameter at h
  split at h
  · next node hnode =>
    obtain ⟨text, htext, h⟩ := bind_eq_ok.mp h
    refine ⟨node, hnode, htext.trans ?_⟩
    split at h
    · rw [(Prod.mk.inj (Except.ok.inj h)).1]
    · split at h
      · rw [(Prod.mk.inj (Except.ok.inj h)).1]
      · cases h
  · cases h

namespace Description

theorem sublist_merge_text {seen : List Char} {before : List Description}
    (h : seen.Sublist (ink (wordingAll before))) {cs : List Char} {s : String}
    (hs : (ink cs).Sublist (ink s.toList)) :
    (seen ++ ink cs).Sublist (ink (wordingAll (merge before (text s)))) := by
  rw [ink_merge, wording]
  exact h.append hs

theorem sublist_merge_block {seen : List Char} {before : List Description}
    (h : seen.Sublist (ink (wordingAll before))) {e : Element} {block : Description}
    (hb : (ink e.characterData).Sublist (ink block.wording)) :
    (seen ++ ink (e.characterData ++ e.tail.toList)).Sublist
      (ink (wordingAll (merge (merge before block) (text e.tail)))) := by
  rw [Text.ink_append, ← List.append_assoc]
  apply sublist_merge_text _ (List.Sublist.refl _)
  rw [ink_merge]
  exact h.append hb

variable (parameters : List Parameter)

mutual

theorem ink_sublist_ofParagraph : ∀ (e : Element) (d : Description), NothingStray .paragraph e →
    ofParagraph ⟨none, parameters⟩ e = .ok d → (ink e.characterData).Sublist (ink d.wording)
  | .mk name _ own children _, d, hs, h => by
    cases hs with
    | paragraph blocks =>
      rw [ofParagraph] at h
      split at h
      · obtain ⟨ds, hds, rfl⟩ := map_eq_ok.mp h
        have hown : (ink own.toList).Sublist (ink (wordingAll (merge [] (text own)))) :=
          sublist_merge_text (List.nil_sublist _) (List.Sublist.refl _)
        rw [wording, Element.characterData, Text.ink_append]
        exact ink_sublist_composeChildren hown children ds blocks hds
      · cases h

theorem ink_sublist_composeChildren {seen : List Char} {before : List Description}
    (hb : seen.Sublist (ink (wordingAll before))) : ∀ (es : List Element) (ds : List Description),
    (∀ c ∈ es, ∀ block, Block.ofTag? c.name = some block → NothingStray block c) →
    composeChildren ⟨none, parameters⟩ before es = .ok ds →
      (seen ++ ink (Element.characterDataAll es)).Sublist (ink (wordingAll ds))
  | [], ds, hs, h => by
    rw [composeChildren] at h
    simpa [← Except.ok.inj h, Element.characterDataAll] using hb
  | e :: es, ds, hs, h => by
    rw [List.forall_mem_cons] at hs
    rw [composeChildren] at h
    rw [Element.characterDataAll, Text.ink_append, ← List.append_assoc]
    split at h
    · obtain ⟨s, hrender, h⟩ := bind_eq_ok.mp h
      have hsub := Renderer.ink_sublist_render none e s hrender
      exact ink_sublist_composeChildren (sublist_merge_text hb hsub) es ds hs.2 h
    · next htag =>
      obtain ⟨block, hblock, h⟩ := bind_eq_ok.mp h
      have hsub := ink_sublist_ofParagraph e block (hs.1 _ htag) hblock
      exact ink_sublist_composeChildren (sublist_merge_block hb hsub) es ds hs.2 h
    · next htag =>
      obtain ⟨block, hblock, h⟩ := bind_eq_ok.mp h
      have hsub := ink_sublist_ofSection e block (hs.1 _ htag) hblock
      exact ink_sublist_composeChildren (sublist_merge_block hb hsub) es ds hs.2 h
    · next htag =>
      obtain ⟨block, hblock, h⟩ := bind_eq_ok.mp h
      have hsub := ink_sublist_ofParameterList e block (hs.1 _ htag) hblock
      exact ink_sublist_composeChildren (sublist_merge_block hb hsub) es ds hs.2 h
    · next htag =>
      obtain ⟨block, hblock, h⟩ := bind_eq_ok.mp h
      have hsub := ink_sublist_ofItemizedList e block (hs.1 _ htag) hblock
      exact ink_sublist_composeChildren (sublist_merge_block hb hsub) es ds hs.2 h

theorem ink_sublist_ofSection : ∀ (e : Element) (d : Description), NothingStray .simpleSection e →
    ofSection ⟨none, parameters⟩ e = .ok d → (ink e.characterData).Sublist (ink d.wording)
  | .mk name attributes own children tail, d, hs, h => by
    cases hs with
    | simpleSection others body =>
      rw [ofSection] at h
      split at h
      · cases h
      · next hdirect =>
        rw [Bool.not_eq_true, hasDirectText_eq_false_iff] at hdirect
        obtain ⟨kind, -, h⟩ := bind_eq_ok.mp h
        obtain ⟨ds, hds, h⟩ := bind_eq_ok.mp h
        rw [wording_sectionNode h, wording_together, hdirect.ink_eq, ← inks_filter others]
        exact ink_sublist_paragraphsAmong children ds (forall_mem_childrenNamed_iff.mp body) hds

theorem ink_sublist_ofParameterList : ∀ (e : Element) (d : Description),
    NothingStray .parameterList e →
    ofParameterList ⟨none, parameters⟩ e = .ok d → (ink e.characterData).Sublist (ink d.wording)
  | .mk name attributes own children tail, d, hs, h => by
    cases hs with
    | parameterList others items body =>
      rw [ofParameterList] at h
      split at h
      · cases h
      · next hdirect =>
        rw [Bool.not_eq_true, hasDirectText_eq_false_iff] at hdirect
        obtain ⟨ds, hds, rfl⟩ := map_eq_ok.mp h
        rw [forall_mem_childrenNamed_iff] at items body
        rw [wording, hdirect.ink_eq, ← inks_filter others]
        exact ink_sublist_parametersAmong children ds items body hds

theorem ink_sublist_ofItemizedList : ∀ (e : Element) (d : Description),
    NothingStray .itemizedList e →
    ofItemizedList ⟨none, parameters⟩ e = .ok d → (ink e.characterData).Sublist (ink d.wording)
  | .mk _ _ _ children _, d, hs, h => by
    cases hs with
    | itemizedList noText items body =>
      rw [ofItemizedList] at h
      obtain ⟨ds, hds, rfl⟩ := map_eq_ok.mp h
      rw [wording, noText.ink_eq]
      exact ink_sublist_listItems children ds items body hds

theorem ink_sublist_paragraphsAmong : ∀ (es : List Element) (ds : List Description),
    (∀ p ∈ es, p.name = "para" → NothingStray .paragraph p) →
    paragraphsAmong ⟨none, parameters⟩ es = .ok ds →
      (inks (es.filter (·.name == "para"))).Sublist (ink (wordingAll ds))
  | [], ds, hs, h => by simp
  | e :: es, ds, hs, h => by
    rw [List.forall_mem_cons] at hs
    rw [paragraphsAmong] at h
    split at h
    · next hname =>
      obtain ⟨first, hfirst, h⟩ := bind_eq_ok.mp h
      obtain ⟨rest, hrest, h⟩ := bind_eq_ok.mp h
      rw [← Except.ok.inj h, List.filter_cons_of_pos (by exact beq_iff_eq.mpr hname), inks_cons,
        wordingAll, Text.ink_append]
      exact (ink_sublist_ofParagraph e first (hs.1 hname) hfirst).append
        (ink_sublist_paragraphsAmong es rest hs.2 hrest)
    · next hname =>
      rw [List.filter_cons_of_neg (by exact beq_iff_eq.not.mpr hname)]
      exact ink_sublist_paragraphsAmong es ds hs.2 h

theorem ink_sublist_parametersAmong : ∀ (es : List Element) (ds : List Description),
    (∀ item ∈ es, item.name = "parameteritem" → TextOnlyInParts item) →
    (∀ item ∈ es, item.name = "parameteritem" →
      ∀ p ∈ item.findAll "parameterdescription/para", NothingStray .paragraph p) →
    parametersAmong ⟨none, parameters⟩ es = .ok ds →
      (inks (es.filter (·.name == "parameteritem"))).Sublist (ink (wordingAll ds))
  | [], ds, hi, hs, h => by simp
  | .mk name attributes own children tail :: es, ds, hi, hs, h => by
    rw [List.forall_mem_cons] at hi hs
    rw [parametersAmong] at h
    split at h
    · next hname =>
      obtain ⟨⟨documented, direction⟩, hdocumented, h⟩ := bind_eq_ok.mp h
      obtain ⟨body, hbody, h⟩ := bind_eq_ok.mp h
      obtain ⟨rest, hrest, h⟩ := bind_eq_ok.mp h
      obtain ⟨node, hnode, htext⟩ := exists_name_of_documentedParameter hdocumented
      have hparagraphs := hs.1 hname
      rw [forall_mem_findAll_iff pathSteps_description] at hparagraphs
      rw [← Except.ok.inj h, List.filter_cons_of_pos (by exact beq_iff_eq.mpr hname), inks_cons,
        wordingAll, wording, wording_together, (hi.1 hname).ink_eq, hnode, Text.ink_append,
        Text.ink_append]
      refine List.Sublist.append (List.Sublist.append ?_ ?_)
        (ink_sublist_parametersAmong es rest hi.2 hs.2 hrest)
      · simpa [inks_cons] using ink_sublist_simpleText htext
      · rw [findAll_eq_flatMap pathSteps_description]
        exact ink_sublist_parameterParagraphs children body hparagraphs hbody
    · next hname =>
      rw [List.filter_cons_of_neg (by exact beq_iff_eq.not.mpr hname)]
      exact ink_sublist_parametersAmong es ds hi.2 hs.2 h

theorem ink_sublist_parameterParagraphs : ∀ (es : List Element) (ds : List Description),
    (∀ c ∈ es, c.name = "parameterdescription" → ∀ p ∈ c.children, p.name = "para" →
      NothingStray .paragraph p) →
    parameterParagraphs ⟨none, parameters⟩ es = .ok ds →
      (inks ((es.filter (·.name == "parameterdescription")).flatMap fun c =>
        c.childrenNamed "para")).Sublist (ink (wordingAll ds))
  | [], ds, hs, h => by simp
  | .mk name attributes own children tail :: es, ds, hs, h => by
    rw [List.forall_mem_cons] at hs
    rw [parameterParagraphs] at h
    split at h
    · next hname =>
      obtain ⟨first, hfirst, h⟩ := bind_eq_ok.mp h
      obtain ⟨rest, hrest, h⟩ := bind_eq_ok.mp h
      rw [← Except.ok.inj h, List.filter_cons_of_pos (by exact beq_iff_eq.mpr hname),
        List.flatMap_cons, inks_append, wordingAll_append, Text.ink_append]
      exact (ink_sublist_paragraphsAmong children first (hs.1 hname) hfirst).append
        (ink_sublist_parameterParagraphs es rest hs.2 hrest)
    · next hname =>
      rw [List.filter_cons_of_neg (by exact beq_iff_eq.not.mpr hname)]
      exact ink_sublist_parameterParagraphs es ds hs.2 h

theorem ink_sublist_listItems : ∀ (es : List Element) (ds : List Description),
    (∀ item ∈ es, NoDirectText item) →
    (∀ item ∈ es, ∀ p ∈ item.children, NothingStray .paragraph p) →
    listItems ⟨none, parameters⟩ es = .ok ds → (inks es).Sublist (ink (wordingAll ds))
  | [], ds, hi, hs, h => by simp
  | .mk name attributes own children tail :: es, ds, hi, hs, h => by
    rw [List.forall_mem_cons] at hi hs
    rw [listItems] at h
    split at h
    · split at h
      · cases h
      · next hnone =>
        have hnames : children.filter (·.name == "para") = children := by
          simpa using hnone
        obtain ⟨body, hbody, h⟩ := bind_eq_ok.mp h
        obtain ⟨rest, hrest, h⟩ := bind_eq_ok.mp h
        have hsub := ink_sublist_paragraphsAmong children body (fun p hp _ => hs.1 p hp) hbody
        rw [hnames] at hsub
        rw [← Except.ok.inj h, inks_cons, hi.1.ink_eq, wordingAll, wording_together,
          Text.ink_append]
        exact hsub.append (ink_sublist_listItems es rest hi.2 hs.2 hrest)
    · cases h

end

theorem ink_sublist_of_nothingStray {e : Element} {d : Description}
    (h : ofParagraph ⟨none, parameters⟩ e = .ok d) (hs : NothingStray .paragraph e) :
    (ink e.characterData).Sublist (ink d.wording) :=
  ink_sublist_ofParagraph parameters e d hs h

def scaffoldedMarkup : Element :=
  .mk "para" [] "Sets "
    [.mk "bold" [] "it" [.mk "sp" [] "" [] "now"] " . ",
     .mk "parameterlist" [("kind", "param")] "\n" [.mk "parameteritem" [] "\n"
       [.mk "parameternamelist" [] "\n"
         [.mk "parametername" [("direction", "inout")] "the "
           [.mk "ref" [] "state" [] " x"] ""] "\n",
        .mk "parameterdescription" [] "\n" [.mk "para" [] "what to set" [] "\n"] "\n"] "\n"] "",
     .mk "simplesect" [("kind", "pre")] "" [.mk "para" [] "" [.mk "itemizedlist" [] "\n"
       [.mk "listitem" [] "" [.mk "para" [] "x > 0" [] ""] "\n",
        .mk "listitem" [] "" [.mk "para" [] "x < 9" [] ""] "\n"] ""] ""] " after"] " not mine "

theorem nothingStray_scaffoldedMarkup : NothingStray .paragraph scaffoldedMarkup := by
  have hplain (own tail : String) : NothingStray .paragraph (.mk "para" [] own [] tail) :=
    .paragraph (by simp [Element.children])
  refine .paragraph fun c hc block hblock => ?_
  simp only [scaffoldedMarkup, Element.children, List.mem_cons, List.not_mem_nil, or_false] at hc
  rcases hc with rfl | rfl | rfl
  · cases hblock
  · obtain rfl := Option.some.inj hblock
    refine .parameterList (by decide) (List.forall_mem_singleton.mpr ?_)
      (List.forall_mem_singleton.mpr (List.forall_mem_singleton.mpr (hplain _ _)))
    exact ⟨by decide, by decide, by decide, by decide, _, _, (List.singleton_append).symm,
      by decide, by decide⟩
  · obtain rfl := Option.some.inj hblock
    refine .simpleSection (by decide) (List.forall_mem_singleton.mpr (.paragraph ?_))
    refine List.forall_mem_singleton.mpr fun block hblock => ?_
    obtain rfl := Option.some.inj hblock
    refine .itemizedList (by decide) (by decide) ?_
    simp [Element.children, hplain]

theorem ink_sublist_scaffoldedMarkup : ∃ d,
    ofParagraph ⟨none, []⟩ scaffoldedMarkup = .ok d ∧ NothingStray .paragraph scaffoldedMarkup ∧
      (ink scaffoldedMarkup.characterData).Sublist (ink d.wording) ∧
      ink d.wording = "Sets<b>itnow</b>.thestatexwhattosetx>0x<9after".toList := by
  have h : (ofParagraph ⟨none, []⟩ scaffoldedMarkup).map (fun d => ink d.wording) =
      .ok "Sets<b>itnow</b>.thestatexwhattosetx>0x<9after".toList := by decide +kernel
  obtain ⟨d, hd, hw⟩ := map_eq_ok.mp h
  have hs := nothingStray_scaffoldedMarkup
  exact ⟨d, hd, hs, ink_sublist_of_nothingStray [] hd hs, hw⟩

def strayMarkup : Element :=
  .mk "para" [] "Modes:" [.mk "itemizedlist" [] "stray"
    [.mk "listitem" [] "" [.mk "para" [] "fast" [] ""] ""] ""] ""

theorem not_sublist_strayMarkup : ∃ d, ofParagraph ⟨none, []⟩ strayMarkup = .ok d ∧
    ¬(ink strayMarkup.characterData).Sublist (ink d.wording) := by
  have h : (ofParagraph ⟨none, []⟩ strayMarkup).map (fun d => ink d.wording) =
      .ok "Modes:fast".toList := by decide +kernel
  obtain ⟨d, hd, hw⟩ := map_eq_ok.mp h
  refine ⟨d, hd, ?_⟩
  rw [hw]
  decide

end Description

end SymbolDocs
