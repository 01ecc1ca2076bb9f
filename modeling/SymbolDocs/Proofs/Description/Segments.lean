import SymbolDocs.Description.OfMarkup
import SymbolDocs.Proofs.Description.PlainText
import SymbolDocs.Proofs.Outcome
import SymbolDocs.Proofs.Xml.Size
/-!
The segments of a paragraph: its texts in document order, as they stand in the markup. A description
that has been read says them all, each once and in order.
-/

namespace SymbolDocs

open Xml (Element)

mutual

/-- The text of a paragraph, and for each child what it renders to, or the segments of the block and
then its tail. -/
def segments (r : Renderer) (e : Element) : List (Except Error String) :=
  .ok e.text :: e.children.attach.flatMap fun ⟨c, _⟩ =>
    match Block.ofTag? c.name with
    | none => [r.render c]
    | some block => blockSegments r block c ++ [.ok c.tail]
termination_by (e.size, 0)
decreasing_by exact Prod.Lex.left _ _ (Element.size_lt_of_mem_children ‹_›)

def blockSegments (r : Renderer) (block : Block) (e : Element) : List (Except Error String) :=
  match block with
  | .paragraph => segments r e
  | .simpleSection => (e.findAll "para").attach.flatMap fun ⟨p, _⟩ => segments r p
  | .parameterList => (e.childrenNamed "parameteritem").attach.flatMap fun ⟨item, _⟩ =>
      (item.findAll "parameterdescription/para").attach.flatMap fun ⟨p, _⟩ => segments r p
  | .itemizedList => (e.childrenNamed "listitem").attach.flatMap fun ⟨item, _⟩ =>
      (item.childrenNamed "para").attach.flatMap fun ⟨p, _⟩ => segments r p
termination_by (e.size, 1)
decreasing_by
  · exact Prod.Lex.right _ Nat.one_pos
  · exact Prod.Lex.right' _ (Element.size_le_of_mem_findAll ‹_›) Nat.one_pos
  · have hle : p.size ≤ item.size := Element.size_le_of_mem_findAll ‹_›
    exact Prod.Lex.left _ _ (hle.trans_lt (Element.size_lt_of_mem_childrenNamed ‹_›))
  · have hlt : p.size < item.size := Element.size_lt_of_mem_childrenNamed ‹_›
    exact Prod.Lex.left _ _ (hlt.trans (Element.size_lt_of_mem_childrenNamed ‹_›))

end

def childSegments (r : Renderer) (c : Element) : List (Except Error String) :=
  match Block.ofTag? c.name with
  | none => [r.render c]
  | some block => blockSegments r block c ++ [.ok c.tail]

theorem segments_eq (r : Renderer) (e : Element) :
    segments r e = .ok e.text :: e.children.flatMap (childSegments r) := by
  rw [segments]
  simp only [List.flatMap_subtype, List.unattach_attach]
  rfl

theorem blockSegments_paragraph (r : Renderer) (e : Element) :
    blockSegments r .paragraph e = segments r e := by
  rw [blockSegments]

theorem blockSegments_simpleSection (r : Renderer) (e : Element) :
    blockSegments r .simpleSection e = (e.childrenNamed "para").flatMap (segments r) := by
  have hp : Element.pathSteps "para" = ["para"] := by decide
  rw [blockSegments]
  simp [Element.findAll, hp, Element.select]

theorem blockSegments_parameterList (r : Renderer) (e : Element) :
    blockSegments r .parameterList e = (e.childrenNamed "parameteritem").flatMap fun item =>
      (item.childrenNamed "parameterdescription").flatMap fun description =>
        (description.childrenNamed "para").flatMap (segments r) := by
  have hp : Element.pathSteps "parameterdescription/para" = ["parameterdescription", "para"] := by
    decide
  rw [blockSegments]
  simp [Element.findAll, hp, Element.select, List.flatMap_assoc]

theorem blockSegments_itemizedList (r : Renderer) (e : Element) :
    blockSegments r .itemizedList e = (e.childrenNamed "listitem").flatMap fun item =>
      (item.childrenNamed "para").flatMap (segments r) := by
  rw [blockSegments]
  simp

namespace Description

open Text (ReadAlike kept)

/-- The leaves say the segments, of which none is missing for a fault. -/
def Says (leaves : List String) (segments : List (Except Error String)) : Prop :=
  ∃ ss : List String, segments = ss.map .ok ∧ ReadAlike leaves (kept ss)

theorem says_nil : Says (leavesAll []) [] :=
  ⟨[], rfl, .refl _⟩

theorem Says.append {xs ys : List String} {ss ts : List (Except Error String)} (hx : Says xs ss)
    (hy : Says ys ts) : Says (xs ++ ys) (ss ++ ts) := by
  obtain ⟨ss, rfl, hx⟩ := hx
  obtain ⟨ts, rfl, hy⟩ := hy
  refine ⟨ss ++ ts, List.map_append.symm, ?_⟩
  rw [Text.kept_append]
  exact hx.append hy

theorem Says.of_readAlike {xs ys : List String} {ss : List (Except Error String)}
    (h : ReadAlike xs ys) (hy : Says ys ss) : Says xs ss := by
  obtain ⟨ss, rfl, hy⟩ := hy
  exact ⟨ss, rfl, h.trans hy⟩

theorem says_text (s : String) : Says (kept [s]) [.ok s] :=
  ⟨[s], rfl, .refl _⟩

theorem leaves_together (ds : List Description) : (together ds).leaves = leavesAll ds := by
  unfold together
  split
  · rw [leavesAll_singleton]
  · rw [leaves]

theorem leaves_sectionNode {kind : String} {body d : Description}
    (h : sectionNode kind body = .ok d) : d.leaves = body.leaves ∧ tidy d = some d := by
  revert h
  fun_cases sectionNode kind body with
  | case5 => nofun
  | _ =>
    rintro ⟨⟩
    simp [leaves, leavesAll, tidy]

theorem Says.merge_text {before : List Description} {ss : List (Except Error String)}
    (hb : Says (leavesAll before) ss) (s : String) :
    Says (leavesAll (merge before (text s))) (ss ++ [.ok s]) :=
  .of_readAlike (leavesAll_merge_text before s) (hb.append (says_text s))

theorem Says.merge_block {before : List Description} {block : Description}
    {ss ts : List (Except Error String)} (hb : Says (leavesAll before) ss)
    (h : Says block.leaves ts) (ht : tidy block = some block) (tail : String) :
    Says (leavesAll (merge (merge before block) (text tail))) (ss ++ (ts ++ [.ok tail])) := by
  rw [← List.append_assoc]
  exact Says.merge_text (.of_readAlike (leavesAll_merge_block before ht) (hb.append h)) tail

variable (ctx : DescriptionContext)

mutual

theorem says_ofParagraph : ∀ (e : Element) (d : Description), ofParagraph ctx e = .ok d →
    Says d.leaves (segments ctx.renderer e) ∧ tidy d = some d
  | .mk name _ own children _, d, h => by
    rw [ofParagraph] at h
    split at h
    · obtain ⟨ds, hds, rfl⟩ := map_eq_ok.mp h
      have hown : Says (leavesAll (merge [] (text own))) [.ok own] := says_nil.merge_text own
      refine ⟨?_, rfl⟩
      rw [segments_eq, leaves]
      exact says_composeChildren hown children ds hds
    · cases h

theorem says_composeChildren {before : List Description} {ss : List (Except Error String)}
    (hb : Says (leavesAll before) ss) : ∀ (es : List Element) (ds : List Description),
    composeChildren ctx before es = .ok ds →
      Says (leavesAll ds) (ss ++ es.flatMap (childSegments ctx.renderer))
  | [], ds, h => by
    rw [composeChildren] at h
    simpa [← Except.ok.inj h] using hb
  | e :: es, ds, h => by
    rw [composeChildren] at h
    rw [List.flatMap_cons, ← List.append_assoc, childSegments]
    split at h
    · next htag =>
      obtain ⟨s, hs, h⟩ := bind_eq_ok.mp h
      rw [htag, hs]
      exact says_composeChildren (hb.merge_text s) es ds h
    · next htag =>
      obtain ⟨block, hblock, h⟩ := bind_eq_ok.mp h
      obtain ⟨hsaid, htidy⟩ := says_ofParagraph e block hblock
      rw [htag]
      simp only [blockSegments_paragraph]
      exact says_composeChildren (hb.merge_block hsaid htidy e.tail) es ds h
    · next htag =>
      obtain ⟨block, hblock, h⟩ := bind_eq_ok.mp h
      obtain ⟨hsaid, htidy⟩ := says_ofSection e block hblock
      rw [htag]
      exact says_composeChildren (hb.merge_block hsaid htidy e.tail) es ds h
    · next htag =>
      obtain ⟨block, hblock, h⟩ := bind_eq_ok.mp h
      obtain ⟨hsaid, htidy⟩ := says_ofParameterList e block hblock
      rw [htag]
      exact says_composeChildren (hb.merge_block hsaid htidy e.tail) es ds h
    · next htag =>
      obtain ⟨block, hblock, h⟩ := bind_eq_ok.mp h
      obtain ⟨hsaid, htidy⟩ := says_ofItemizedList e block hblock
      rw [htag]
      exact says_composeChildren (hb.merge_block hsaid htidy e.tail) es ds h

theorem says_ofSection : ∀ (e : Element) (d : Description), ofSection ctx e = .ok d →
    Says d.leaves (blockSegments ctx.renderer .simpleSection e) ∧ tidy d = some d
  | .mk name attributes own children tail, d, h => by
    rw [ofSection] at h
    split at h
    · cases h
    · obtain ⟨kind, -, h⟩ := bind_eq_ok.mp h
      obtain ⟨body, hbody, h⟩ := bind_eq_ok.mp h
      obtain ⟨hleaves, htidy⟩ := leaves_sectionNode h
      refine ⟨?_, htidy⟩
      rw [hleaves, leaves_together, blockSegments_simpleSection]
      exact says_paragraphsAmong children body hbody

theorem says_ofParameterList : ∀ (e : Element) (d : Description), ofParameterList ctx e = .ok d →
    Says d.leaves (blockSegments ctx.renderer .parameterList e) ∧ tidy d = some d
  | .mk name attributes own children tail, d, h => by
    rw [ofParameterList] at h
    split at h
    · cases h
    · obtain ⟨ds, hds, rfl⟩ := map_eq_ok.mp h
      refine ⟨?_, rfl⟩
      rw [leaves, blockSegments_parameterList]
      exact says_parametersAmong children ds hds

theorem says_ofItemizedList : ∀ (e : Element) (d : Description), ofItemizedList ctx e = .ok d →
    Says d.leaves (blockSegments ctx.renderer .itemizedList e) ∧ tidy d = some d
  | .mk _ _ _ children _, d, h => by
    rw [ofItemizedList] at h
    obtain ⟨ds, hds, rfl⟩ := map_eq_ok.mp h
    refine ⟨?_, rfl⟩
    rw [leaves, blockSegments_itemizedList]
    exact says_listItems children ds hds

theorem says_paragraphsAmong : ∀ (es : List Element) (ds : List Description),
    paragraphsAmong ctx es = .ok ds →
      Says (leavesAll ds) ((es.filter (·.name == "para")).flatMap (segments ctx.renderer))
  | [], ds, h => by
    rw [paragraphsAmong] at h
    exact Except.ok.inj h ▸ says_nil
  | e :: es, ds, h => by
    rw [paragraphsAmong] at h
    split at h
    · next hname =>
      obtain ⟨first, hfirst, h⟩ := bind_eq_ok.mp h
      obtain ⟨rest, hrest, h⟩ := bind_eq_ok.mp h
      rw [← Except.ok.inj h, leavesAll, List.filter_cons_of_pos (by exact beq_iff_eq.mpr hname),
        List.flatMap_cons]
      exact (says_ofParagraph e first hfirst).1.append (says_paragraphsAmong es rest hrest)
    · next hname =>
      rw [List.filter_cons_of_neg (by exact beq_iff_eq.not.mpr hname)]
      exact says_paragraphsAmong es ds h

theorem says_parametersAmong : ∀ (es : List Element) (ds : List Description),
    parametersAmong ctx es = .ok ds →
      Says (leavesAll ds) ((es.filter (·.name == "parameteritem")).flatMap fun item =>
        (item.childrenNamed "parameterdescription").flatMap fun description =>
          (description.childrenNamed "para").flatMap (segments ctx.renderer))
  | [], ds, h => by
    rw [parametersAmong] at h
    exact Except.ok.inj h ▸ says_nil
  | .mk name attributes own children tail :: es, ds, h => by
    rw [parametersAmong] at h
    split at h
    · next hname =>
      obtain ⟨⟨documented, direction⟩, -, h⟩ := bind_eq_ok.mp h
      obtain ⟨body, hbody, h⟩ := bind_eq_ok.mp h
      obtain ⟨rest, hrest, h⟩ := bind_eq_ok.mp h
      rw [← Except.ok.inj h, leavesAll, leaves, leaves_together,
        List.filter_cons_of_pos (by exact beq_iff_eq.mpr hname), List.flatMap_cons]
      exact (says_parameterParagraphs children body hbody).append
        (says_parametersAmong es rest hrest)
    · next hname =>
      rw [List.filter_cons_of_neg (by exact beq_iff_eq.not.mpr hname)]
      exact says_parametersAmong es ds h

theorem says_parameterParagraphs : ∀ (es : List Element) (ds : List Description),
    parameterParagraphs ctx es = .ok ds →
      Says (leavesAll ds) ((es.filter (·.name == "parameterdescription")).flatMap fun description =>
        (description.childrenNamed "para").flatMap (segments ctx.renderer))
  | [], ds, h => by
    rw [parameterParagraphs] at h
    exact Except.ok.inj h ▸ says_nil
  | .mk name attributes own children tail :: es, ds, h => by
    rw [parameterParagraphs] at h
    split at h
    · next hname =>
      obtain ⟨first, hfirst, h⟩ := bind_eq_ok.mp h
      obtain ⟨rest, hrest, h⟩ := bind_eq_ok.mp h
      rw [← Except.ok.inj h, leavesAll_append,
        List.filter_cons_of_pos (by exact beq_iff_eq.mpr hname), List.flatMap_cons]
      exact (says_paragraphsAmong children first hfirst).append
        (says_parameterParagraphs es rest hrest)
    · next hname =>
      rw [List.filter_cons_of_neg (by exact beq_iff_eq.not.mpr hname)]
      exact says_parameterParagraphs es ds h

theorem says_listItems : ∀ (es : List Element) (ds : List Description),
    listItems ctx es = .ok ds →
      Says (leavesAll ds) ((es.filter (·.name == "listitem")).flatMap fun item =>
        (item.childrenNamed "para").flatMap (segments ctx.renderer))
  | [], ds, h => by
    rw [listItems] at h
    exact Except.ok.inj h ▸ says_nil
  | .mk name attributes own children tail :: es, ds, h => by
    rw [listItems] at h
    split at h
    · next hname =>
      split at h
      · cases h
      · obtain ⟨body, hbody, h⟩ := bind_eq_ok.mp h
        obtain ⟨rest, hrest, h⟩ := bind_eq_ok.mp h
        rw [← Except.ok.inj h, leavesAll, leaves_together,
          List.filter_cons_of_pos (by exact beq_iff_eq.mpr hname), List.flatMap_cons]
        exact (says_paragraphsAmong children body hbody).append (says_listItems es rest hrest)
    · cases h

end

theorem plainText_ofParagraph {e : Element} {d : Description} (h : ofParagraph ctx e = .ok d) :
    ∃ ss : List String, segments ctx.renderer e = ss.map .ok ∧
      d.plainText = Text.joinWith " " ((ss.filter fun s => !Text.isBlankText s).map Text.trim) := by
  obtain ⟨⟨ss, hss, hread⟩, -⟩ := says_ofParagraph ctx e d h
  exact ⟨ss, hss, hread.join⟩

def blockyMarkup : Element :=
  .mk "para" [] "\n First "
    [.mk "emphasis" [] "word" [] " and  more",
     .mk "simplesect" [("kind", "note")] " "
       [.mk "para" [] "noted" [] "", .mk "para" [] " " [] ""] "\n",
     .mk "parameterlist" [] "" [.mk "parameteritem" [] ""
       [.mk "parameternamelist" [] "" [.mk "parametername" [] "x" [] ""] "",
        .mk "parameterdescription" [] ""
          [.mk "para" [] "the value" [] "", .mk "para" [] "again" [] ""] ""] ""] " between ",
     .mk "itemizedlist" [] "" [.mk "listitem" [] "" [.mk "para" [] "item"
       [.mk "para" [] " inner" [] " outer "] ""] ""] "",
     .mk "para" [] "last" [] " words "] " not mine "

theorem plainText_blockyMarkup : ∃ (d : Description) (ss : List String),
    ofParagraph ⟨none, []⟩ blockyMarkup = .ok d ∧
      segments ⟨none, none⟩ blockyMarkup = ss.map .ok ∧
      d.plainText = Text.joinWith " " ((ss.filter fun s => !Text.isBlankText s).map Text.trim) ∧
      d.plainText = "First <em>word</em> and  more noted the value again between " ++
        "item inner outer last words" := by
  have h : (ofParagraph ⟨none, []⟩ blockyMarkup).map plainText =
      .ok ("First <em>word</em> and  more noted the value again between " ++
        "item inner outer last words") := by decide +kernel
  obtain ⟨d, hd, hp⟩ := map_eq_ok.mp h
  obtain ⟨ss, hss, hjoin⟩ := plainText_ofParagraph _ hd
  exact ⟨d, ss, hd, hss, hjoin, hp⟩

end Description

end SymbolDocs
