import SymbolDocs.Description.OfMarkup
import SymbolDocs.Proofs.Description.PlainText
import SymbolDocs.Proofs.Outcome
import SymbolDocs.Proofs.Text.Words

namespace SymbolDocs

open Xml (Element)

namespace Text

theorem words_joinWith (ss : List String) :
    words (joinWith " " ss).toList = ss.flatMap fun s => words s.toList := by
  induction ss with
  | nil => exact words_nil
  | cons s ss ih =>
    by_cases hss : ss = []
    · subst hss
      rw [List.flatMap_singleton]
      rfl
    · rw [joinWith_cons hss, List.flatMap_cons, ← ih, String.toList_append, String.toList_append,
        List.append_assoc]
      exact words_append_cons (by decide) s.toList _

theorem flatMap_words_kept (ss : List String) :
    ((kept ss).flatMap fun s => words s.toList) = ss.flatMap fun s => words s.toList := by
  induction ss with
  | nil => rfl
  | cons s ss ih =>
    rw [List.flatMap_cons, ← ih, ← List.singleton_append, kept_append, List.flatMap_append]
    congr 1
    cases hblank : isBlankText s with
    | true =>
      have hnone : words s.toList = [] := words_of_blank (List.all_eq_true.mp hblank)
      simp [kept, hblank, hnone]
    | false => simp [kept, hblank, words_trim]

theorem cuts_words_join (ss : List String) :
    Cuts (ss.flatMap fun s => words s.toList) (words (String.join ss).toList) := by
  have h := cuts_words_flatten (ss.map String.toList)
  rwa [List.flatMap_map, ← List.flatMap_def, ← String.toList_join] at h

theorem flatMap_words_eq_join_iff (ss : List String) :
    (ss.flatMap fun s => words s.toList) = words (String.join ss).toList ↔
      ((ss.map String.toList).filter fun s => !s.isEmpty).IsChain
        fun s t => touches s t = false := by
  have hwords : ((ss.map String.toList).filter fun s => !s.isEmpty).flatMap words =
      ss.flatMap fun s => words s.toList := by
    induction ss with
    | nil => rfl
    | cons s ss ih =>
      rw [List.map_cons, List.filter_cons, List.flatMap_cons, ← ih]
      cases hs : s.toList with
      | nil => simp [words_nil]
      | cons c r => simp
  rw [← flatMap_words_eq_iff (by simp), hwords, List.flatten_filter_not_isEmpty, ← List.flatMap_def,
    String.toList_join]

end Text

theorem Renderer.renderAll_eq_map_mapM (r : Renderer) (es : List Element) :
    r.renderAll es = (es.mapM r.render).map String.join := by
  induction es with
  | nil => rfl
  | cons e es ih =>
    rw [renderAll, ih, List.mapM_cons]
    cases r.render e with
    | error error => rfl
    | ok first =>
      cases es.mapM r.render with
      | error error => rfl
      | ok rest => simp [bind, Except.bind, pure, Except.pure, Except.map]

namespace Description

open Text (kept joinWith words touches Cuts)

theorem compose_map_text (ss : List String) :
    compose (ss.map text) = if kept ss = [] then [] else [text (joinWith " " (kept ss))] := by
  induction ss using List.reverseRecOn with
  | nil => rfl
  | append_singleton ss s ih =>
    rw [List.map_append, List.map_singleton, compose_concat, ih, Text.kept_append, merge]
    cases hblank : Text.isBlankText s with
    | true =>
      have hs : kept [s] = [] := by simp [kept, hblank]
      rw [hs, List.append_nil, tidy, if_pos hblank]
    | false =>
      have hs : kept [s] = [Text.trim s] := by simp [kept, hblank]
      have htidy : tidy (text s) = some (text (Text.trim s)) := by simp [tidy, hblank]
      rw [hs, htidy]
      by_cases hss : kept ss = []
      · rw [if_pos hss, hss]
        rfl
      · rw [if_neg hss, if_neg (by simp), Text.joinWith_append hss (by simp)]
        rfl

variable (ctx : DescriptionContext)

theorem composeChildren_inline {es : List Element} (h : ∀ e ∈ es, Block.ofTag? e.name = none)
    (before : List Description) :
    composeChildren ctx before es =
      (es.mapM ctx.renderer.render).map fun ss => (ss.map text).foldl merge before := by
  induction es generalizing before with
  | nil =>
    rw [composeChildren]
    rfl
  | cons e es ih =>
    rw [List.forall_mem_cons] at h
    rw [composeChildren, h.1, List.mapM_cons]
    cases ctx.renderer.render e with
    | error error => rfl
    | ok first =>
      have hrest := ih h.2 (merge before (text first))
      revert hrest
      cases es.mapM ctx.renderer.render with
      | error error => exact id
      | ok rest => exact id

/-- Reading and rendering run over the same children, and differ in what they make of the results. -/
theorem ofParagraph_inline {e : Element} (hname : e.name = "para")
    (hinline : ∀ c ∈ e.children, Block.ofTag? c.name = none) :
    ofParagraph ctx e = (e.children.mapM ctx.renderer.render).map fun ss =>
        paragraph (compose ((e.text :: ss).map text)) := by
  obtain ⟨name, attributes, own, children, tail⟩ := e
  have hchildren : ∀ c ∈ children, Block.ofTag? c.name = none := hinline
  rw [ofParagraph, if_pos (by exact hname), composeChildren_inline ctx hchildren, Element.children]
  cases children.mapM ctx.renderer.render <;> rfl

theorem renderContents_eq_map_mapM (r : Renderer) (e : Element) :
    r.renderContents e = (e.children.mapM r.render).map fun ss => String.join (e.text :: ss) := by
  rw [Renderer.renderContents, r.renderAll_eq_map_mapM]
  cases e.children.mapM r.render with
  | error error => rfl
  | ok ss => simp [Except.map, bind, Except.bind, String.join_cons]

theorem plainText_compose_map_text (ss : List String) :
    plainText (paragraph (compose (ss.map text))) = joinWith " " (kept ss) := by
  rw [compose_map_text, plainText, leaves]
  split
  · next hss => rw [hss]; rfl
  · rfl

theorem words_ofParagraph_inline {e : Element} (hname : e.name = "para")
    (hinline : ∀ c ∈ e.children, Block.ofTag? c.name = none) :
    (∀ error, ofParagraph ctx e = .error error ↔
        ctx.renderer.renderContents e = .error error) ∧
      ∀ d, ofParagraph ctx e = .ok d →
        (d = paragraph [] ∨ ∃ s, d = paragraph [text s]) ∧
        ∃ ss : List String, e.children.map ctx.renderer.render = ss.map .ok ∧
          ctx.renderer.renderContents e = .ok (String.join (e.text :: ss)) ∧
          words d.plainText.toList = (e.text :: ss).flatMap (fun s => words s.toList) ∧
          Cuts (words d.plainText.toList) (words (String.join (e.text :: ss)).toList) ∧
          (words d.plainText.toList = words (String.join (e.text :: ss)).toList ↔
            (((e.text :: ss).map String.toList).filter fun s => !s.isEmpty).IsChain
              fun s t => touches s t = false) := by
  rw [ofParagraph_inline ctx hname hinline, renderContents_eq_map_mapM]
  cases hrun : e.children.mapM ctx.renderer.render with
  | error error => exact ⟨fun error => by simp [Except.map], nofun⟩
  | ok ss =>
    refine ⟨fun error => by simp [Except.map], ?_⟩
    intro d hd
    obtain rfl : paragraph (compose ((e.text :: ss).map text)) = d := Except.ok.inj hd
    have hwords : words (plainText (paragraph (compose ((e.text :: ss).map text)))).toList =
        (e.text :: ss).flatMap fun s => words s.toList := by
      rw [plainText_compose_map_text, Text.words_joinWith, Text.flatMap_words_kept]
    refine ⟨?_, ss, mapM_eq_ok_iff.mp hrun, rfl, hwords, ?_, ?_⟩
    · rw [compose_map_text]
      split
      · exact .inl rfl
      · exact .inr ⟨_, rfl⟩
    · rw [hwords]
      exact Text.cuts_words_join (e.text :: ss)
    · rw [hwords]
      exact Text.flatMap_words_eq_join_iff (e.text :: ss)

def spacedMarkup : Element :=
  .mk "para" [] " See\n"
    [.mk "emphasis" [] "the x" [] "-axis ",
     .mk "bold" [] " now " [] "",
     .mk "sp" [] "" [] "and later."] ""

theorem words_ofParagraph_inline_spacedMarkup : ∃ (d : Description) (ss : List String),
    ofParagraph ⟨none, []⟩ spacedMarkup = .ok d ∧
      d.plainText = "See <em>the x</em>-axis <b> now </b> and later." ∧
      Renderer.renderContents ⟨none, none⟩ spacedMarkup =
        .ok " See\n<em>the x</em>-axis <b> now </b> and later." ∧
      Renderer.renderContents ⟨none, none⟩ spacedMarkup =
        .ok (String.join (spacedMarkup.text :: ss)) ∧
      words d.plainText.toList = (spacedMarkup.text :: ss).flatMap (fun s => words s.toList) := by
  have hread : (ofParagraph ⟨none, []⟩ spacedMarkup).map plainText =
      .ok "See <em>the x</em>-axis <b> now </b> and later." := by decide +kernel
  have hrender : Renderer.renderContents ⟨none, none⟩ spacedMarkup =
      .ok " See\n<em>the x</em>-axis <b> now </b> and later." := by decide +kernel
  obtain ⟨d, hd, hplain⟩ := map_eq_ok.mp hread
  obtain ⟨-, ss, -, hcontents, hwords, -⟩ :=
    (words_ofParagraph_inline ⟨none, []⟩ rfl (by decide)).2 d hd
  exact ⟨d, ss, hd, hplain, hrender, hcontents, hwords⟩

def touchingMarkup : Element :=
  .mk "para" [] "foo" [.mk "bold" [] "bar" [] ""] ""

theorem words_touchingMarkup : ∃ (d : Description) (s : String),
    touchingMarkup.name = "para" ∧ (∀ c ∈ touchingMarkup.children, Block.ofTag? c.name = none) ∧
      ofParagraph ⟨none, []⟩ touchingMarkup = .ok d ∧
      Renderer.renderContents ⟨none, none⟩ touchingMarkup = .ok s ∧
      words d.plainText.toList ≠ words s.toList := by
  have hread : (ofParagraph ⟨none, []⟩ touchingMarkup).map plainText = .ok "foo <b>bar</b>" := by
    decide +kernel
  have hrender : Renderer.renderContents ⟨none, none⟩ touchingMarkup = .ok "foo<b>bar</b>" := by
    decide +kernel
  obtain ⟨d, hd, hplain⟩ := map_eq_ok.mp hread
  refine ⟨d, "foo<b>bar</b>", rfl, by decide, hd, hrender, ?_⟩
  rw [hplain]
  decide +kernel

end Description

end SymbolDocs
