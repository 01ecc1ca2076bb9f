import SymbolDocs.Description.OfMarkup
import SymbolDocs.Proofs.Markup.Grammar
/-!
The grammar of paragraphs. The reader accepts exactly what it derives: nothing else can be read, and
nothing that it derives is refused.
-/

namespace SymbolDocs

open Xml (Element)

def NoDirectText (e : Element) : Prop :=
  Text.isBlankText e.text = true ∧ ∀ c ∈ e.children, Text.isBlankText c.tail = true

instance (e : Element) : Decidable (NoDirectText e) :=
  inferInstanceAs (Decidable (_ ∧ _))

def sectionKinds : List String :=
  ["return", "note", "warning", "todo", "bug", "remark", "pre", "post"]

def NamesParameter (item : Element) : Prop :=
  ∃ node, item.findAll "parameternamelist/parametername" = [node] ∧
    (∀ c ∈ node.children, c.name = "ref" ∧ c.children = []) ∧
    ∀ direction, node.attr? "direction" = some direction → direction ∈ ["in", "out", "inout"]

def Block.tag : Block → String
  | paragraph => "para"
  | simpleSection => "simplesect"
  | parameterList => "parameterlist"
  | itemizedList => "itemizedlist"

theorem Block.eq_tag_of_ofTag? {s : String} {block : Block} (h : ofTag? s = some block) :
    s = block.tag := by
  revert h
  fun_cases ofTag? s <;> rintro ⟨⟩ <;> rfl

mutual

inductive IsBlock (resolver : Option Resolver) : Block → Element → Prop
  | paragraph {e : Element} (tag : e.name = "para")
      (children : ∀ c ∈ e.children, IsContent resolver c) : IsBlock resolver .paragraph e
  | simpleSection {e : Element} (tag : e.name = "simplesect") (noText : NoDirectText e)
      (kind : ∃ kind ∈ sectionKinds, e.attr? "kind" = some kind)
      (body : ∀ p ∈ e.childrenNamed "para", IsBlock resolver .paragraph p) :
      IsBlock resolver .simpleSection e
  | parameterList {e : Element} (tag : e.name = "parameterlist") (noText : NoDirectText e)
      (names : ∀ item ∈ e.childrenNamed "parameteritem", NamesParameter item)
      (body : ∀ item ∈ e.childrenNamed "parameteritem",
        ∀ p ∈ item.findAll "parameterdescription/para", IsBlock resolver .paragraph p) :
      IsBlock resolver .parameterList e
  | itemizedList {e : Element} (tag : e.name = "itemizedlist")
      (items : ∀ item ∈ e.children, item.name = "listitem")
      (body : ∀ item ∈ e.children, ∀ p ∈ item.children, IsBlock resolver .paragraph p) :
      IsBlock resolver .itemizedList e

inductive IsContent (resolver : Option Resolver) : Element → Prop
  | block {block : Block} {e : Element} (h : IsBlock resolver block e) : IsContent resolver e
  | inline {e : Element} (h : IsInline resolver false e) : IsContent resolver e

end

theorem forall_mem_childrenNamed_iff {e : Element} {tag : String} {P : Element → Prop} :
    (∀ c ∈ e.childrenNamed tag, P c) ↔ ∀ c ∈ e.children, c.name = tag → P c := by
  simp [Element.childrenNamed]

theorem pathSteps_names : Element.pathSteps "parameternamelist/parametername" =
    ["parameternamelist", "parametername"] := by decide

theorem pathSteps_description : Element.pathSteps "parameterdescription/para" =
    ["parameterdescription", "para"] := by decide

theorem findAll_eq_flatMap {path first second : String}
    (hpath : Element.pathSteps path = [first, second]) (e : Element) :
    e.findAll path = (e.childrenNamed first).flatMap fun c => c.childrenNamed second := by
  simp [Element.findAll, hpath, Element.select]

theorem forall_mem_findAll_iff {e : Element} {path first second : String} {P : Element → Prop}
    (hpath : Element.pathSteps path = [first, second]) :
    (∀ p ∈ e.findAll path, P p) ↔
      ∀ c ∈ e.children, c.name = first → ∀ p ∈ c.children, p.name = second → P p := by
  simp only [findAll_eq_flatMap hpath, List.forall_mem_flatMap, forall_mem_childrenNamed_iff]

section Grammar

variable {resolver : Option Resolver} {e : Element}

theorem IsBlock.ofTag? {block : Block} (h : IsBlock resolver block e) :
    Block.ofTag? e.name = some block := by
  cases h with
  | paragraph tag | simpleSection tag | parameterList tag | itemizedList tag => rw [tag]; rfl

theorem IsInline.ofTag?_eq_none {inListing : Bool} (h : IsInline resolver inListing e) :
    Block.ofTag? e.name = none := by
  obtain ⟨m, hm⟩ := h.exists_ofTag?
  rw [Markup.eq_tag_of_ofTag? hm]
  cases m <;> rfl

theorem isContent_iff_isInline (h : Block.ofTag? e.name = none) :
    IsContent resolver e ↔ IsInline resolver false e := by
  constructor
  · intro hc
    cases hc with
    | block hb => exact absurd (h.symm.trans hb.ofTag?) (by simp)
    | inline hi => exact hi
  · exact .inline

theorem isContent_iff_isBlock {block : Block} (h : Block.ofTag? e.name = some block) :
    IsContent resolver e ↔ IsBlock resolver block e := by
  constructor
  · intro hc
    cases hc with
    | block hb =>
      obtain rfl := Option.some.inj (hb.ofTag?.symm.trans h)
      exact hb
    | inline hi => exact absurd (h.symm.trans hi.ofTag?_eq_none) (by simp)
  · exact .block

theorem isBlock_paragraph_iff :
    IsBlock resolver .paragraph e ↔ e.name = "para" ∧ ∀ c ∈ e.children, IsContent resolver c := by
  constructor
  · rintro ⟨tag, children⟩
    exact ⟨tag, children⟩
  · rintro ⟨tag, children⟩
    exact .paragraph tag children

theorem isBlock_simpleSection_iff (h : Block.ofTag? e.name = some .simpleSection) :
    IsBlock resolver .simpleSection e ↔ NoDirectText e ∧
      (∃ kind ∈ sectionKinds, e.attr? "kind" = some kind) ∧
        ∀ p ∈ e.children, p.name = "para" → IsBlock resolver .paragraph p := by
  constructor
  · intro hb
    cases hb with
    | simpleSection tag noText kind body =>
      exact ⟨noText, kind, forall_mem_childrenNamed_iff.mp body⟩
  · rintro ⟨noText, kind, body⟩
    exact .simpleSection (Block.eq_tag_of_ofTag? h) noText kind
      (forall_mem_childrenNamed_iff.mpr body)

theorem isBlock_parameterList_iff (h : Block.ofTag? e.name = some .parameterList) :
    IsBlock resolver .parameterList e ↔ NoDirectText e ∧
      ∀ item ∈ e.children, item.name = "parameteritem" → NamesParameter item ∧
        ∀ p ∈ item.findAll "parameterdescription/para", IsBlock resolver .paragraph p := by
  constructor
  · intro hb
    cases hb with
    | parameterList tag noText names body =>
      rw [forall_mem_childrenNamed_iff] at names body
      exact ⟨noText, fun item hitem hname => ⟨names item hitem hname, body item hitem hname⟩⟩
  · rintro ⟨noText, items⟩
    refine .parameterList (Block.eq_tag_of_ofTag? h) noText ?_ ?_
    · rw [forall_mem_childrenNamed_iff]
      exact fun item hitem hname => (items item hitem hname).1
    · rw [forall_mem_childrenNamed_iff]
      exact fun item hitem hname => (items item hitem hname).2

theorem isBlock_itemizedList_iff (h : Block.ofTag? e.name = some .itemizedList) :
    IsBlock resolver .itemizedList e ↔ ∀ item ∈ e.children, item.name = "listitem" ∧
      ∀ p ∈ item.children, IsBlock resolver .paragraph p := by
  constructor
  · intro hb
    cases hb with
    | itemizedList tag items body => exact fun item hitem => ⟨items item hitem, body item hitem⟩
  · intro items
    exact .itemizedList (Block.eq_tag_of_ofTag? h) (fun item hitem => (items item hitem).1)
      fun item hitem => (items item hitem).2

end Grammar

theorem hasDirectText_eq_false_iff (e : Element) : e.hasDirectText = false ↔ NoDirectText e := by
  simp [Element.hasDirectText, Element.hasText, NoDirectText]

theorem Direction.ofName?_isSome_iff (s : String) :
    (∃ d, Direction.ofName? s = some d) ↔ s ∈ ["in", "out", "inout"] := by
  fun_cases Direction.ofName? s <;> simp_all

theorem documentedParameter_ok_iff (item : Element) :
    (∃ p, documentedParameter item = .ok p) ↔ NamesParameter item := by
  unfold documentedParameter NamesParameter
  split
  · next node hnode =>
    simp only [hnode, List.cons.injEq, and_true, exists_eq_left', ← simpleText_ok_iff]
    refine exists_bind_eq_ok fun name => ?_
    cases hd : node.attr? "direction" with
    | none => simp
    | some value =>
      simp only [Option.some.injEq, forall_eq', ← Direction.ofName?_isSome_iff]
      cases Direction.ofName? value <;> simp
  · next hmany =>
    simp only [reduceCtorEq, exists_false, false_iff]
    rintro ⟨node, hnode, -⟩
    exact hmany node hnode

theorem admonition?_isSome_iff (kind : String) :
    (admonition? kind).isSome = true ↔ kind ∈ ["note", "warning", "todo", "bug", "remark"] := by
  fun_cases admonition? kind <;> simp_all

theorem sectionNode_ok_iff (kind : String) (body : Description) :
    (∃ d, sectionNode kind body = .ok d) ↔ kind ∈ sectionKinds := by
  have hkinds : kind ∈ sectionKinds ↔
      kind = "return" ∨ (admonition? kind).isSome = true ∨ kind = "pre" ∨ kind = "post" := by
    rw [admonition?_isSome_iff]
    simp [sectionKinds, or_assoc]
  rw [hkinds]
  fun_cases sectionNode kind body <;> simp_all

namespace Description

variable (ctx : DescriptionContext)

mutual

theorem ofParagraph_ok_iff : ∀ e : Element,
    (∃ d, ofParagraph ctx e = .ok d) ↔ IsBlock ctx.resolver .paragraph e
  | .mk name attributes own children tail => by
    rw [ofParagraph, isBlock_paragraph_iff]
    split
    · next hname =>
      rw [exists_map_eq_ok, composeChildren_ok_iff]
      exact (and_iff_right hname).symm
    · next hname =>
      simp only [reduceCtorEq, exists_false, false_iff]
      rintro ⟨tag, -⟩
      exact hname tag

theorem composeChildren_ok_iff : ∀ (before : List Description) (es : List Element),
    (∃ ds, composeChildren ctx before es = .ok ds) ↔ ∀ e ∈ es, IsContent ctx.resolver e
  | before, [] => by simp [composeChildren]
  | before, e :: es => by
    rw [composeChildren, List.forall_mem_cons]
    split
    · next htag =>
      rw [isContent_iff_isInline htag, ← Renderer.render_ok_iff]
      exact exists_bind_eq_ok fun s => composeChildren_ok_iff _ es
    · next htag =>
      rw [isContent_iff_isBlock htag, ← ofParagraph_ok_iff]
      exact exists_bind_eq_ok fun block => composeChildren_ok_iff _ es
    · next htag =>
      rw [isContent_iff_isBlock htag, ← ofSection_ok_iff e htag]
      exact exists_bind_eq_ok fun block => composeChildren_ok_iff _ es
    · next htag =>
      rw [isContent_iff_isBlock htag, ← ofParameterList_ok_iff e htag]
      exact exists_bind_eq_ok fun block => composeChildren_ok_iff _ es
    · next htag =>
      rw [isContent_iff_isBlock htag, ← ofItemizedList_ok_iff e htag]
      exact exists_bind_eq_ok fun block => composeChildren_ok_iff _ es

theorem ofSection_ok_iff : ∀ e : Element, Block.ofTag? e.name = some .simpleSection →
    ((∃ d, ofSection ctx e = .ok d) ↔ IsBlock ctx.resolver .simpleSection e)
  | .mk name attributes own children tail, htag => by
    have hbody := paragraphsAmong_ok_iff children
    rw [isBlock_simpleSection_iff htag, ofSection, ← hasDirectText_eq_false_iff]
    cases (Element.mk name attributes own children tail).hasDirectText with
    | true => simp
    | false =>
      simp only [Bool.false_eq_true, if_false, true_and]
      constructor
      · rintro ⟨d, hd⟩
        obtain ⟨kind, hkind, hd⟩ := bind_eq_ok.mp hd
        obtain ⟨ds, hds, hd⟩ := bind_eq_ok.mp hd
        have hkinds := (sectionNode_ok_iff kind _).mp ⟨d, hd⟩
        exact ⟨⟨kind, hkinds, (requiredAttr_eq_ok_iff _ _ _ _).mp hkind⟩, hbody.mp ⟨ds, hds⟩⟩
      · rintro ⟨⟨kind, hkinds, hkind⟩, hps⟩
        obtain ⟨ds, hds⟩ := hbody.mpr hps
        obtain ⟨d, hd⟩ := (sectionNode_ok_iff kind (together ds)).mpr hkinds
        refine ⟨d, bind_eq_ok.mpr ⟨kind, (requiredAttr_eq_ok_iff _ _ _ _).mpr hkind, ?_⟩⟩
        exact bind_eq_ok.mpr ⟨ds, hds, hd⟩

theorem ofParameterList_ok_iff : ∀ e : Element, Block.ofTag? e.name = some .parameterList →
    ((∃ d, ofParameterList ctx e = .ok d) ↔ IsBlock ctx.resolver .parameterList e)
  | .mk name attributes own children tail, htag => by
    rw [isBlock_parameterList_iff htag, ofParameterList, ← hasDirectText_eq_false_iff]
    cases (Element.mk name attributes own children tail).hasDirectText with
    | true => simp
    | false =>
      simp only [Bool.false_eq_true, if_false, true_and]
      rw [exists_map_eq_ok, parametersAmong_ok_iff]
      rfl

theorem ofItemizedList_ok_iff : ∀ e : Element, Block.ofTag? e.name = some .itemizedList →
    ((∃ d, ofItemizedList ctx e = .ok d) ↔ IsBlock ctx.resolver .itemizedList e)
  | .mk name attributes own children tail, htag => by
    rw [isBlock_itemizedList_iff htag, ofItemizedList, exists_map_eq_ok, listItems_ok_iff]
    rfl

theorem paragraphsAmong_ok_iff : ∀ es : List Element,
    (∃ ds, paragraphsAmong ctx es = .ok ds) ↔
      ∀ p ∈ es, p.name = "para" → IsBlock ctx.resolver .paragraph p
  | [] => by simp [paragraphsAmong]
  | e :: es => by
    rw [paragraphsAmong, List.forall_mem_cons]
    split
    · next hname =>
      rw [forall_prop_of_true hname, ← ofParagraph_ok_iff e, ← paragraphsAmong_ok_iff es]
      exact exists_bind_eq_ok fun first => exists_bind_ok_eq_ok
    · next hname =>
      rw [and_iff_right fun h => absurd h hname]
      exact paragraphsAmong_ok_iff es

theorem parametersAmong_ok_iff : ∀ es : List Element,
    (∃ ds, parametersAmong ctx es = .ok ds) ↔ ∀ item ∈ es, item.name = "parameteritem" →
      NamesParameter item ∧
        ∀ p ∈ item.findAll "parameterdescription/para", IsBlock ctx.resolver .paragraph p
  | [] => by simp [parametersAmong]
  | .mk name attributes own children tail :: es => by
    rw [parametersAmong, List.forall_mem_cons, Element.name]
    split
    · next hname =>
      rw [forall_prop_of_true hname, ← documentedParameter_ok_iff, ← parametersAmong_ok_iff es,
        forall_mem_findAll_iff pathSteps_description, and_assoc]
      refine exists_bind_eq_ok fun (documented, direction) => ?_
      rw [Element.children, ← parameterParagraphs_ok_iff children]
      exact exists_bind_eq_ok fun body => exists_bind_ok_eq_ok
    · next hname =>
      rw [and_iff_right fun h => absurd h hname]
      exact parametersAmong_ok_iff es

theorem parameterParagraphs_ok_iff : ∀ es : List Element,
    (∃ ds, parameterParagraphs ctx es = .ok ds) ↔ ∀ d ∈ es, d.name = "parameterdescription" →
      ∀ p ∈ d.children, p.name = "para" → IsBlock ctx.resolver .paragraph p
  | [] => by simp [parameterParagraphs]
  | .mk name attributes own children tail :: es => by
    rw [parameterParagraphs, List.forall_mem_cons, Element.name]
    split
    · next hname =>
      rw [forall_prop_of_true hname, ← parameterParagraphs_ok_iff es, Element.children,
        ← paragraphsAmong_ok_iff children]
      exact exists_bind_eq_ok fun first => exists_bind_ok_eq_ok
    · next hname =>
      rw [and_iff_right fun h => absurd h hname]
      exact parameterParagraphs_ok_iff es

theorem listItems_ok_iff : ∀ es : List Element,
    (∃ ds, listItems ctx es = .ok ds) ↔ ∀ item ∈ es, item.name = "listitem" ∧
      ∀ p ∈ item.children, IsBlock ctx.resolver .paragraph p
  | [] => by simp [listItems]
  | .mk name attributes own children tail :: es => by
    have hbody := paragraphsAmong_ok_iff children
    rw [listItems, List.forall_mem_cons, Element.name]
    split
    · next hname =>
      split
      · next other hother =>
        -- A child that is no paragraph stops the reader, and no rule derives it as one.
        simp only [reduceCtorEq, exists_false, false_iff]
        rintro ⟨⟨-, hps⟩, -⟩
        obtain ⟨tag, -⟩ := hps other (List.mem_of_find?_eq_some hother)
        have hne := List.find?_some hother
        simp [tag] at hne
      · next hnone =>
        have hnames : ∀ p ∈ children, p.name = "para" := by
          simpa using hnone
        have hall : (∀ p ∈ children, p.name = "para" → IsBlock ctx.resolver .paragraph p) ↔
            ∀ p ∈ children, IsBlock ctx.resolver .paragraph p :=
          forall₂_congr fun p hp => forall_prop_of_true (hnames p hp)
        rw [Element.children, ← hall, ← hbody, and_iff_right hname, ← listItems_ok_iff es]
        exact exists_bind_eq_ok fun body => exists_bind_ok_eq_ok
    · next hname =>
      simp only [reduceCtorEq, exists_false, false_iff]
      rintro ⟨⟨tag, -⟩, -⟩
      exact hname tag

end

theorem ofDeclaration_ok_iff (e : Element) :
    (∃ d, ofDeclaration ctx e = .ok d) ↔
      ∀ p ∈ e.findAll "briefdescription/para" ++ e.findAll "detaileddescription/para",
        IsBlock ctx.resolver .paragraph p := by
  unfold ofDeclaration
  split
  · next hnone => simp [hnone]
  · rw [exists_map_eq_ok, ofParagraphs, exists_map_eq_ok, exists_mapM_eq_ok_iff]
    exact forall₂_congr fun p _ => ofParagraph_ok_iff ctx p

theorem exists_ok_iff_isBlock (e : Element) :
    ((∃ d, ofParagraph ctx e = .ok d) ↔ IsBlock ctx.resolver .paragraph e) ∧
      ((∃ d, ofDeclaration ctx e = .ok d) ↔
        ∀ p ∈ e.findAll "briefdescription/para" ++ e.findAll "detaileddescription/para",
          IsBlock ctx.resolver .paragraph p) :=
  ⟨ofParagraph_ok_iff ctx e, ofDeclaration_ok_iff ctx e⟩

end Description

end SymbolDocs
