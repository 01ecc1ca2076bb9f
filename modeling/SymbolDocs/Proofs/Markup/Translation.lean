import SymbolDocs.Proofs.Markup.Grammar
import SymbolDocs.Proofs.Markup.Links
/-!
Rendering as a translation. An element is the sequence of its tokens in document order, each of which
is translated on its own. Rendering gives the translations in a row, or the offence of the first
element in preorder that breaks a rule of its own.
-/

namespace SymbolDocs

open Xml (Element)

namespace Xml.Element

mutual

def placed (above : List Element) : Element → List (List Element × Element)
  | mk name attributes text children tail =>
    (above, mk name attributes text children tail) ::
      placedAll (mk name attributes text children tail :: above) children

def placedAll (above : List Element) : List Element → List (List Element × Element)
  | [] => []
  | e :: es => placed above e ++ placedAll above es

end

mutual

theorem map_snd_placed : ∀ (above : List Element) (e : Element),
    (e.placed above).map (·.2) = e.preorder
  | above, mk name attributes text children tail => by
    rw [placed, List.map_cons, map_snd_placedAll, preorder]

theorem map_snd_placedAll : ∀ (above : List Element) (es : List Element),
    (placedAll above es).map (·.2) = preorderAll es
  | above, [] => rfl
  | above, e :: es => by
    rw [placedAll, List.map_append, map_snd_placed above e, map_snd_placedAll above es, preorderAll]

end

end Xml.Element

namespace Markup

inductive Token where
  | start (e : Element)
  | text (e : Element)
  | stop (e : Element)
  | tail (e : Element)

mutual

def tokens : Element → List Token
  | .mk name attributes text children tail =>
    .start (.mk name attributes text children tail) ::
      .text (.mk name attributes text children tail) ::
        (tokensAll children ++
          [.stop (.mk name attributes text children tail),
            .tail (.mk name attributes text children tail)])

def tokensAll : List Element → List Token
  | [] => []
  | e :: es => tokens e ++ tokensAll es

end

def tags : List String :=
  ["bold", "emphasis", "computeroutput", "programlisting", "verbatim", "codeline", "highlight",
    "ref", "sp"]

def codeTags : List String :=
  ["codeline", "highlight", "sp", "ref"]

theorem mem_tags_iff {tag : String} : tag ∈ tags ↔ ∃ m, ofTag? tag = some m := by
  constructor
  · intro h
    simp only [tags, List.mem_cons, List.not_mem_nil, or_false] at h
    rcases h with rfl | rfl | rfl | rfl | rfl | rfl | rfl | rfl | rfl <;> exact ⟨_, rfl⟩
  · rintro ⟨m, hm⟩
    rw [eq_tag_of_ofTag? hm]
    cases m <;> decide

theorem tag_injective : Function.Injective tag := by
  intro m m' h
  have hm := ofTag?_tag m
  rw [h, ofTag?_tag] at hm
  exact (Option.some.inj hm).symm

def languageOf (e : Element) : String :=
  match e.attr? "filename" with
  | none => ""
  | some filename => String.ofList filename.toList.tail

variable (resolver : Option Resolver)

def target? (e : Element) : Option String := do
  let resolve ← resolver
  let refid ← e.attr? "refid"
  let kindref ← e.attr? "kindref"
  (resolve refid kindref).toOption

def opening (e : Element) : String :=
  match e.name with
  | "bold" => "<b>"
  | "emphasis" => "<em>"
  | "computeroutput" => "<code>"
  | "verbatim" => "<pre><code class=\"language-cpp\">"
  | "sp" => " "
  | "programlisting" => "\n```" ++ languageOf e ++ "\n"
  | "ref" => if (target? resolver e).isSome then "[" else ""
  | _ => ""

def closing (e : Element) : String :=
  match e.name with
  | "bold" => "</b>"
  | "emphasis" => "</em>"
  | "computeroutput" => "</code>"
  | "verbatim" => "</code></pre>"
  | "programlisting" => "```\n"
  | "ref" => match target? resolver e with
    | some target => "][" ++ target ++ "]"
    | none => ""
  | _ => ""

def translate : Token → String
  | .start e => opening resolver e
  | .text e =>
    if e.name = "ref" ∧ (target? resolver e).isSome then String.ofList (Link.escape e.text.toList)
    else e.text
  | .stop e => closing resolver e
  | .tail e => e.tail

def translation (tokens : List Token) : String :=
  String.join (tokens.map (translate resolver))

def listingOffence? (e : Element) : Option Error :=
  match e.attr? "filename" with
  | none => none
  | some filename =>
    if filename.toList.head? = some '.' then none
    else some (.malformed (.listingWithoutExtension filename))

def refOffence? (e : Element) : Option Error :=
  if e.children.isEmpty then
    match resolver with
    | none => none
    | some resolve =>
      match e.attr? "refid", e.attr? "kindref" with
      | none, _ => some (.missingField "ref" "refid")
      | some _, none => some (.missingField "ref" "kindref")
      | some refid, some kindref =>
        match resolve refid kindref with
        | .ok _ => none
        | .error error => some error
  else some (.malformed (.childrenInRef ((e.attr? "refid").getD "")))

end Markup

namespace Renderer

open Markup (translation tokens tokensAll listingOffence? refOffence? languageOf target?)

def allowedTags (r : Renderer) (above : List Element) : Option (List String) :=
  if above.any (·.name == "programlisting") then some Markup.codeTags
  else r.allowed.map (·.map Markup.tag)

/-- The first of the rules for a single element that it breaks: the tag is known, it is allowed
where it stands, and a listing or a reference is in order. -/
def offence? (r : Renderer) (above : List Element) (e : Element) : Option Error :=
  if e.name ∉ Markup.tags then some (.unsupportedMarkup e.name)
  else if (r.allowedTags above).any (!·.contains e.name) then some (.illegalMarkup e.name)
  else if e.name = "programlisting" then listingOffence? e
  else if e.name = "ref" then refOffence? r.resolver e
  else none

def under (r : Renderer) (above : List Element) : Renderer :=
  if above.any (·.name == "programlisting") then { r with allowed := some Markup.inCode } else r

theorem allows_under (r : Renderer) (above : List Element) (m : Markup) :
    (r.under above).allows m = !(r.allowedTags above).any (!·.contains m.tag) := by
  unfold under allowedTags
  by_cases hlisting : above.any (·.name == "programlisting") = true
  · rw [if_pos hlisting, if_pos hlisting]
    cases m <;> rfl
  · rw [if_neg hlisting, if_neg hlisting, allows]
    cases r.allowed with
    | none => rfl
    | some ms =>
      have hmem : (ms.map Markup.tag).contains m.tag = ms.contains m := by
        rw [Bool.eq_iff_iff, List.contains_iff_mem, List.contains_iff_mem,
          List.mem_map_of_injective Markup.tag_injective]
      simp [-List.contains_eq_mem, hmem]

theorem offence?_eq (r : Renderer) (above : List Element) (e : Element) :
    r.offence? above e = match Markup.ofTag? e.name with
      | none => some (.unsupportedMarkup e.name)
      | some m =>
        if !(r.under above).allows m then some (.illegalMarkup e.name)
        else match m with
          | .programListing => listingOffence? e
          | .ref => refOffence? r.resolver e
          | _ => none := by
  cases h : Markup.ofTag? e.name with
  | none =>
    apply if_pos
    rw [Markup.mem_tags_iff]
    rintro ⟨m, hm⟩
    cases h.symm.trans hm
  | some m =>
    have hknown : ¬e.name ∉ Markup.tags := not_not.mpr (Markup.mem_tags_iff.mpr ⟨m, h⟩)
    rw [offence?, if_neg hknown]
    dsimp only
    rw [allows_under, Bool.not_not, Markup.eq_tag_of_ofTag? h]
    cases m <;> rfl

def firstOffence? (r : Renderer) (es : List (List Element × Element)) : Option Error :=
  es.findSome? fun p => r.offence? p.1 p.2

theorem firstOffence?_cons (r : Renderer) (above : List Element) (e : Element)
    (es : List (List Element × Element)) :
    r.firstOffence? ((above, e) :: es) = (r.offence? above e).or (r.firstOffence? es) := by
  rw [firstOffence?, List.findSome?_cons]
  cases r.offence? above e <;> rfl

theorem firstOffence?_append (r : Renderer) (es es' : List (List Element × Element)) :
    r.firstOffence? (es ++ es') = (r.firstOffence? es).or (r.firstOffence? es') :=
  List.findSome?_append

def answer : Option Error → String → Except Error String
  | some error, _ => .error error
  | none, s => .ok s

theorem answer_bind (o : Option Error) (s : String) (f : String → String) :
    (answer o s >>= fun inside => .ok (f inside)) = answer o (f s) := by
  cases o <;> rfl

theorem answer_append (o o' : Option Error) (s s' : String) :
    (answer o s >>= fun first => answer o' s' >>= fun rest => .ok (first ++ rest)) =
      answer (o.or o') (s ++ s') := by
  cases o with
  | some error => rfl
  | none => exact answer_bind o' s' (s ++ ·)

theorem resolver_under (r : Renderer) (above : List Element) :
    (r.under above).resolver = r.resolver := by
  unfold under
  split <;> rfl

theorem under_cons_listing (r : Renderer) {e : Element} (h : e.name = "programlisting")
    (above : List Element) :
    r.under (e :: above) = { r.under above with allowed := some Markup.inCode } := by
  unfold under
  simp only [List.any_cons, h, beq_self_eq_true, Bool.true_or, if_true]
  split <;> rfl

theorem under_cons_other (r : Renderer) {e : Element} (h : e.name ≠ "programlisting")
    (above : List Element) : r.under (e :: above) = r.under above := by
  simp [under, h]

theorem listingLanguage_eq (e : Element) :
    listingLanguage e = answer (listingOffence? e) (languageOf e) := by
  unfold listingLanguage listingOffence? languageOf
  cases e.attr? "filename" with
  | none => rfl
  | some filename =>
    dsimp only
    split
    · next extension h => simp [h, answer]
    · next h =>
      have hdot : filename.toList.head? ≠ some '.' := by
        intro hdot
        obtain ⟨extension, hext⟩ := List.head?_eq_some_iff.mp hdot
        exact h extension hext
      rw [if_neg hdot]
      rfl

theorem children_eq_nil_of_refOffence {resolver : Option Resolver} {e : Element}
    (h : refOffence? resolver e = none) : e.children = [] := by
  unfold refOffence? at h
  split at h
  · next hempty => exact List.isEmpty_iff.mp hempty
  · cases h

theorem renderRef_eq (resolver : Option Resolver) {e : Element} (h : e.name = "ref") :
    renderRef resolver e = answer (refOffence? resolver e)
      (translation resolver [.start e, .text e, .stop e, .tail e]) := by
  unfold renderRef refOffence?
  cases hempty : e.children.isEmpty with
  | false => rfl
  | true =>
    cases resolver with
    | none => simp [answer, translation, Markup.translate, Markup.opening, Markup.closing, target?, h]
    | some resolve =>
      cases hrefid : e.attr? "refid" with
      | none => simp [requiredAttr, hrefid, answer, bind, Except.bind]
      | some refid =>
        cases hkindref : e.attr? "kindref" with
        | none => simp [requiredAttr, hrefid, hkindref, answer, bind, Except.bind]
        | some kindref =>
          cases hresolve : resolve refid kindref with
          | error error =>
            simp [requiredAttr, hrefid, hkindref, hresolve, answer, bind, Except.bind]
          | ok target =>
            simp [requiredAttr, hrefid, hkindref, hresolve, answer, bind, Except.bind, translation,
              Markup.translate, Markup.opening, Markup.closing, target?, h, Except.toOption,
              String.append_assoc, Link.escapeBrackets_eq]

theorem translation_tokens (resolver : Option Resolver) (name : String)
    (attributes : List Xml.Attribute) (text : String) (children : List Element) (tail : String) :
    translation resolver (tokens (.mk name attributes text children tail)) =
      Markup.translate resolver (.start (.mk name attributes text children tail)) ++
        Markup.translate resolver (.text (.mk name attributes text children tail)) ++
          translation resolver (tokensAll children) ++
            Markup.translate resolver (.stop (.mk name attributes text children tail)) ++ tail := by
  rw [tokens]
  simp only [translation, List.map_cons, List.map_append, List.map_nil, String.join_cons,
    String.join_append, String.join_nil, String.append_assoc, String.append_empty]
  rfl

theorem translation_append (resolver : Option Resolver) (ts ts' : List Markup.Token) :
    translation resolver (ts ++ ts') = translation resolver ts ++ translation resolver ts' := by
  rw [translation, List.map_append, String.join_append]
  rfl

mutual

theorem render_under (r : Renderer) : ∀ (above : List Element) (e : Element),
    (r.under above).render e =
      answer (r.firstOffence? (e.placed above)) (translation r.resolver (tokens e))
  | above, .mk name attributes text children tail => by
    rw [render, Element.placed, firstOffence?_cons, offence?_eq]
    cases htag : Markup.ofTag? name with
    | none => simp [Element.name, htag, answer]
    | some m =>
      cases hallows : (r.under above).allows m with
      | false => simp [Element.name, htag, hallows, answer]
      | true =>
        have hinside := renderAll_under r (.mk name attributes text children tail :: above) children
        obtain rfl := Markup.eq_tag_of_ofTag? htag
        simp only [Element.name, htag, hallows, Bool.not_true, Bool.false_eq_true, ↓reduceIte]
        cases m with
        | ref =>
          -- A reference with children is at fault itself, before any of them is looked at.
          rw [renderRef_eq _ (by rfl), resolver_under]
          cases hoffence : refOffence? r.resolver (.mk _ attributes text children tail) with
          | some error => rfl
          | none =>
            obtain rfl : children = [] := children_eq_nil_of_refOffence hoffence
            rfl
        | programListing =>
          rw [under_cons_listing r (by rfl)] at hinside
          rw [listingLanguage_eq, hinside, translation_tokens]
          cases listingOffence? (.mk _ attributes text children tail) with
          | some error => rfl
          | none => exact answer_bind _ _ _
        | _ =>
          rw [under_cons_other r (by simp [Element.name, Markup.tag])] at hinside
          dsimp only
          rw [hinside, translation_tokens, answer_bind]
          rfl

theorem renderAll_under (r : Renderer) : ∀ (above : List Element) (es : List Element),
    (r.under above).renderAll es =
      answer (r.firstOffence? (Element.placedAll above es)) (translation r.resolver (tokensAll es))
  | above, [] => rfl
  | above, e :: es => by
    rw [renderAll, render_under r above e, renderAll_under r above es, answer_append,
      Element.placedAll, tokensAll, firstOffence?_append, translation_append]

end

theorem answer_eq_ok_iff {o : Option Error} {s t : String} :
    answer o s = .ok t ↔ o = none ∧ t = s := by
  cases o <;> simp [answer, eq_comm]

theorem answer_eq_error_iff {o : Option Error} {s : String} {error : Error} :
    answer o s = .error error ↔ o = some error := by
  cases o <;> simp [answer]

theorem render_translates (r : Renderer) (e : Element) :
    (e.placed []).map (·.2) = e.preorder ∧
      (∀ s, r.render e = .ok s ↔
        (∀ p ∈ e.placed [], r.offence? p.1 p.2 = none) ∧ s = translation r.resolver (tokens e)) ∧
      ∀ error, r.render e = .error error ↔
        ∃ before p after, e.placed [] = before ++ p :: after ∧ r.offence? p.1 p.2 = some error ∧
          ∀ q ∈ before, r.offence? q.1 q.2 = none := by
  have hrender : r.render e =
      answer (r.firstOffence? (e.placed [])) (translation r.resolver (tokens e)) :=
    render_under r [] e
  refine ⟨Element.map_snd_placed [] e, ?_, ?_⟩
  · intro s
    rw [hrender, answer_eq_ok_iff, firstOffence?, List.findSome?_eq_none_iff]
  · intro error
    rw [hrender, answer_eq_error_iff, firstOffence?, List.findSome?_eq_some_iff]

end Renderer

def Error.BlamesMarkup : Error → Prop
  | .unsupportedMarkup _ | .illegalMarkup _ | .malformed _ => True
  | _ => False

theorem Markup.blamesMarkup_of_listingOffence? {e : Element} {error : Error}
    (h : listingOffence? e = some error) : error.BlamesMarkup := by
  unfold listingOffence? at h
  split at h
  · cases h
  · split at h
    · cases h
    · exact Option.some.inj h ▸ trivial

theorem Markup.blamesMarkup_of_refOffence? {e : Element} {error : Error}
    (h : refOffence? none e = some error) : error.BlamesMarkup := by
  unfold refOffence? at h
  split at h
  · cases h
  · exact Option.some.inj h ▸ trivial

theorem Renderer.blamesMarkup_of_offence? {allowed : Option (List Markup)} {above : List Element}
    {e : Element} {error : Error} (h : offence? ⟨none, allowed⟩ above e = some error) :
    error.BlamesMarkup := by
  rw [offence?_eq] at h
  split at h
  · exact Option.some.inj h ▸ trivial
  · split at h
    · exact Option.some.inj h ▸ trivial
    · split at h
      · exact Markup.blamesMarkup_of_listingOffence? h
      · exact Markup.blamesMarkup_of_refOffence? h
      · cases h

theorem blamesMarkup_of_simpleText {e : Element} {error : Error} (h : simpleText e = .error error) :
    error.BlamesMarkup := by
  have hinside : Renderer.renderAll ⟨none, some Markup.inNames⟩ e.children = .error error := by
    rw [simpleText, map_eq_error, Renderer.renderContents] at h
    cases hr : Renderer.renderAll ⟨none, some Markup.inNames⟩ e.children with
    | error error' => rwa [hr] at h
    | ok s =>
      rw [hr] at h
      cases h
  have hunder := Renderer.renderAll_under ⟨none, some Markup.inNames⟩ [] e.children
  rw [show Renderer.under ⟨none, some Markup.inNames⟩ [] = ⟨none, some Markup.inNames⟩ from rfl,
    hinside, eq_comm, Renderer.answer_eq_error_iff] at hunder
  obtain ⟨p, -, hp⟩ := List.exists_of_findSome?_eq_some hunder
  exact Renderer.blamesMarkup_of_offence? hp

end SymbolDocs
