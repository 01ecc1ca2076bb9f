import SymbolDocs.Markup
import SymbolDocs.Proofs.Outcome

namespace SymbolDocs

open Xml (Element)

def Markup.tag : Markup → String
  | bold => "bold"
  | emphasis => "emphasis"
  | computerOutput => "computeroutput"
  | programListing => "programlisting"
  | verbatim => "verbatim"
  | codeLine => "codeline"
  | highlight => "highlight"
  | ref => "ref"
  | space => "sp"

theorem Markup.eq_tag_of_ofTag? {s : String} {m : Markup} (h : ofTag? s = some m) : s = m.tag := by
  revert h
  fun_cases ofTag? s <;> rintro ⟨⟩ <;> rfl

theorem Markup.ofTag?_tag (m : Markup) : ofTag? m.tag = some m := by
  cases m <;> rfl

def HasTarget (resolver : Option Resolver) (e : Element) : Prop :=
  ∀ resolve, resolver = some resolve → ∃ refid kindref target,
    e.attr? "refid" = some refid ∧ e.attr? "kindref" = some kindref ∧
      resolve refid kindref = .ok target

def HasExtension (e : Element) : Prop :=
  ∀ filename, e.attr? "filename" = some filename → filename.toList.head? = some '.'

inductive IsInline (resolver : Option Resolver) : (inListing : Bool) → Element → Prop
  | prose {e : Element} (tag : e.name ∈ ["bold", "emphasis", "computeroutput", "verbatim"])
      (children : ∀ c ∈ e.children, IsInline resolver false c) : IsInline resolver false e
  | code {inListing : Bool} {e : Element} (tag : e.name ∈ ["codeline", "highlight", "sp"])
      (children : ∀ c ∈ e.children, IsInline resolver inListing c) : IsInline resolver inListing e
  | listing {e : Element} (tag : e.name = "programlisting") (filename : HasExtension e)
      (children : ∀ c ∈ e.children, IsInline resolver true c) : IsInline resolver false e
  | ref {inListing : Bool} {e : Element} (tag : e.name = "ref") (childless : e.children = [])
      (target : HasTarget resolver e) : IsInline resolver inListing e

theorem IsInline.exists_ofTag? {resolver : Option Resolver} {inListing : Bool} {e : Element}
    (h : IsInline resolver inListing e) : ∃ m, Markup.ofTag? e.name = some m := by
  have hof (m : Markup) (hm : e.name = m.tag) : ∃ m, Markup.ofTag? e.name = some m :=
    ⟨m, by rw [hm, Markup.ofTag?_tag]⟩
  cases h with
  | prose tag _ =>
    simp only [List.mem_cons, List.not_mem_nil, or_false] at tag
    rcases tag with h | h | h | h
    · exact hof .bold h
    · exact hof .emphasis h
    · exact hof .computerOutput h
    · exact hof .verbatim h
  | code tag _ =>
    simp only [List.mem_cons, List.not_mem_nil, or_false] at tag
    rcases tag with h | h | h
    · exact hof .codeLine h
    · exact hof .highlight h
    · exact hof .space h
  | listing tag _ _ => exact hof .programListing tag
  | ref tag _ _ => exact hof .ref tag

theorem isInline_iff {resolver : Option Resolver} {inListing : Bool} {e : Element} {m : Markup}
    (h : Markup.ofTag? e.name = some m) :
    IsInline resolver inListing e ↔
      (inListing = true → m ∈ Markup.inCode) ∧ match m with
        | .ref => e.children = [] ∧ HasTarget resolver e
        | .programListing => HasExtension e ∧ ∀ c ∈ e.children, IsInline resolver true c
        | _ => ∀ c ∈ e.children, IsInline resolver inListing c := by
  have htag := Markup.eq_tag_of_ofTag? h
  constructor
  · intro hi
    cases hi with
    | prose tag children => cases m <;> simp_all [Markup.tag]
    | code tag children => cases m <;> simp_all [Markup.tag, Markup.inCode]
    | listing tag filename children => cases m <;> simp_all [Markup.tag]
    | ref tag childless target => cases m <;> simp_all [Markup.tag, Markup.inCode]
  · rintro ⟨hcode, hm⟩
    have hprose (hnot : m ∉ Markup.inCode) : inListing = false := by
      cases inListing with
      | false => rfl
      | true => exact absurd (hcode rfl) hnot
    cases m with
    | ref => exact .ref htag hm.1 hm.2
    | programListing =>
      obtain rfl := hprose (by decide)
      exact .listing htag hm.1 hm.2
    | bold | emphasis | computerOutput | verbatim =>
      obtain rfl := hprose (by decide)
      exact .prose (by simp [htag, Markup.tag]) hm
    | codeLine | highlight | space => exact .code (by simp [htag, Markup.tag]) hm

theorem listingLanguage_ok_iff (e : Element) :
    (∃ s, listingLanguage e = .ok s) ↔ HasExtension e := by
  unfold listingLanguage HasExtension
  cases hf : e.attr? "filename" with
  | none => simp
  | some f =>
    simp only [Option.some.injEq, forall_eq']
    split
    · next extension h => simp [h]
    · next h =>
      simp only [reduceCtorEq, exists_false, false_iff]
      intro hdot
      obtain ⟨extension, hext⟩ := List.head?_eq_some_iff.mp hdot
      exact h extension hext

theorem renderRef_ok_iff (resolver : Option Resolver) (e : Element) :
    (∃ s, renderRef resolver e = .ok s) ↔ e.children = [] ∧ HasTarget resolver e := by
  unfold renderRef HasTarget
  by_cases hc : e.children = []
  · cases resolver with
    | none => simp [hc]
    | some resolve => simp [hc, bind_eq_ok, requiredAttr_eq_ok_iff]
  · simp [hc]

namespace Renderer

def forPlace (resolver : Option Resolver) (inListing : Bool) : Renderer :=
  ⟨resolver, if inListing then some Markup.inCode else none⟩

theorem allows_forPlace (resolver : Option Resolver) (inListing : Bool) (m : Markup) :
    (forPlace resolver inListing).allows m = true ↔ (inListing = true → m ∈ Markup.inCode) := by
  cases inListing <;> simp [forPlace, allows]

mutual

theorem render_ok_iff (resolver : Option Resolver) : ∀ (inListing : Bool) (e : Element),
    (∃ s, (forPlace resolver inListing).render e = .ok s) ↔ IsInline resolver inListing e
  | inListing, .mk name attributes text children tail => by
    rw [render]
    split
    · next hnone =>
      simp only [reduceCtorEq, exists_false, false_iff]
      intro hi
      obtain ⟨m, hm⟩ := hi.exists_ofTag?
      exact absurd (hnone.symm.trans hm) (by simp)
    · next m hm =>
      rw [isInline_iff (e := .mk name attributes text children tail) hm, ← allows_forPlace resolver]
      cases hallows : (forPlace resolver inListing).allows m with
      | false => simp
      | true =>
        simp only [Bool.not_true, Bool.false_eq_true, if_false, true_and]
        cases m with
        | ref => exact renderRef_ok_iff resolver _
        | programListing =>
          rw [← listingLanguage_ok_iff]
          exact exists_bind_eq_ok fun language =>
            exists_bind_ok_eq_ok.trans (renderAll_ok_iff resolver true children)
        | _ => exact exists_bind_ok_eq_ok.trans (renderAll_ok_iff resolver inListing children)

theorem renderAll_ok_iff (resolver : Option Resolver) : ∀ (inListing : Bool) (es : List Element),
    (∃ s, (forPlace resolver inListing).renderAll es = .ok s) ↔
      ∀ e ∈ es, IsInline resolver inListing e
  | inListing, [] => by simp [renderAll]
  | inListing, e :: es => by
    rw [List.forall_mem_cons, ← render_ok_iff resolver inListing e,
      ← renderAll_ok_iff resolver inListing es, renderAll]
    exact exists_bind_eq_ok fun first => exists_bind_ok_eq_ok

end

def forNames : Renderer :=
  ⟨none, some Markup.inNames⟩

theorem render_forNames_ok_iff (e : Element) :
    (∃ s, forNames.render e = .ok s) ↔ e.name = "ref" ∧ e.children = [] := by
  obtain ⟨name, attributes, text, children, tail⟩ := e
  rw [render]
  split
  · next hnone =>
    simp only [reduceCtorEq, exists_false, false_iff]
    rintro ⟨rfl, -⟩
    cases hnone
  · next m hm =>
    obtain rfl := Markup.eq_tag_of_ofTag? hm
    cases m with
    | ref =>
      have href := renderRef_ok_iff none (.mk Markup.ref.tag attributes text children tail)
      simpa [forNames, allows, Markup.inNames, Element.name, Markup.tag, HasTarget] using href
    | _ => simp [forNames, allows, Markup.inNames, Element.name, Markup.tag]

theorem renderAll_forNames_ok_iff (es : List Element) :
    (∃ s, forNames.renderAll es = .ok s) ↔ ∀ e ∈ es, e.name = "ref" ∧ e.children = [] := by
  induction es with
  | nil => simp [renderAll]
  | cons e es ih =>
    rw [List.forall_mem_cons, ← ih, ← render_forNames_ok_iff, renderAll]
    exact exists_bind_eq_ok fun first => exists_bind_ok_eq_ok

end Renderer

theorem simpleText_ok_iff (e : Element) :
    (∃ s, simpleText e = .ok s) ↔ ∀ c ∈ e.children, c.name = "ref" ∧ c.children = [] := by
  rw [← Renderer.renderAll_forNames_ok_iff, simpleText, exists_map_eq_ok]
  exact exists_bind_ok_eq_ok

end SymbolDocs
