import SymbolDocs.Description.OfMarkup
import SymbolDocs.Proofs.Description.Composition
import SymbolDocs.Proofs.Outcome

namespace SymbolDocs

open Xml (Element)

namespace Text

def ink (s : List Char) : List Char :=
  s.filter fun c => !isBlank c

@[simp] theorem ink_nil : ink [] = [] := rfl

@[simp] theorem ink_append (s t : List Char) : ink (s ++ t) = ink s ++ ink t :=
  List.filter_append s t

theorem ink_eq_nil_iff (s : List Char) : ink s = [] ↔ s.all isBlank = true := by
  simp [ink]

theorem ink_of_isBlankText {s : String} (h : isBlankText s = true) : ink s.toList = [] :=
  (ink_eq_nil_iff s.toList).mpr h

theorem ink_dropWhile (s : List Char) : ink (s.dropWhile isBlank) = ink s := by
  have hblank : ink (s.takeWhile isBlank) = [] := (ink_eq_nil_iff _).mpr List.all_takeWhile
  have hsplit := congrArg ink (List.takeWhile_append_dropWhile (p := isBlank) (l := s))
  rwa [ink_append, hblank, List.nil_append] at hsplit

theorem ink_reverse (s : List Char) : ink s.reverse = (ink s).reverse :=
  List.filter_reverse

@[simp] theorem ink_trim (s : String) : ink (trim s).toList = ink s.toList := by
  rw [trim, String.toList_ofList, trimChars, trimEnd, ink_reverse, ink_dropWhile, ink_reverse,
    List.reverse_reverse, ink_dropWhile]

end Text

open Text (ink)

namespace Xml.Element

mutual

def characterData : Element → List Char
  | mk _ _ text children _ => text.toList ++ characterDataAll children

def characterDataAll : List Element → List Char
  | [] => []
  | e :: es => characterData e ++ e.tail.toList ++ characterDataAll es

end

end Xml.Element

namespace Renderer

theorem ink_sublist_renderRef {e : Element} {s : String} (h : renderRef none e = .ok s) :
    (ink (e.characterData ++ e.tail.toList)).Sublist (ink s.toList) := by
  obtain ⟨name, attributes, text, children, tail⟩ := e
  unfold renderRef at h
  split at h
  · cases h
  · next hchildless =>
    have hnil : children = [] := by simpa [Element.children] using hchildless
    rw [← Except.ok.inj h, hnil]
    simp [Element.characterData, Element.characterDataAll, Element.text, Element.tail]

theorem ink_sublist_around {inner : List Char} {inside : String}
    (h : (ink inner).Sublist (ink inside.toList)) (opening text closing tail : String) :
    (ink (text.toList ++ inner ++ tail.toList)).Sublist
      (ink (opening ++ text ++ inside ++ closing ++ tail).toList) := by
  simp only [String.toList_append, Text.ink_append, List.append_assoc]
  apply List.sublist_append_of_sublist_right
  apply List.Sublist.append_left
  exact h.append (List.sublist_append_right _ _)

mutual

theorem ink_sublist_render : ∀ (allowed : Option (List Markup)) (e : Element) (s : String),
    (Renderer.mk none allowed).render e = .ok s →
      (ink (e.characterData ++ e.tail.toList)).Sublist (ink s.toList)
  | allowed, .mk name attributes text children tail, s, h => by
    rw [render] at h
    split at h
    · cases h
    · next m hm =>
      split at h
      · cases h
      · split at h
        · exact ink_sublist_renderRef h
        · obtain ⟨language, -, h⟩ := bind_eq_ok.mp h
          obtain ⟨inside, hinside, h⟩ := bind_eq_ok.mp h
          have hsub := ink_sublist_renderAll _ children inside hinside
          rw [← Except.ok.inj h]
          exact ink_sublist_around hsub _ _ _ _
        · obtain ⟨inside, hinside, h⟩ := bind_eq_ok.mp h
          have hsub := ink_sublist_renderAll _ children inside hinside
          rw [← Except.ok.inj h]
          exact ink_sublist_around hsub _ _ _ _

theorem ink_sublist_renderAll : ∀ (allowed : Option (List Markup)) (es : List Element) (s : String),
    (Renderer.mk none allowed).renderAll es = .ok s →
      (ink (Element.characterDataAll es)).Sublist (ink s.toList)
  | allowed, [], s, h => by simp [Element.characterDataAll]
  | allowed, e :: es, s, h => by
    rw [renderAll] at h
    obtain ⟨first, hfirst, h⟩ := bind_eq_ok.mp h
    obtain ⟨rest, hrest, h⟩ := bind_eq_ok.mp h
    rw [← Except.ok.inj h, Element.characterDataAll, Text.ink_append, String.toList_append,
      Text.ink_append first.toList]
    exact (ink_sublist_render allowed e first hfirst).append
      (ink_sublist_renderAll allowed es rest hrest)

end

end Renderer

theorem ink_sublist_simpleText {e : Element} {s : String} (h : simpleText e = .ok s) :
    (ink e.characterData).Sublist (ink s.toList) := by
  obtain ⟨name, attributes, text, children, tail⟩ := e
  obtain ⟨t, ht, rfl⟩ := map_eq_ok.mp h
  obtain ⟨inside, hinside, ht⟩ := bind_eq_ok.mp ht
  have hsub := Renderer.ink_sublist_renderAll _ children inside hinside
  rw [← Except.ok.inj ht, Text.ink_trim, Element.characterData, Text.ink_append,
    String.toList_append, Text.ink_append]
  exact hsub.append_left _

namespace Description

mutual

/-- What a description says, in document order: its texts, and each parameter's name before what is
said about it. -/
def wording : Description → List Char
  | text contents => contents.toList
  | paragraph contents => wordingAll contents
  | list _ contents => wordingAll contents
  | admonition _ _ contents => wording contents
  | parameter name _ _ description => name.toList ++ wording description
  | returns _ description => wording description

def wordingAll : List Description → List Char
  | [] => []
  | d :: ds => wording d ++ wordingAll ds

end

theorem wordingAll_append (xs ys : List Description) :
    wordingAll (xs ++ ys) = wordingAll xs ++ wordingAll ys := by
  induction xs with
  | nil => rfl
  | cons d ds ih => rw [List.cons_append, wordingAll, ih, wordingAll, List.append_assoc]

theorem wordingAll_singleton (d : Description) : wordingAll [d] = d.wording := by
  rw [wordingAll, wordingAll, List.append_nil]

theorem wording_together (ds : List Description) : (together ds).wording = wordingAll ds := by
  unfold together
  split
  · rw [wordingAll_singleton]
  · rw [wording]

theorem wording_sectionNode {kind : String} {body d : Description}
    (h : sectionNode kind body = .ok d) : d.wording = body.wording := by
  revert h
  fun_cases sectionNode kind body with
  | case5 => nofun
  | _ =>
    rintro ⟨⟩
    simp [wording, wordingAll]

theorem ink_of_fuse {d e f : Description} (h : fuse? d e = some f) :
    ink f.wording = ink d.wording ++ ink e.wording := by
  have hspace : ink " ".toList = [] := by decide
  rcases fuse?_eq_some h with ⟨s, t, rfl, rfl, rfl⟩ | ⟨title, xs, ys, rfl, rfl, rfl⟩
  · simp only [wording, String.toList_append, Text.ink_append, hspace, List.append_nil]
  · simp only [wording, wordingAll_append, Text.ink_append]

theorem ink_push (ds : List Description) (next : Description) :
    ink (wordingAll (push ds next)) = ink (wordingAll ds) ++ ink next.wording := by
  rcases push_cases ds next with ⟨-, hp⟩ | ⟨init, last, fused, rfl, hf, hp⟩
  · rw [hp, wordingAll_append, wordingAll_singleton, Text.ink_append]
  · rw [hp, wordingAll_append, wordingAll_append, wordingAll_singleton, wordingAll_singleton,
      Text.ink_append, Text.ink_append, ink_of_fuse hf, List.append_assoc]

theorem ink_merge (ds : List Description) (next : Description) :
    ink (wordingAll (merge ds next)) = ink (wordingAll ds) ++ ink next.wording := by
  unfold merge
  cases next with
  | text s =>
    cases hs : Text.isBlankText s with
    | true => simp [tidy, hs, wording, Text.ink_of_isBlankText hs]
    | false => simp [tidy, hs, ink_push, wording]
  | _ => simp [tidy, ink_push]

end Description

end SymbolDocs
