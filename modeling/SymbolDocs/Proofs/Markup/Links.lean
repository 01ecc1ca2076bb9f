import Mathlib.Data.List.Infix
import SymbolDocs.Markup
import SymbolDocs.Proofs.Outcome
import SymbolDocs.Proofs.Text.Cut
/-!
Links as a reader of Markdown delimits them. Only the brackets of a label are escaped, so a link is
read back as it was meant unless a backslash of its text stands where the reader takes it for an
escape.
-/

namespace SymbolDocs

open Xml (Element)

namespace Link

def isMark (c : Char) : Bool :=
  c == '[' || c == ']' || c == '\\'

def prepend (l : List Char) (read : List Char × List Char) : List Char × List Char :=
  (l ++ read.1, read.2)

theorem map_prepend_eq_some_iff {o : Option (List Char × List Char)} {l label rest : List Char} :
    o.map (prepend l) = some (label, rest) ↔ ∃ t, label = l ++ t ∧ o = some (t, rest) := by
  constructor
  · intro h
    obtain ⟨⟨t, _⟩, ht, ⟨⟩⟩ := Option.map_eq_some_iff.mp h
    exact ⟨t, rfl, ht⟩
  · rintro ⟨t, rfl, rfl⟩
    rfl

/-- A label up to the first bracket that closes it, and what follows. A backslash is part of the label
unless a mark comes next; `escaped` tells that a backslash has just been read. -/
def readLabel (escaped : Bool) : List Char → Option (List Char × List Char)
  | [] => none
  | c :: s =>
    if escaped then
      (readLabel false s).map (prepend (if isMark c then [c] else ['\\', c]))
    else if c = '\\' then readLabel true s
    else if c = ']' then some ([], s)
    else (readLabel false s).map (prepend [c])

def readLink : List Char → Option (List Char × List Char × List Char)
  | '[' :: s =>
    match readLabel false s with
    | some (label, '[' :: u) => (readLabel false u).map (label, ·)
    | _ => none
  | _ => none

theorem readLabel_mark {c : Char} (hc : isMark c = true) {s label rest : List Char} :
    readLabel true (c :: s) = some (label, rest) ↔
      ∃ l, label = c :: l ∧ readLabel false s = some (l, rest) := by
  rw [readLabel, if_pos rfl, if_pos hc]
  exact map_prepend_eq_some_iff

theorem readLabel_unescaped {c : Char} (hc : isMark c = false) {s label rest : List Char} :
    readLabel true (c :: s) = some (label, rest) ↔
      ∃ l, label = '\\' :: c :: l ∧ readLabel false s = some (l, rest) := by
  rw [readLabel, if_pos rfl, if_neg (by simp [hc])]
  exact map_prepend_eq_some_iff

theorem readLabel_backslash (s : List Char) : readLabel false ('\\' :: s) = readLabel true s := rfl

theorem readLabel_close (s : List Char) : readLabel false (']' :: s) = some ([], s) := rfl

theorem readLabel_other {c : Char} (hc : c ≠ '\\') (hc' : c ≠ ']') {s label rest : List Char} :
    readLabel false (c :: s) = some (label, rest) ↔
      ∃ l, label = c :: l ∧ readLabel false s = some (l, rest) := by
  rw [readLabel, if_neg Bool.false_ne_true, if_neg hc, if_neg hc']
  exact map_prepend_eq_some_iff

theorem ne_of_isMark_eq_false {c : Char} (h : isMark c = false) : c ≠ '[' ∧ c ≠ ']' ∧ c ≠ '\\' := by
  simpa [isMark, and_assoc] using h

theorem length_of_readLabel {escaped : Bool} {s label rest : List Char}
    (h : readLabel escaped s = some (label, rest)) :
    label.length + rest.length + 1 ≤ s.length + escaped.toNat := by
  induction s generalizing escaped label with
  | nil => simp [readLabel] at h
  | cons c s ih =>
    cases escaped with
    | true =>
      cases hc : isMark c with
      | true =>
        obtain ⟨l, rfl, hl⟩ := (readLabel_mark hc).mp h
        have := ih hl
        simp only [List.length_cons, Bool.toNat_true, Bool.toNat_false] at this ⊢
        omega
      | false =>
        obtain ⟨l, rfl, hl⟩ := (readLabel_unescaped hc).mp h
        have := ih hl
        simp only [List.length_cons, Bool.toNat_true, Bool.toNat_false] at this ⊢
        omega
    | false =>
      by_cases hback : c = '\\'
      · rw [hback, readLabel_backslash] at h
        have := ih h
        simp only [List.length_cons, Bool.toNat_true, Bool.toNat_false] at this ⊢
        omega
      · by_cases hclose : c = ']'
        · rw [hclose, readLabel_close, Option.some_inj, Prod.mk.injEq] at h
          obtain ⟨rfl, rfl⟩ := h
          simp
        · obtain ⟨l, rfl, hl⟩ := (readLabel_other hback hclose).mp h
          have := ih hl
          simp only [List.length_cons, Bool.toNat_false] at this ⊢
          omega

theorem readLabel_plain {l : List Char} (h : ∀ c ∈ l, isMark c = false) (rest : List Char) :
    readLabel false (l ++ ']' :: rest) = some (l, rest) := by
  induction l with
  | nil => rfl
  | cons c l ih =>
    rw [List.forall_mem_cons] at h
    obtain ⟨-, hclose, hback⟩ := ne_of_isMark_eq_false h.1
    exact (readLabel_other hback hclose).mpr ⟨l, rfl, ih h.2⟩

def escape (t : List Char) : List Char :=
  t.flatMap fun c => if c = '[' ∨ c = ']' then ['\\', c] else [c]

theorem toList_escapeBrackets (s : String) : (escapeBrackets s).toList = escape s.toList := by
  rw [escapeBrackets, String.toList_ofList, Text.replaceChar, Text.replaceChar, List.flatMap_assoc,
    escape]
  apply List.flatMap_congr
  intro c _
  by_cases hopen : c = '['
  · simp [hopen]
  · by_cases hclose : c = ']'
    · simp [hclose]
    · simp [hopen, hclose]

theorem escapeBrackets_eq (s : String) : escapeBrackets s = String.ofList (escape s.toList) := by
  rw [← toList_escapeBrackets, String.ofList_toList]

theorem escape_bracket {c : Char} (hc : c = '[' ∨ c = ']') (t : List Char) :
    escape (c :: t) = '\\' :: c :: escape t := by
  rw [escape, List.flatMap_cons, if_pos hc]
  rfl

theorem escape_other {c : Char} (hc : ¬(c = '[' ∨ c = ']')) (t : List Char) :
    escape (c :: t) = c :: escape t := by
  rw [escape, List.flatMap_cons, if_neg hc]
  rfl

theorem readLabel_escape_cons {c : Char} (hback : c ≠ '\\') {t s label rest : List Char} :
    readLabel false (escape (c :: t) ++ s) = some (label, rest) ↔
      ∃ l, label = c :: l ∧ readLabel false (escape t ++ s) = some (l, rest) := by
  by_cases hbracket : c = '[' ∨ c = ']'
  · rw [escape_bracket hbracket]
    exact readLabel_mark (by rcases hbracket with rfl | rfl <;> rfl)
  · rw [escape_other hbracket]
    exact readLabel_other hback fun hclose => hbracket (.inr hclose)

theorem readLabel_backslash_escape_cons {c : Char} (hback : c ≠ '\\') (hclose : c ≠ ']')
    {t s label rest : List Char} :
    readLabel true (escape (c :: t) ++ s) = some (label, rest) ↔
      ∃ l, label = '\\' :: c :: l ∧ readLabel false (escape t ++ s) = some (l, rest) := by
  by_cases hopen : c = '['
  · rw [escape_bracket (.inl hopen), List.cons_append, List.cons_append, readLabel_mark rfl]
    simp only [readLabel_other hback hclose]
    constructor
    · rintro ⟨_, rfl, l, rfl, hl⟩
      exact ⟨l, rfl, hl⟩
    · rintro ⟨l, rfl, hl⟩
      exact ⟨c :: l, rfl, l, rfl, hl⟩
  · have hmark : isMark c = false := by simp [isMark, hopen, hclose, hback]
    rw [escape_other (by simp [hopen, hclose]), List.cons_append, readLabel_unescaped hmark]

structure IsDelimited (t : List Char) : Prop where
  atEnd : t.getLast? ≠ some '\\'
  beforeBackslash : ¬['\\', '\\'] <:+: t
  beforeBracket : ¬['\\', ']'] <:+: t

theorem isDelimited_nil : IsDelimited [] :=
  ⟨by simp, by simp, by simp⟩

theorem not_isDelimited_backslash : ¬IsDelimited ['\\'] :=
  fun h => h.atEnd rfl

theorem isDelimited_cons {c : Char} (hc : c ≠ '\\') (t : List Char) :
    IsDelimited (c :: t) ↔ IsDelimited t := by
  have hlast : (c :: t).getLast? ≠ some '\\' ↔ t.getLast? ≠ some '\\' := by
    cases t with
    | nil => simpa using hc
    | cons d t => rw [List.getLast?_cons_cons]
  have hpair (d : Char) : ['\\', d] <:+: c :: t ↔ ['\\', d] <:+: t := by
    rw [Text.pair_infix_cons_iff]
    simp [hc]
  constructor
  · rintro ⟨h, h', h''⟩
    exact ⟨hlast.mp h, (hpair _).not.mp h', (hpair _).not.mp h''⟩
  · rintro ⟨h, h', h''⟩
    exact ⟨hlast.mpr h, (hpair _).not.mpr h', (hpair _).not.mpr h''⟩

theorem isDelimited_backslash_cons (c : Char) (t : List Char) :
    IsDelimited ('\\' :: c :: t) ↔ c ≠ '\\' ∧ c ≠ ']' ∧ IsDelimited (c :: t) := by
  have hpair (d : Char) : ['\\', d] <:+: '\\' :: c :: t ↔ c = d ∨ ['\\', d] <:+: c :: t := by
    rw [Text.pair_infix_cons_iff]
    simp
  constructor
  · rintro ⟨h, h', h''⟩
    rw [hpair, not_or] at h' h''
    exact ⟨h'.1, h''.1, h, h'.2, h''.2⟩
  · rintro ⟨hback, hclose, h, h', h''⟩
    exact ⟨h, (hpair _).not.mpr (not_or.mpr ⟨hback, h'⟩),
      (hpair _).not.mpr (not_or.mpr ⟨hclose, h''⟩)⟩

def pending (escaped : Bool) : List Char :=
  if escaped then ['\\'] else []

theorem readLabel_escape_of_isDelimited {escaped : Bool} {t : List Char}
    (h : IsDelimited (pending escaped ++ t)) (rest : List Char) :
    readLabel escaped (escape t ++ ']' :: rest) = some (pending escaped ++ t, rest) := by
  induction t generalizing escaped with
  | nil =>
    cases escaped with
    | true => exact absurd h not_isDelimited_backslash
    | false => rfl
  | cons c t ih =>
    have hrest (h : IsDelimited t) :
        readLabel false (escape t ++ ']' :: rest) = some (t, rest) := ih h
    cases escaped with
    | true =>
      obtain ⟨hback, hclose, h⟩ := (isDelimited_backslash_cons c t).mp h
      rw [isDelimited_cons hback] at h
      exact (readLabel_backslash_escape_cons hback hclose).mpr ⟨t, rfl, hrest h⟩
    | false =>
      by_cases hback : c = '\\'
      · rw [hback] at h
        rw [hback, escape_other (by decide), List.cons_append, readLabel_backslash]
        exact ih h
      · have ht := hrest ((isDelimited_cons hback t).mp h)
        exact (readLabel_escape_cons hback).mpr ⟨t, rfl, ht⟩

theorem isDelimited_of_readLabel_escape {escaped : Bool} {t label rest rest' : List Char}
    (h : readLabel escaped (escape t ++ ']' :: rest) = some (label, rest'))
    (hrest : rest.length ≤ rest'.length) :
    label = pending escaped ++ t ∧ IsDelimited label ∨
      label.length < (pending escaped ++ t).length := by
  induction t generalizing escaped label with
  | nil =>
    cases escaped with
    | true =>
      obtain ⟨l, -, hl⟩ := (readLabel_mark rfl).mp h
      have := length_of_readLabel hl
      simp only [Bool.toNat_false] at this
      omega
    | false =>
      obtain ⟨rfl, -⟩ := Prod.mk.inj (Option.some.inj h)
      exact .inl ⟨rfl, isDelimited_nil⟩
  | cons c t ih =>
    have hfalse {l : List Char}
        (hl : readLabel false (escape t ++ ']' :: rest) = some (l, rest')) :
        l = t ∧ IsDelimited l ∨ l.length < t.length := ih hl
    cases escaped with
    | true =>
      by_cases hback : c = '\\'
      · -- Two backslashes have been taken for one.
        right
        rw [hback, escape_other (by decide)] at h
        obtain ⟨l, rfl, hl⟩ := (readLabel_mark rfl).mp h
        have hlength : l.length ≤ t.length := by
          rcases hfalse hl with ⟨rfl, -⟩ | hlt
          · exact Nat.le_refl _
          · exact Nat.le_of_lt hlt
        simp only [pending, if_true, List.length_append, List.length_cons, List.length_nil]
        omega
      · by_cases hclose : c = ']'
        · -- The backslash has been taken with the one that was to escape the bracket.
          right
          rw [hclose, escape_bracket (.inr rfl)] at h
          obtain ⟨l, rfl, hl⟩ := (readLabel_mark rfl).mp h
          obtain ⟨rfl, -⟩ := Prod.mk.inj (Option.some.inj hl)
          simp [pending]
        · obtain ⟨l, rfl, hl⟩ := (readLabel_backslash_escape_cons hback hclose).mp h
          rcases hfalse hl with ⟨rfl, hdelimited⟩ | hlt
          · left
            refine ⟨rfl, (isDelimited_backslash_cons c l).mpr ⟨hback, hclose, ?_⟩⟩
            exact (isDelimited_cons hback l).mpr hdelimited
          · right
            simpa [pending] using hlt
    | false =>
      by_cases hback : c = '\\'
      · rw [hback, escape_other (by decide)] at h
        rw [List.cons_append, readLabel_backslash] at h
        rw [hback]
        exact ih h
      · obtain ⟨l, rfl, hl⟩ := (readLabel_escape_cons hback).mp h
        rcases hfalse hl with ⟨rfl, hdelimited⟩ | hlt
        · exact .inl ⟨rfl, (isDelimited_cons hback l).mpr hdelimited⟩
        · right
          simpa [pending] using hlt

theorem readLink_eq_some_iff {t n : List Char} (hn : ∀ c ∈ n, isMark c = false) (tail : List Char) :
    readLink ('[' :: (escape t ++ ']' :: '[' :: (n ++ ']' :: tail))) = some (t, n, tail) ↔
      IsDelimited t := by
  constructor
  · intro h
    rw [readLink] at h
    split at h
    · next label u hlabel =>
      obtain ⟨⟨target, rest⟩, htarget, ⟨⟩⟩ := Option.map_eq_some_iff.mp h
      have hlength := length_of_readLabel htarget
      have hrest : ('[' :: (n ++ ']' :: tail)).length ≤ ('[' :: u).length := by
        simp only [List.length_cons, List.length_append, Bool.toNat_false] at hlength ⊢
        omega
      rcases isDelimited_of_readLabel_escape hlabel hrest with ⟨-, hdelimited⟩ | hlt
      · exact hdelimited
      · simp [pending] at hlt
    · cases h
  · intro h
    have hnone : IsDelimited (pending false ++ t) := h
    have hlabel := readLabel_escape_of_isDelimited hnone ('[' :: (n ++ ']' :: tail))
    simp only [readLink, hlabel, readLabel_plain hn, Option.map_some]
    rfl

end Link

theorem renderRef_eq_link {resolve : Resolver} {e : Element} (hchildren : e.children = [])
    {refid kindref n : String} (hrefid : e.attr? "refid" = some refid)
    (hkindref : e.attr? "kindref" = some kindref) (hn : resolve refid kindref = .ok n) :
    renderRef (some resolve) e = .ok ("[" ++ escapeBrackets e.text ++ "][" ++ n ++ "]" ++ e.tail) := by
  rw [renderRef, hchildren]
  refine bind_eq_ok.mpr ⟨refid, (requiredAttr_eq_ok_iff e "ref" "refid" refid).mpr hrefid, ?_⟩
  refine bind_eq_ok.mpr ⟨kindref, (requiredAttr_eq_ok_iff e "ref" "kindref" kindref).mpr hkindref, ?_⟩
  exact bind_eq_ok.mpr ⟨n, hn, rfl⟩

theorem Renderer.render_ref {r : Renderer} (hallowed : r.allows .ref = true) {e : Element}
    (hname : e.name = "ref") : r.render e = renderRef r.resolver e := by
  obtain ⟨name, attributes, text, children, tail⟩ := e
  obtain rfl : name = "ref" := hname
  simp [Renderer.render, Markup.ofTag?, hallowed]

open Link (readLink isMark IsDelimited) in
/-- A reference is read back as a link from its text exactly if its text is delimited. -/
theorem readLink_render {r : Renderer} {resolve : Resolver} (hresolver : r.resolver = some resolve)
    (hallowed : r.allows .ref = true) {e : Element} (hname : e.name = "ref")
    (hchildren : e.children = []) {refid kindref n : String}
    (hrefid : e.attr? "refid" = some refid) (hkindref : e.attr? "kindref" = some kindref)
    (hn : resolve refid kindref = .ok n) (hplain : ∀ c ∈ n.toList, isMark c = false) :
    ∃ s, r.render e = .ok s ∧
      (readLink s.toList = some (e.text.toList, n.toList, e.tail.toList) ↔
        IsDelimited e.text.toList) := by
  have hrender : r.render e =
      .ok ("[" ++ escapeBrackets e.text ++ "][" ++ n ++ "]" ++ e.tail) := by
    rw [Renderer.render_ref hallowed hname, hresolver]
    exact renderRef_eq_link hchildren hrefid hkindref hn
  have hshape : ("[" ++ escapeBrackets e.text ++ "][" ++ n ++ "]" ++ e.tail).toList =
      '[' :: (Link.escape e.text.toList ++ ']' :: '[' :: (n.toList ++ ']' :: e.tail.toList)) := by
    simp [Link.toList_escapeBrackets]
  refine ⟨_, hrender, ?_⟩
  rw [hshape]
  exact Link.readLink_eq_some_iff hplain _

def referenceMarkup (text tail : String) : Element :=
  .mk "ref" [("refid", "structs1"), ("kindref", "compound")] text [] tail

theorem readLink_render_bracketed :
    let resolve : Resolver := fun _ _ => .ok "s1"
    let e := referenceMarkup "\\ref s[1]" "."
    (∀ c ∈ "s1".toList, Link.isMark c = false) ∧
    ∃ s, Renderer.render ⟨some resolve, none⟩ e = .ok s ∧
      Link.readLink s.toList = some ("\\ref s[1]".toList, "s1".toList, ".".toList) := by
  intro resolve e
  have hplain : ∀ c ∈ "s1".toList, Link.isMark c = false := by simp [Link.isMark]
  have hrefid : e.attr? "refid" = some "structs1" := rfl
  have hkindref : e.attr? "kindref" = some "compound" := rfl
  have hn : resolve "structs1" "compound" = .ok "s1" := rfl
  obtain ⟨s, hs, hread⟩ :=
    readLink_render (r := ⟨some resolve, none⟩) rfl rfl rfl rfl hrefid hkindref hn hplain
  refine ⟨hplain, s, hs, hread.mpr ⟨?_, ?_, ?_⟩⟩
  · decide
  · decide
  · decide

theorem readLink_backslashAtEnd :
    let resolve : Resolver := fun _ _ => .ok "s1"
    Renderer.render ⟨some resolve, none⟩ (referenceMarkup "a\\" "") = .ok "[a\\][s1]" ∧
      Link.readLink "[a\\][s1]".toList = none := by
  constructor
  · decide +kernel
  · decide

end SymbolDocs
