import Mathlib.Data.List.Basic
import SymbolDocs.Xml.Tag

namespace SymbolDocs.Xml

def marked : List Char :=
  ['&', '<', '>', '"', '\'']

def escapeChar (c : Char) : List Char :=
  if c = '&' then ['&', 'a', 'm', 'p', ';']
  else if c = '<' then ['&', 'l', 't', ';']
  else if c = '>' then ['&', 'g', 't', ';']
  else if c = '"' then ['&', 'q', 'u', 'o', 't', ';']
  else if c = '\'' then ['&', 'a', 'p', 'o', 's', ';']
  else [c]

def escape (s : List Char) : List Char :=
  s.flatMap escapeChar

theorem escape_append (s t : List Char) : escape (s ++ t) = escape s ++ escape t :=
  List.flatMap_append

theorem escapeChar_of_not_mem {c : Char} (h : c ∉ marked) : escapeChar c = [c] := by
  simp only [marked, List.mem_cons, List.not_mem_nil, or_false, not_or] at h
  simp only [escapeChar, h, if_false]

theorem escape_eq_nil_iff {s : List Char} : escape s = [] ↔ s = [] := by
  have hne (c : Char) : escapeChar c ≠ [] := by
    by_cases hc : c ∈ marked
    · simp only [marked, List.mem_cons, List.not_mem_nil, or_false] at hc
      rcases hc with rfl | rfl | rfl | rfl | rfl <;> decide
    · simp [escapeChar_of_not_mem hc]
  cases s with
  | nil => simp [escape]
  | cons c r => simp [escape, hne]

theorem not_mem_escape {c : Char} (hc : c ∈ marked.erase '&') (s : List Char) : c ∉ escape s := by
  intro h
  obtain ⟨d, -, hd⟩ := List.mem_flatMap.mp h
  by_cases hmarked : d ∈ marked
  · simp only [marked, List.mem_cons, List.not_mem_nil, or_false] at hmarked
    have hplain : ((marked.erase '&').all fun c => !(escapeChar d).contains c) = true := by
      rcases hmarked with rfl | rfl | rfl | rfl | rfl <;> decide
    have hnot := List.all_eq_true.mp hplain c hc
    simp [hd] at hnot
  · rw [escapeChar_of_not_mem hmarked, List.mem_singleton] at hd
    exact hmarked (hd ▸ List.mem_of_mem_erase hc)

theorem unescapeFrom_escapeChar (total position : Nat) (c : Char) (r : List Char) :
    ∃ next, unescapeFrom total position (escapeChar c ++ r) =
      (unescapeFrom total next r).map (c :: ·) := by
  by_cases hc : c ∈ marked
  · simp only [marked, List.mem_cons, List.not_mem_nil, or_false] at hc
    rcases hc with rfl | rfl | rfl | rfl | rfl <;> exact ⟨_, rfl⟩
  · have hplain : c ≠ '&' := fun h => hc (h ▸ List.mem_cons_self)
    rw [escapeChar_of_not_mem hc, List.singleton_append, unescapeFrom, if_neg hplain]
    exact ⟨_, rfl⟩

theorem unescapeFrom_escape (total position : Nat) (s : List Char) :
    unescapeFrom total position (escape s) = .ok s := by
  induction s generalizing position with
  | nil => rfl
  | cons c s ih =>
    obtain ⟨next, hnext⟩ := unescapeFrom_escapeChar total position c (escape s)
    rw [escape, List.flatMap_cons]
    exact hnext.trans (by rw [ih]; rfl)

theorem unescape_escape (s : List Char) : unescape (escape s) = .ok (String.ofList s) := by
  rw [unescape, unescapeFrom_escape]
  rfl

def isNameStart (c : Char) : Bool :=
  c.isAlpha || c == '_'

def isNameChar (c : Char) : Bool :=
  c.isAlphanum || c == '_' || c == '-' || c == '.' || c == ':'

def isName (name : String) : Bool :=
  match name.toList with
  | [] => false
  | c :: r => isNameStart c && r.all isNameChar

theorem isNameChar_of_isNameStart {c : Char} (h : isNameStart c) : isNameChar c := by
  rw [isNameStart, Bool.or_eq_true] at h
  rcases h with h | h
  · simp [isNameChar, Char.isAlphanum, h]
  · simp [isNameChar, h]

theorem ne_of_isNameChar {c d : Char} (hc : isNameChar c) (hd : isNameChar d = false) : c ≠ d := by
  rintro rfl
  rw [hd] at hc
  cases hc

theorem isSpace_of_isNameChar {c : Char} (h : isNameChar c) : isSpace c = false := by
  rw [Bool.eq_false_iff]
  intro hspace
  simp only [isSpace, Bool.or_eq_true, beq_iff_eq] at hspace
  rcases hspace with ((rfl | rfl) | rfl) | rfl <;> exact absurd h (by decide)

theorem exists_of_isName {name : String} (h : isName name) :
    ∃ c r, name.toList = c :: r ∧ isNameStart c ∧ ∀ d ∈ c :: r, isNameChar d := by
  unfold isName at h
  split at h
  · cases h
  · next c r hname =>
    rw [Bool.and_eq_true, List.all_eq_true] at h
    refine ⟨c, r, hname, h.1, fun d hd => ?_⟩
    rcases List.mem_cons.mp hd with rfl | hd
    · exact isNameChar_of_isNameStart h.1
    · exact h.2 d hd

def attributeText (a : Attribute) : List Char :=
  ' ' :: a.1.toList ++ '=' :: '"' :: escape a.2.toList ++ ['"']

def tagText (name : String) (attributes : List Attribute) : List Char :=
  name.toList ++ attributes.flatMap attributeText

structure IsTag (name : String) (attributes : List Attribute) : Prop where
  name : isName name
  keys : ∀ a ∈ attributes, isName a.1
  distinct : (attributes.map (·.1)).Nodup

theorem tagName_tagText {name : String} (hname : isName name) (attributes : List Attribute) :
    tagName (tagText name attributes) = name.toList := by
  obtain ⟨c, r, hr, -, hchars⟩ := exists_of_isName hname
  have hkept : ∀ d ∈ name.toList, (!isSpace d) = true := fun d hd => by
    rw [isSpace_of_isNameChar (hchars d (hr ▸ hd)), Bool.not_false]
  rw [tagName, tagText, List.takeWhile_append_of_pos hkept]
  cases attributes with
  | nil => exact List.append_nil _
  | cons a as => exact List.append_nil _

section ReadAttributes

variable (element : String)

theorem readAttributes_key (l : List Char) (hl : ∀ c ∈ l, isNameChar c) (position : Nat)
    (seen : SeenKeys) (start : Nat) (read r : List Char) :
    ∃ next, readAttributes element position seen (.key start read) (l ++ r) =
      readAttributes element next seen (.key start (l.reverse ++ read)) r := by
  induction l generalizing position read with
  | nil => exact ⟨position, rfl⟩
  | cons c l ih =>
    rw [List.forall_mem_cons] at hl
    obtain ⟨next, hnext⟩ := ih hl.2 (position + c.utf8Size) (c :: read)
    refine ⟨next, ?_⟩
    rw [List.cons_append, readAttributes, if_neg (ne_of_isNameChar hl.1 (by decide)),
      if_neg (by rw [isSpace_of_isNameChar hl.1]; decide), hnext, List.reverse_cons,
      List.append_assoc, List.singleton_append]

theorem readAttributes_value (l : List Char) (hl : '"' ∉ l) (position : Nat) (seen : SeenKeys)
    (key : String) (read r : List Char) :
    ∃ next, readAttributes element position seen (.value key '"' read) (l ++ r) =
      readAttributes element next seen (.value key '"' (l.reverse ++ read)) r := by
  induction l generalizing position read with
  | nil => exact ⟨position, rfl⟩
  | cons c l ih =>
    rw [List.mem_cons, not_or] at hl
    obtain ⟨next, hnext⟩ := ih hl.2 (position + c.utf8Size) (c :: read)
    refine ⟨next, ?_⟩
    rw [List.cons_append, readAttributes, if_neg (Ne.symm hl.1), hnext, List.reverse_cons,
      List.append_assoc, List.singleton_append]

theorem readAttributes_attributeText {a : Attribute} (hname : isName a.1) {seen : SeenKeys}
    (hnew : a.1 ∉ seen.map (·.1)) (position : Nat) (r : List Char) :
    ∃ next start, readAttributes element position seen .between (attributeText a ++ r) =
      (readAttributes element next ((a.1, start) :: seen) .between r).map (a :: ·) := by
  obtain ⟨c, rest, hkey, -, hchars⟩ := exists_of_isName hname
  rw [List.forall_mem_cons] at hchars
  have hfind : (seen.find? fun k => k.1 == a.1) = none := by
    rw [List.find?_eq_none]
    intro k hk heq
    exact hnew (List.mem_map.mpr ⟨k, hk, eq_of_beq heq⟩)
  have htext : attributeText a ++ r =
      ' ' :: c :: (rest ++ '=' :: '"' :: (escape a.2.toList ++ '"' :: r)) := by
    simp [attributeText, hkey]
  obtain ⟨p, hp⟩ := readAttributes_key element rest hchars.2 (position + 1 + c.utf8Size) seen
    (position + 1) [c] ('=' :: '"' :: (escape a.2.toList ++ '"' :: r))
  obtain ⟨q, hq⟩ := readAttributes_value element (escape a.2.toList)
    (not_mem_escape (by decide) _) (p + 1 + 1) ((a.1, position + 1) :: seen) a.1 [] ('"' :: r)
  refine ⟨q + '"'.utf8Size, position + 1, ?_⟩
  rw [htext, readAttributes, if_pos (by decide), readAttributes,
    if_neg (by rw [isSpace_of_isNameChar hchars.1]; decide)]
  refine hp.trans ?_
  rw [readAttributes, if_pos rfl, List.reverse_append, List.reverse_reverse]
  change keyEnded element seen (position + 1) (String.ofList (c :: rest)) >>= _ = _
  rw [← hkey, String.ofList_toList, keyEnded, hfind]
  refine hq.trans ?_
  rw [readAttributes, if_pos rfl, List.append_nil, List.reverse_reverse, unescape_escape,
    String.ofList_toList]
  cases readAttributes element (q + '"'.utf8Size) ((a.1, position + 1) :: seen) .between r <;> rfl

theorem readAttributes_flatMap_attributeText (attributes : List Attribute)
    (hnames : ∀ a ∈ attributes, isName a.1) (hkeys : (attributes.map (·.1)).Nodup)
    (seen : SeenKeys) (hnew : ∀ a ∈ attributes, a.1 ∉ seen.map (·.1)) (position : Nat) :
    readAttributes element position seen .between (attributes.flatMap attributeText) =
      .ok attributes := by
  induction attributes generalizing seen position with
  | nil => simp [readAttributes]
  | cons a as ih =>
    rw [List.map_cons, List.nodup_cons] at hkeys
    rw [List.forall_mem_cons] at hnames hnew
    obtain ⟨next, start, hfirst⟩ :=
      readAttributes_attributeText element hnames.1 hnew.1 position (as.flatMap attributeText)
    have hrest : ∀ b ∈ as, b.1 ∉ ((a.1, start) :: seen).map (·.1) := by
      intro b hb
      rw [List.map_cons, List.mem_cons, not_or]
      exact ⟨fun heq => hkeys.1 (heq ▸ List.mem_map_of_mem hb), hnew.2 b hb⟩
    rw [List.flatMap_cons, hfirst, ih hnames.2 hkeys.2 _ hrest]
    rfl

end ReadAttributes

theorem tagAttributes_tagText {name : String} {attributes : List Attribute}
    (h : IsTag name attributes) : tagAttributes (tagText name attributes) = .ok attributes := by
  rw [tagAttributes, tagName_tagText h.name, tagText, List.drop_left]
  exact readAttributes_flatMap_attributeText _ attributes h.keys h.distinct [] nofun _

end SymbolDocs.Xml
