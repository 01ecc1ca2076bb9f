import Mathlib.Data.List.Chain
import SymbolDocs.Markup
import SymbolDocs.Proofs.Text.Gaps
/-!
The spacing of types. A type is read in one pass: each run of spaces loses one behind an opening angle
bracket and one before a closing one, before `&` or before `*`, and all else is kept.
-/

namespace SymbolDocs

open Text (spaces narrow Narrows)

/-- How many spaces too many there are between two characters of a type. -/
def gapExcess (left right : Option Char) : Nat :=
  (if left = some '<' then 1 else 0) +
    if right = some '>' ∨ right = some '&' ∨ right = some '*' then 1 else 0

theorem toList_normalizeType (type : String) :
    (normalizeType type).toList = narrow gapExcess none 0 type.toList := by
  have hbehind := (Text.narrows_replacePair_behind (a := '<') (by decide)).eq_narrow
  have hbefore {a : Char} (ha : a ≠ ' ') := (Text.narrows_replacePair_before ha).eq_narrow
  have hexcess : (fun left right : Option Char =>
      (if left = some '<' then 1 else 0) + ((if right = some '>' then 1 else 0) +
        ((if right = some '&' then 1 else 0) + if right = some '*' then 1 else 0))) = gapExcess := by
    funext left right
    unfold gapExcess
    by_cases hangle : right = some '>'
    · simp [hangle]
    · by_cases hand : right = some '&'
      · simp [hand]
      · simp [hangle, hand]
  rw [normalizeType, String.toList_ofList, hbehind, hbefore (by decide), hbefore (by decide),
    hbefore (by decide), Text.narrow_narrow, Text.narrow_narrow, Text.narrow_narrow]
  exact congrArg (narrow · none 0 type.toList) hexcess

def loosePairs : List (List Char) :=
  [['<', ' '], [' ', '>'], [' ', '&'], [' ', '*']]

theorem not_mem_loosePairs {x y : Char} (hx : x ≠ ' ') (hy : y ≠ ' ') : [x, y] ∉ loosePairs := by
  simp [loosePairs, hx, hy]

theorem eq_zero_or_one_of_isChain {k : Nat} {s : List Char}
    (h : (spaces k ++ s).IsChain fun x y => ¬(x = ' ' ∧ y = ' ')) : k = 0 ∨ k = 1 := by
  rcases k with _ | _ | k
  · exact .inl rfl
  · exact .inr rfl
  · simp [Text.spaces_succ] at h

theorem isChain_behind {left : Option Char} (hleft : left ≠ some ' ') {c : Char} (hc : c ≠ ' ')
    {s : List Char} (h : (c :: s).IsChain fun x y => [x, y] ∉ loosePairs) :
    (left.toList ++ c :: s).IsChain fun x y => [x, y] ∉ loosePairs := by
  cases left with
  | none => exact h
  | some d => exact .cons_cons (not_mem_loosePairs (by simpa using hleft) hc) h

theorem isChain_behind_space {left : Option Char} (hleft : left ≠ some ' ') {c : Char} (hc : c ≠ ' ')
    (hexcess : gapExcess left (some c) = 0) {s : List Char}
    (h : (c :: s).IsChain fun x y => [x, y] ∉ loosePairs) :
    (left.toList ++ ' ' :: c :: s).IsChain fun x y => [x, y] ∉ loosePairs := by
  obtain ⟨hopening, hclosing⟩ : left ≠ some '<' ∧ c ≠ '>' ∧ c ≠ '&' ∧ c ≠ '*' := by
    simpa [gapExcess] using hexcess
  have hspace : (' ' :: c :: s).IsChain fun x y => [x, y] ∉ loosePairs :=
    .cons_cons (by simp [loosePairs, hc, hclosing]) h
  cases left with
  | none => exact hspace
  | some d =>
    have hd : [d, ' '] ∉ loosePairs := by
      simp only [ne_eq, Option.some_inj] at hopening hleft
      simp [loosePairs, hopening, hleft]
    exact .cons_cons hd hspace

theorem isChain_narrow (left : Option Char) (k : Nat) (s : List Char) (hleft : left ≠ some ' ')
    (h : (spaces k ++ s).IsChain fun x y => ¬(x = ' ' ∧ y = ' ')) :
    (left.toList ++ narrow gapExcess left k s).IsChain fun x y => [x, y] ∉ loosePairs := by
  induction s generalizing left k with
  | nil =>
    rw [narrow]
    cases left with
    | none => rcases eq_zero_or_one_of_isChain h with rfl | rfl <;> simp [gapExcess, Text.spaces_succ]
    | some c =>
      by_cases hc : c = '<'
      · rcases eq_zero_or_one_of_isChain h with rfl | rfl <;> simp [gapExcess, hc]
      · rcases eq_zero_or_one_of_isChain h with rfl | rfl <;>
          simp [gapExcess, Text.spaces_succ, loosePairs, hc]
  | cons c s ih =>
    by_cases hc : c = ' '
    · rw [narrow, if_pos hc]
      rw [hc, Text.spaces_append_cons] at h
      exact ih left (k + 1) hleft h
    · rw [narrow, if_neg hc]
      have hrest : (c :: narrow gapExcess (some c) 0 s).IsChain fun x y => [x, y] ∉ loosePairs := by
        apply ih (some c) 0 (by simpa using hc)
        exact (List.isChain_append.mp h).2.1.tail
      have hshut := isChain_behind hleft hc hrest
      rcases eq_zero_or_one_of_isChain h with rfl | rfl
      · simpa using hshut
      · by_cases hexcess : gapExcess left (some c) = 0
        · rw [hexcess]
          exact isChain_behind_space hleft hc hexcess hrest
        · have hgone : 1 - gapExcess left (some c) = 0 := by omega
          rw [hgone]
          exact hshut

theorem not_infix_normalizeType {type : String} (h : ¬[' ', ' '] <:+: type.toList)
    {pair : List Char} (hpair : pair ∈ loosePairs) : ¬pair <:+: (normalizeType type).toList := by
  have hsingle : type.toList.IsChain fun x y => ¬(x = ' ' ∧ y = ' ') := by
    rw [List.isChain_iff_forall_rel_of_append_cons_cons]
    rintro x y before behind htype ⟨rfl, rfl⟩
    exact h ⟨before, behind, by rw [htype]; simp⟩
  have hchain := isChain_narrow none 0 type.toList (by simp) hsingle
  rw [toList_normalizeType]
  intro hin
  obtain ⟨x, y, rfl⟩ : ∃ x y, pair = [x, y] := by
    simp only [loosePairs, List.mem_cons, List.not_mem_nil, or_false] at hpair
    rcases hpair with rfl | rfl | rfl | rfl <;> exact ⟨_, _, rfl⟩
  have hloose := List.IsChain.infix hchain hin
  exact List.isChain_pair.mp hloose hpair

theorem normalizeType_eq_self {type : String}
    (h : ∀ pair ∈ loosePairs, ¬pair <:+: type.toList) : normalizeType type = type := by
  simp only [loosePairs, List.forall_mem_cons] at h
  obtain ⟨hopening, hclosing, hand, hstar, -⟩ := h
  rw [normalizeType, Text.replacePair_eq_self hopening, Text.replacePair_eq_self hclosing,
    Text.replacePair_eq_self hand, Text.replacePair_eq_self hstar, String.ofList_toList]

theorem normalizeType_narrows (type : String) :
    (normalizeType type).toList = narrow gapExcess none 0 type.toList ∧
    (∀ before k behind, type.toList = before ++ spaces k ++ behind →
      before.getLast? ≠ some ' ' → behind.head? ≠ some ' ' →
      normalizeType type = normalizeType (String.ofList before) ++
        String.ofList (spaces (k - gapExcess before.getLast? behind.head?)) ++
          normalizeType (String.ofList behind)) ∧
    (normalizeType type).toList.Sublist type.toList ∧
    (normalizeType type).toList.filter (· ≠ ' ') = type.toList.filter (· ≠ ' ') ∧
    (¬[' ', ' '] <:+: type.toList →
      (∀ pair ∈ loosePairs, ¬pair <:+: (normalizeType type).toList) ∧
        normalizeType (normalizeType type) = normalizeType type) := by
  refine ⟨toList_normalizeType type, ?_, ?_, ?_, ?_⟩
  · intro before k behind htype hbefore hbehind
    apply String.toList_inj.mp
    simp only [String.toList_append, toList_normalizeType, String.toList_ofList, htype]
    exact Text.narrow_around hbefore hbehind k
  · rw [toList_normalizeType]
    exact Text.narrow_sublist none 0 type.toList
  · rw [toList_normalizeType]
    exact Text.filter_narrow none 0 type.toList
  · intro hsingle
    have htight : ∀ pair ∈ loosePairs, ¬pair <:+: (normalizeType type).toList :=
      fun pair hpair => not_infix_normalizeType hsingle hpair
    exact ⟨htight, normalizeType_eq_self htight⟩

theorem normalizeType_narrows_template :
    normalizeType "<   >" = "< >" ∧
    ¬[' ', ' '] <:+: "vector< int > &".toList ∧
    normalizeType "vector< int > &" = "vector<int>&" ∧
    normalizeType "vector<int>&" = "vector<int>&" := by
  have hrun : normalizeType "<   >" = "<" ++ " " ++ ">" :=
    (normalizeType_narrows "<   >").2.1 ['<'] 3 ['>'] (by decide) (by decide) (by decide)
  have hsingle : ¬[' ', ' '] <:+: "vector< int > &".toList := by decide
  have htight : normalizeType "vector< int > &" = "vector<int>&" := by decide
  have hagain := ((normalizeType_narrows "vector< int > &").2.2.2.2 hsingle).2
  rw [htight] at hagain
  exact ⟨hrun, hsingle, htight, hagain⟩

end SymbolDocs
