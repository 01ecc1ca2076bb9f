import Mathlib.Data.List.DropRight
import SymbolDocs.Text.Blank

namespace SymbolDocs.Text

def IsTidy (s : String) : Prop :=
  isBlankText s = false ∧ trim s = s

instance (s : String) : Decidable (IsTidy s) :=
  inferInstanceAs (Decidable (_ ∧ _))

theorem trimChars_eq_rdropWhile (l : List Char) :
    trimChars l = (l.dropWhile isBlank).rdropWhile isBlank := rfl

theorem trimChars_eq_nil_iff (l : List Char) : trimChars l = [] ↔ ∀ c ∈ l, isBlank c = true := by
  rw [trimChars_eq_rdropWhile, List.rdropWhile_eq_nil_iff]
  constructor
  · intro h c hc
    rw [← List.takeWhile_append_dropWhile (p := isBlank) (l := l), List.mem_append] at hc
    rcases hc with hc | hc
    · exact List.mem_takeWhile_imp hc
    · exact h c hc
  · intro h c hc
    exact h c ((List.dropWhile_suffix isBlank).subset hc)

theorem head?_trimChars {l : List Char} {c : Char} (h : (trimChars l).head? = some c) :
    isBlank c = false := by
  obtain ⟨r, hr⟩ : ∃ r, trimChars l = c :: r := List.head?_eq_some_iff.mp h
  obtain ⟨t, ht⟩ : trimChars l <+: l.dropWhile isBlank := List.rdropWhile_prefix isBlank _
  rw [hr, List.cons_append] at ht
  have hd := List.head?_dropWhile_not isBlank l
  rw [← ht] at hd
  simpa using hd

theorem getLast?_trimChars {l : List Char} {c : Char} (h : (trimChars l).getLast? = some c) :
    isBlank c = false := by
  have hne : trimChars l ≠ [] := by
    intro hn
    simp [hn] at h
  have hd := List.rdropWhile_last_not isBlank (l.dropWhile isBlank) hne
  rw [List.getLast?_eq_some_getLast hne, Option.some_inj] at h
  simpa only [← trimChars_eq_rdropWhile, h, Bool.not_eq_true] using hd

theorem trimChars_eq_self {l : List Char} (hh : ∀ c, l.head? = some c → isBlank c = false)
    (hl : ∀ c, l.getLast? = some c → isBlank c = false) : trimChars l = l := by
  have hd : l.dropWhile isBlank = l := by
    cases l with
    | nil => rfl
    | cons c r => simp [hh c rfl]
  rw [trimChars_eq_rdropWhile, hd, List.rdropWhile_eq_self_iff]
  intro hne
  simpa using hl _ (List.getLast?_eq_some_getLast hne)

theorem isBlankText_eq_false_iff (s : String) : isBlankText s = false ↔ trimChars s.toList ≠ [] := by
  rw [ne_eq, trimChars_eq_nil_iff, ← List.all_eq_true, Bool.not_eq_true]
  rfl

theorem isTidy_iff (s : String) :
    IsTidy s ↔ (∃ c, s.toList.head? = some c ∧ isBlank c = false) ∧
      ∃ c, s.toList.getLast? = some c ∧ isBlank c = false := by
  constructor
  · rintro ⟨hb, ht⟩
    rw [isBlankText_eq_false_iff] at hb
    have hs : trimChars s.toList = s.toList := by
      simpa only [trim, String.toList_ofList] using congrArg String.toList ht
    rw [hs] at hb
    have hh := List.head?_eq_some_head hb
    have hl := List.getLast?_eq_some_getLast hb
    exact ⟨⟨_, hh, head?_trimChars (l := s.toList) (by rw [hs, hh])⟩,
      _, hl, getLast?_trimChars (l := s.toList) (by rw [hs, hl])⟩
  · rintro ⟨⟨c, hc, hcb⟩, e, he, heb⟩
    have hs : trimChars s.toList = s.toList := by
      apply trimChars_eq_self
      · intro d hd
        rw [hc] at hd
        exact Option.some.inj hd ▸ hcb
      · intro d hd
        rw [he] at hd
        exact Option.some.inj hd ▸ heb
    refine ⟨?_, by rw [trim, hs, String.ofList_toList]⟩
    rw [isBlankText_eq_false_iff, hs]
    intro hn
    simp [hn] at hc

theorem IsTidy.of_trim {s : String} (h : isBlankText s = false) : IsTidy (trim s) := by
  rw [isBlankText_eq_false_iff] at h
  rw [isTidy_iff, trim, String.toList_ofList]
  have hh := List.head?_eq_some_head h
  have hl := List.getLast?_eq_some_getLast h
  exact ⟨⟨_, hh, head?_trimChars hh⟩, _, hl, getLast?_trimChars hl⟩

theorem IsTidy.append {s t : String} (hs : IsTidy s) (ht : IsTidy t) : IsTidy (s ++ " " ++ t) := by
  rw [isTidy_iff] at *
  obtain ⟨⟨c, hc, hcb⟩, -⟩ := hs
  obtain ⟨-, d, hd, hdb⟩ := ht
  refine ⟨⟨c, ?_, hcb⟩, d, ?_, hdb⟩
  · simp [String.toList_append, hc]
  · rw [String.toList_append, List.getLast?_append, hd]
    rfl

end SymbolDocs.Text
