import Mathlib.Data.List.Infix
import SymbolDocs.Text.Cut

namespace SymbolDocs.Text

theorem pair_prefix_iff (a b x : Char) (l : List Char) :
    [a, b] <+: x :: l ↔ x = a ∧ ∃ r, l = b :: r := by
  constructor
  · rintro ⟨r, hr⟩
    obtain ⟨rfl, rfl⟩ := List.cons.inj hr
    exact ⟨rfl, r, rfl⟩
  · rintro ⟨rfl, r, rfl⟩
    exact ⟨r, rfl⟩

theorem pair_infix_cons_iff (a b x : Char) (l : List Char) :
    [a, b] <:+: x :: l ↔ (x = a ∧ ∃ r, l = b :: r) ∨ [a, b] <:+: l := by
  rw [List.infix_cons_iff, pair_prefix_iff]

theorem cutAtPair_eq_none_iff (a b : Char) (l : List Char) :
    cutAtPair a b l = none ↔ ¬[a, b] <:+: l := by
  fun_induction cutAtPair a b l with
  | case1 => simp
  | case2 x => simp [pair_infix_cons_iff]
  | case3 x y r h => simp [pair_infix_cons_iff, h]
  | case4 x y r h ih =>
    rw [Option.map_eq_none_iff, ih, pair_infix_cons_iff a b x, not_or]
    constructor
    · intro hr
      refine ⟨?_, hr⟩
      rintro ⟨hx, r', hr'⟩
      exact h ⟨hx, (List.cons.inj hr').1⟩
    · exact fun hr => hr.2

theorem cutAtPair_eq_some_iff (a b : Char) (l s t : List Char) :
    cutAtPair a b l = some (s, t) ↔ l = s ++ a :: b :: t ∧ ¬[a, b] <:+: s ++ [a] := by
  fun_induction cutAtPair a b l generalizing s with
  | case1 => simp
  | case2 x => cases s <;> simp
  | case3 x y r h =>
    obtain ⟨rfl, rfl⟩ := h
    rw [Option.some_inj, Prod.mk.injEq]
    constructor
    · rintro ⟨rfl, rfl⟩
      exact ⟨rfl, by simp [pair_infix_cons_iff]⟩
    · rintro ⟨hl, hs⟩
      cases s with
      | nil => exact ⟨rfl, (List.cons.inj (List.cons.inj hl).2).2⟩
      | cons c s =>
        -- A longer first part would contain the pair itself.
        rw [List.cons_append, List.cons.injEq] at hl
        rw [List.cons_append, pair_infix_cons_iff, not_or] at hs
        refine absurd ⟨hl.1.symm, ?_⟩ hs.1
        cases s with
        | nil => exact ⟨[], by rw [(List.cons.inj hl.2).1]; rfl⟩
        | cons d s => exact ⟨s ++ [x], by rw [(List.cons.inj hl.2).1]; rfl⟩
  | case4 x y r h ih =>
    simp only [Option.map_eq_some_iff, Prod.exists, Prod.mk.injEq]
    constructor
    · rintro ⟨s', t', hcut, rfl, rfl⟩
      obtain ⟨hl, hs⟩ := (ih s').mp hcut
      refine ⟨by rw [hl]; rfl, ?_⟩
      rw [List.cons_append, pair_infix_cons_iff, not_or]
      refine ⟨?_, hs⟩
      rintro ⟨hx, r', hr'⟩
      -- Whatever the first part goes on with is what follows `x`.
      cases s' with
      | nil => exact h ⟨hx, (List.cons.inj hl).1.trans (List.cons.inj hr').1⟩
      | cons d s' => exact h ⟨hx, (List.cons.inj hl).1.trans (List.cons.inj hr').1⟩
    · rintro ⟨hl, hs⟩
      cases s with
      | nil => exact absurd ⟨(List.cons.inj hl).1, (List.cons.inj (List.cons.inj hl).2).1⟩ h
      | cons c s =>
        rw [List.cons_append, List.cons.injEq] at hl
        rw [List.cons_append, pair_infix_cons_iff, not_or] at hs
        exact ⟨s, t, (ih s).mpr ⟨hl.2, hs.2⟩, by rw [hl.1], rfl⟩

theorem cutAtLast_eq_none_iff (sep : Char) (l : List Char) :
    cutAtLast sep l = none ↔ sep ∉ l := by
  fun_induction cutAtLast sep l with
  | case1 => simp
  | case2 c r s t h ih =>
    rw [h] at ih
    simpa using fun _ => ih
  | case3 r h ih => simp
  | case4 c r h hc ih => simp [ih.mp h, Ne.symm hc]

theorem cutAtLast_eq_some_iff (sep : Char) (l s t : List Char) :
    cutAtLast sep l = some (s, t) ↔ l = s ++ sep :: t ∧ sep ∉ t := by
  induction l generalizing s with
  | nil => simp [cutAtLast]
  | cons c r ih =>
    rw [cutAtLast]
    constructor
    · intro h
      split at h
      · next s' t' hr =>
        obtain ⟨rfl, rfl⟩ := Prod.mk.inj (Option.some.inj h)
        obtain ⟨hl, ht⟩ := (ih s').mp hr
        exact ⟨by rw [hl]; rfl, ht⟩
      · next hr =>
        split at h
        · next hc =>
          obtain ⟨rfl, rfl⟩ := Prod.mk.inj (Option.some.inj h)
          exact ⟨by rw [hc]; rfl, (cutAtLast_eq_none_iff sep r).mp hr⟩
        · cases h
    · rintro ⟨hl, ht⟩
      cases s with
      | nil =>
        obtain ⟨rfl, rfl⟩ := List.cons.inj hl
        rw [(cutAtLast_eq_none_iff c r).mpr ht]
        simp
      | cons d s =>
        rw [List.cons_append, List.cons.injEq] at hl
        rw [(ih s).mpr ⟨hl.2, ht⟩, hl.1]

theorem cutAt_append {sep : Char} {s : List Char} (h : sep ∉ s) (t : List Char) :
    cutAt sep (s ++ sep :: t) = some (s, t) := by
  induction s with
  | nil => simp [cutAt]
  | cons c s ih =>
    obtain ⟨hc, hs⟩ := not_or.mp (List.mem_cons.not.mp h)
    rw [List.cons_append, cutAt, if_neg (Ne.symm hc), ih hs]
    rfl

theorem splitOn_eq_splitOnP (sep : Char) (s : List Char) :
    splitOn sep s = s.splitOnP (· == sep) := by
  induction s with
  | nil => simp [splitOn]
  | cons c s ih =>
    rw [splitOn, List.splitOnP_cons_eq_if_modifyHead, ← ih]
    by_cases hc : c = sep
    · simp [hc]
    · rw [if_neg hc, if_neg (by simpa using hc)]
      cases hs : splitOn sep s with
      | nil => exact absurd hs (splitOn_ne_nil sep s)
      | cons first rest => rfl

theorem splitOn_append_cons (sep : Char) (s t : List Char) :
    splitOn sep (s ++ sep :: t) = splitOn sep s ++ splitOn sep t := by
  simp only [splitOn_eq_splitOnP]
  exact List.splitOnP_append_cons s t (beq_self_eq_true sep)

theorem splitOn_of_not_mem {sep : Char} {s : List Char} (h : sep ∉ s) : splitOn sep s = [s] := by
  rw [splitOn_eq_splitOnP]
  apply List.splitOnP_eq_singleton
  intro c hc
  simpa using fun heq : c = sep => h (heq ▸ hc)

theorem not_mem_of_mem_splitOn {sep : Char} {s piece : List Char} (h : piece ∈ splitOn sep s) :
    sep ∉ piece := by
  induction s generalizing piece with
  | nil => simp_all [splitOn]
  | cons c s ih =>
    rw [splitOn] at h
    split at h
    · rcases List.mem_cons.mp h with rfl | h
      · simp
      · exact ih h
    · next hc =>
      split at h
      · next hs => exact absurd hs (splitOn_ne_nil sep s)
      · next first rest hs =>
        rw [hs] at ih
        rcases List.mem_cons.mp h with rfl | h
        · have hfirst := ih List.mem_cons_self
          simpa [Ne.symm hc] using hfirst
        · exact ih (List.mem_cons_of_mem first h)

theorem length_splitOn (sep : Char) (s : List Char) :
    (splitOn sep s).length = s.count sep + 1 := by
  induction s with
  | nil => rfl
  | cons c s ih =>
    rw [splitOn, List.count_cons]
    by_cases hc : c = sep
    · simp [hc, ih]
    · rw [if_neg hc]
      cases hs : splitOn sep s with
      | nil => exact absurd hs (splitOn_ne_nil sep s)
      | cons first rest =>
        rw [hs] at ih
        simpa [hc] using ih

theorem joinWith_cons {sep s : String} {ss : List String} (h : ss ≠ []) :
    joinWith sep (s :: ss) = s ++ sep ++ joinWith sep ss := by
  cases ss with
  | nil => exact absurd rfl h
  | cons t ts => rfl

theorem joinWith_append {sep : String} {xs ys : List String} (hx : xs ≠ []) (hy : ys ≠ []) :
    joinWith sep (xs ++ ys) = joinWith sep xs ++ sep ++ joinWith sep ys := by
  induction xs with
  | nil => exact absurd rfl hx
  | cons x xs ih =>
    rw [List.cons_append]
    cases xs with
    | nil => exact joinWith_cons hy
    | cons x' xs =>
      rw [joinWith_cons (by simp), joinWith_cons (by simp), ih (by simp)]
      simp only [String.append_assoc]

theorem mem_joinWith {c : Char} {sep : String} {ss : List String}
    (h : c ∈ (joinWith sep ss).toList) : c ∈ sep.toList ∨ ∃ s ∈ ss, c ∈ s.toList := by
  induction ss with
  | nil => simp [joinWith] at h
  | cons s ss ih =>
    by_cases hss : ss = []
    · rw [hss, joinWith] at h
      exact .inr ⟨s, List.mem_cons_self, h⟩
    · rw [joinWith_cons hss, String.toList_append, String.toList_append] at h
      rcases List.mem_append.mp h with h | h
      · rcases List.mem_append.mp h with h | h
        · exact .inr ⟨s, List.mem_cons_self, h⟩
        · exact .inl h
      · rcases ih h with h | ⟨t, ht, h⟩
        · exact .inl h
        · exact .inr ⟨t, List.mem_cons_of_mem s ht, h⟩

theorem toList_joinWith (sep : String) (ss : List String) :
    (joinWith sep ss).toList = sep.toList.intercalate (ss.map String.toList) := by
  induction ss with
  | nil => rfl
  | cons s ss ih =>
    by_cases hss : ss = []
    · rw [hss, joinWith, List.map_singleton, List.intercalate_singleton]
    · rw [joinWith_cons hss, String.toList_append, String.toList_append, ih, List.map_cons,
        List.intercalate_cons_of_ne_nil (by simpa using hss)]

theorem joinWith_splitOn (sep : Char) (s : List Char) :
    joinWith (String.singleton sep) ((splitOn sep s).map String.ofList) = String.ofList s := by
  rw [← String.toList_inj, toList_joinWith, String.toList_singleton, String.toList_ofList,
    List.map_map, splitOn_eq_splitOnP]
  have hid : (String.toList ∘ String.ofList) = id := funext fun _ => String.toList_ofList
  rw [hid, List.map_id]
  exact List.intercalate_splitOn sep

theorem toList_joinWith_empty (ss : List String) :
    (joinWith "" ss).toList = ss.flatMap String.toList := by
  induction ss with
  | nil => rfl
  | cons s ss ih =>
    by_cases hss : ss = []
    · simp [hss, joinWith]
    · rw [joinWith_cons hss, String.toList_append, String.toList_append, ih, List.flatMap_cons]
      simp

end SymbolDocs.Text
