import SymbolDocs.Script.Regex.Parse
import Mathlib.Data.List.Forall2
import Mathlib.Data.List.Basic

namespace SymbolDocs.Script

open Text (Octets)

namespace Spot

theorem advance_advance (s : Spot) (m n : Nat) : (s.advance m).advance n = s.advance (m + n) := by
  simp [advance, List.take_add, List.drop_drop]

@[simp] theorem advance_zero (s : Spot) : s.advance 0 = s := by
  simp [advance]

/-- The second place lies in the same text as the first, there or further on. -/
structure Onward (s t : Spot) : Prop where
  text : t.before.reverse ++ t.after = s.before.reverse ++ s.after
  le : t.after.length ≤ s.after.length

namespace Onward

theorem refl (s : Spot) : s.Onward s := ⟨rfl, Nat.le_refl _⟩

theorem trans {s t u : Spot} (h : s.Onward t) (h' : t.Onward u) : s.Onward u :=
  ⟨h'.text.trans h.text, Nat.le_trans h'.le h.le⟩

theorem advance (s : Spot) (n : Nat) : s.Onward (s.advance n) :=
  ⟨by simp [Spot.advance], by simp [Spot.advance]⟩

theorem setGroup {s t : Spot} (h : s.Onward t) (number : Nat) (text : Octets) :
    s.Onward (t.setGroup number text) := ⟨h.text, h.le⟩

theorem eq_of_same {s t u : Spot} (h : s.Onward t) (h' : s.Onward u)
    (length : t.after.length = u.after.length) (groups : t.groups = u.groups) : t = u := by
  obtain ⟨before, after⟩ := List.append_inj' (h.text.trans h'.text.symm) length
  obtain ⟨_, _, _⟩ := t
  obtain ⟨_, _, _⟩ := u
  simp_all

theorem textTo_append {s t : Spot} (h : s.Onward t) : s.textTo t ++ t.after = s.after := by
  obtain ⟨skipped, eq⟩ : t.after <:+ s.after :=
    List.suffix_of_suffix_length_le ⟨_, h.text⟩ ⟨_, rfl⟩ h.le
  rw [textTo, ← eq]
  simp

theorem textTo_textTo {s t u : Spot} (h : s.Onward t) (h' : t.Onward u) :
    s.textTo t ++ t.textTo u = s.textTo u := by
  have same : s.textTo t ++ t.textTo u ++ u.after = s.textTo u ++ u.after := by
    rw [List.append_assoc, h'.textTo_append, h.textTo_append, (h.trans h').textTo_append]
  exact List.append_cancel_right same

end Onward

theorem mem_eraseDupsBy_loop {α : Type} {same : α → α → Bool} {x : α} (l kept : List α)
    (eq : ∀ a ∈ l, ∀ b ∈ l ++ kept, same a b = true → a = b) :
    x ∈ List.eraseDupsBy.loop same l kept ↔ x ∈ l ++ kept := by
  induction l generalizing kept with
  | nil => simp [List.eraseDupsBy.loop]
  | cons a l ih =>
    rw [List.eraseDupsBy.loop.eq_def]
    simp only
    split
    · next found =>
      obtain ⟨b, mem, same⟩ := List.any_eq_true.mp found
      obtain rfl := eq a (by simp) b (by simp [mem]) same
      rw [ih kept fun c hc d hd => eq c (by simp [hc]) d (by simp_all)]
      simp only [List.cons_append, List.mem_cons]
      grind
    · rw [ih (a :: kept) fun c hc d hd => eq c (by simp [hc]) d (by simp_all; tauto)]
      simp only [List.cons_append, List.mem_cons, List.mem_append]
      tauto

theorem mem_distinct_iff {s t : Spot} {spots : List Spot} (onward : ∀ u ∈ spots, s.Onward u) :
    t ∈ distinct spots ↔ t ∈ spots := by
  rw [distinct, List.eraseDupsBy, mem_eraseDupsBy_loop, List.append_nil]
  intro a ha b hb same
  rw [List.append_nil] at hb
  simp only [Bool.and_eq_true, beq_iff_eq] at same
  exact (onward a ha).eq_of_same (onward b hb) same.1 same.2

end Spot

namespace Regex

def Allows (ignoresCase : Bool) (set : CharSet) (c : Char) : Prop :=
  set.admits c = true ∨
    ignoresCase = true ∧ (set.admits c.toLower = true ∨ set.admits c.toUpper = true)

def Alike (ignoresCase : Bool) (c d : Char) : Prop :=
  c = d ∨ ignoresCase = true ∧ c.toLower = d.toLower

/-- Repetitions in a row, of which `count` have gone before. Those beyond the least number that is
asked for take something of the text. -/
inductive Chain (Step : Spot → Spot → Prop) (least : Nat) : (count : Nat) → (further : Nat) →
    Spot → Spot → Prop
  | nil {count : Nat} (s : Spot) : Chain Step least count 0 s s
  | cons {count further : Nat} {s t u : Spot} (step : Step s t)
      (leadsOn : least ≤ count → t.after.length < s.after.length)
      (rest : Chain Step least (count + 1) further t u) : Chain Step least count (further + 1) s u

/-- A match that begins at the first place can end at the second. -/
def Leads (ignoresCase : Bool) : Regex → Spot → Spot → Prop
  | .empty, s, t => t = s
  | .one set, s, t => ∃ c rest, s.after = c :: rest ∧ Allows ignoresCase set c ∧ t = s.advance 1
  | .anchor a, s, t => s.meets a = true ∧ t = s
  | .seq a b, s, t => ∃ u, Leads ignoresCase a s u ∧ Leads ignoresCase b u t
  | .either a b, s, t => Leads ignoresCase a s t ∨ Leads ignoresCase b s t
  | .repeated r least most, s, t => ∃ count, least ≤ count ∧ (∀ limit ∈ most, count ≤ limit) ∧
      Chain (Leads ignoresCase r) least 0 count s t
  | .group number r, s, t => ∃ u, Leads ignoresCase r s u ∧ t = u.setGroup number (s.textTo u)
  | .back number, s, t => ∃ text, s.group? number = some text ∧
      List.Forall₂ (Alike ignoresCase) (s.after.take text.length) text ∧ t = s.advance text.length

variable {ignoresCase : Bool} {r : Regex} {s t a b : Spot}

theorem Chain.onward {Step : Spot → Spot → Prop} {least count further : Nat}
    (step : ∀ s t, Step s t → s.Onward t) (h : Chain Step least count further s t) : s.Onward t := by
  induction h with
  | nil s => exact .refl s
  | cons first _ _ ih => exact (step _ _ first).trans ih

theorem Leads.onward (h : Leads ignoresCase r s t) : s.Onward t := by
  induction r generalizing s t with
  | empty => exact h ▸ .refl s
  | one set =>
    obtain ⟨_, _, -, -, rfl⟩ := h
    exact .advance s 1
  | anchor a => exact h.2 ▸ .refl s
  | seq a b iha ihb =>
    obtain ⟨u, first, second⟩ := h
    exact (iha first).trans (ihb second)
  | either a b iha ihb => exact h.elim iha ihb
  | repeated r least most ih =>
    obtain ⟨_, -, -, chain⟩ := h
    exact chain.onward fun _ _ => ih
  | group number r ih =>
    obtain ⟨u, inner, rfl⟩ := h
    exact (ih inner).setGroup number _
  | back number =>
    obtain ⟨text, -, -, rfl⟩ := h
    exact .advance s _

theorem mem_nextLevel_iff {step : Spot → List Spot} {Step : Spot → Spot → Prop}
    {level : List Spot} {start t : Spot} (mustLeadOn : Bool) (mem : ∀ s t, t ∈ step s ↔ Step s t)
    (onward : ∀ s t, Step s t → s.Onward t) (from_start : ∀ s ∈ level, start.Onward s) :
    t ∈ nextLevel step mustLeadOn level ↔ ∃ s ∈ level, Step s t ∧
      (mustLeadOn = true → t.after.length < s.after.length) := by
  rw [nextLevel, Spot.mem_distinct_iff]
  · simp only [List.mem_flatMap, List.mem_filter, mem, Bool.or_eq_true, Bool.not_eq_true',
      decide_eq_true_eq]
    refine exists_congr fun s => and_congr_right fun _ => and_congr_right fun _ => ?_
    cases mustLeadOn <;> simp
  · intro u hu
    simp only [List.mem_flatMap, List.mem_filter, mem] at hu
    obtain ⟨s, hs, first, -⟩ := hu
    exact (from_start s hs).trans (onward s u first)

theorem exists_chain_iff {Step : Spot → Spot → Prop} {least count : Nat}
    {P : Nat → Prop} : (∃ further, P further ∧ Chain Step least count further s t) ↔
      P 0 ∧ t = s ∨ ∃ u, Step s u ∧ (least ≤ count → u.after.length < s.after.length) ∧
        ∃ further, P (further + 1) ∧ Chain Step least (count + 1) further u t := by
  constructor
  · rintro ⟨further, holds, chain⟩
    cases chain with
    | nil => exact .inl ⟨holds, rfl⟩
    | cons step leadsOn rest => exact .inr ⟨_, step, leadsOn, _, holds, rest⟩
  · rintro (⟨holds, rfl⟩ | ⟨u, step, leadsOn, further, holds, rest⟩)
    · exact ⟨0, holds, .nil t⟩
    · exact ⟨further + 1, holds, .cons step leadsOn rest⟩

theorem mem_levels_iff {step : Spot → List Spot} {Step : Spot → Spot → Prop} {least : Nat}
    {most : Option Nat} {fuel count : Nat} {level : List Spot} {t : Spot} (start : Spot)
    (mem : ∀ s t, t ∈ step s ↔ Step s t) (onward : ∀ s t, Step s t → s.Onward t)
    (from_start : ∀ s ∈ level, start.Onward s) (few : ∀ limit ∈ most, count ≤ limit)
    (enough : ∀ s ∈ level, (least - count) + s.after.length < fuel) :
    t ∈ levels step least most fuel count level ↔ ∃ s ∈ level, ∃ further,
      (least ≤ count + further ∧ ∀ limit ∈ most, count + further ≤ limit) ∧
      Chain Step least count further s t := by
  induction fuel generalizing count level with
  | zero =>
    refine ⟨nofun, fun ⟨s, hs, _⟩ => ?_⟩
    exact absurd (enough s hs) (Nat.not_lt_zero _)
  | succ fuel ih =>
    have mem_here : t ∈ (if least ≤ count then level else []) ↔ least ≤ count ∧ t ∈ level := by
      split <;> simp [*]
    rw [exists_congr fun s => and_congr_right fun _ => exists_chain_iff]
    unfold levels
    split
    · next none =>
      rw [List.isEmpty_iff] at none
      simp [none]
    dsimp only
    split
    · next last =>
      subst last
      rw [mem_here]
      constructor
      · rintro ⟨least_le, h⟩
        exact ⟨t, h, .inl ⟨⟨least_le, few⟩, rfl⟩⟩
      · rintro ⟨s, hs, ⟨⟨least_le, -⟩, rfl⟩ | ⟨u, -, -, further, ⟨-, limit⟩, -⟩⟩
        · exact ⟨least_le, hs⟩
        · have := limit count rfl
          omega
    · next more =>
      have next (u : Spot) :=
        mem_nextLevel_iff (t := u) (decide (least ≤ count)) mem onward from_start
      rw [List.mem_append, mem_here, ih]
      · have shift (n : Nat) : count + 1 + n = count + (n + 1) := by omega
        simp only [shift]
        constructor
        · rintro (⟨u, hu, rest⟩ | ⟨least_le, h⟩)
          · obtain ⟨s, hs, first, leadsOn⟩ := (next u).mp hu
            exact ⟨s, hs, .inr ⟨u, first, by simpa using leadsOn, rest⟩⟩
          · exact ⟨t, h, .inl ⟨⟨least_le, few⟩, rfl⟩⟩
        · rintro ⟨s, hs, ⟨⟨least_le, -⟩, rfl⟩ | ⟨u, first, leadsOn, rest⟩⟩
          · exact .inr ⟨least_le, hs⟩
          · exact .inl ⟨u, (next u).mpr ⟨s, hs, first, by simpa using leadsOn⟩, rest⟩
      · intro u hu
        obtain ⟨s, hs, first, -⟩ := (next u).mp hu
        exact (from_start s hs).trans (onward s u first)
      · intro limit hl
        have := few limit hl
        have : limit ≠ count := fun h => more (h ▸ hl)
        omega
      · intro u hu
        obtain ⟨s, hs, first, leadsOn⟩ := (next u).mp hu
        have := enough s hs
        have := (onward s u first).le
        by_cases hc : least ≤ count
        · have := leadsOn (by simpa using hc)
          omega
        · omega

theorem forall₂_alike_iff (ignoresCase : Bool) (here text : Octets) :
    (here.length = text.length ∧ (List.zipWith
      (fun a b => a == b || (ignoresCase && a.toLower == b.toLower)) here text).all id = true) ↔
      List.Forall₂ (Alike ignoresCase) here text := by
  induction here generalizing text with
  | nil => cases text <;> simp
  | cons c here ih =>
    cases text with
    | nil => simp
    | cons d text =>
      rw [List.forall₂_cons, ← ih]
      simp [Alike]
      tauto

theorem mem_spots_iff : t ∈ spots ignoresCase r s ↔ Leads ignoresCase r s t := by
  induction r generalizing s t with
  | empty => simp [spots, Leads]
  | one set =>
    cases h : s.after with
    | nil => simp [spots, Leads, h]
    | cons c rest =>
      have allows : (if ignoresCase = true then set.admitsAnyCase c else set.admits c) = true ↔
          Allows ignoresCase set c := by
        cases ignoresCase <;> simp [Allows, CharSet.admitsAnyCase, or_assoc]
      simp only [spots, h, allows, Leads]
      split <;> simp_all
  | anchor a =>
    simp only [spots, Leads]
    split <;> simp_all
  | seq a b iha ihb =>
    rw [spots, Spot.mem_distinct_iff]
    · simp only [List.mem_flatMap, iha, ihb, Leads]
    · intro u hu
      simp only [List.mem_flatMap, iha, ihb] at hu
      obtain ⟨v, first, second⟩ := hu
      exact first.onward.trans second.onward
  | either a b iha ihb =>
    rw [spots, Spot.mem_distinct_iff]
    · simp only [List.mem_append, iha, ihb, Leads]
    · intro u hu
      simp only [List.mem_append, iha, ihb] at hu
      exact hu.elim Leads.onward Leads.onward
  | repeated r least most ih =>
    rw [spots, mem_levels_iff s (fun _ _ => ih) (fun _ _ => Leads.onward)]
    · simp [Leads, and_assoc]
    · simp [Spot.Onward.refl]
    · simp
    · simp
      omega
  | group number r ih => simp only [spots, List.mem_map, ih, Leads, eq_comm]
  | back number =>
    simp only [spots, Leads]
    cases s.group? number with
    | none => simp
    | some text =>
      have alike := forall₂_alike_iff ignoresCase (s.after.take text.length) text
      simp only [Option.some.injEq, exists_eq_left', ← alike]
      split <;> simp_all

theorem furthest_eq_none_iff {spots : List Spot} : furthest spots = none ↔ spots = [] := by
  cases spots with
  | nil => simp [furthest]
  | cons s rest =>
    rw [furthest]
    split <;> simp

theorem furthest_spec {spots : List Spot} {t : Spot} (h : furthest spots = some t) :
    t ∈ spots ∧ ∀ u ∈ spots, t.after.length ≤ u.after.length := by
  induction spots generalizing t with
  | nil => simp [furthest] at h
  | cons s rest ih =>
    rw [furthest] at h
    split at h
    · next none =>
      rw [furthest_eq_none_iff] at none
      simp_all
    · next v some =>
      obtain ⟨mem, least⟩ := ih some
      obtain rfl := Option.some.inj h
      split
      · next shorter =>
        refine ⟨.tail _ mem, fun u hu => ?_⟩
        obtain rfl | hu := List.mem_cons.mp hu
        · exact Nat.le_of_lt shorter
        · exact least u hu
      · next longer =>
        refine ⟨.head _, fun u hu => ?_⟩
        obtain rfl | hu := List.mem_cons.mp hu
        · exact Nat.le_refl _
        · exact Nat.le_trans (Nat.le_of_not_lt longer) (least u hu)

/-- A match between two places; it starts with no group filled. -/
def Matches (ignoresCase : Bool) (r : Regex) (s t : Spot) : Prop :=
  Leads ignoresCase r { s with groups := [] } t

structure IsLongest (ignoresCase : Bool) (r : Regex) (s t : Spot) : Prop where
  isMatch : Matches ignoresCase r s t
  longest : ∀ u, Matches ignoresCase r s u → t.after.length ≤ u.after.length

theorem isLongest_of_matchAt (h : r.matchAt ignoresCase s = some t) :
    IsLongest ignoresCase r s t := by
  obtain ⟨mem, least⟩ := furthest_spec h
  exact ⟨mem_spots_iff.mp mem, fun u hu => least u (mem_spots_iff.mpr hu)⟩

theorem matchAt_eq_none_iff :
    r.matchAt ignoresCase s = none ↔ ∀ t, ¬ Matches ignoresCase r s t := by
  rw [matchAt, furthest_eq_none_iff, List.eq_nil_iff_forall_not_mem]
  exact forall_congr' fun t => not_congr mem_spots_iff

/-- The match is the longest at its place, which is `skipped` characters behind `s`, and none begins
before it. -/
structure IsFirst (ignoresCase : Bool) (r : Regex) (s : Spot) (skipped : Nat) (a b : Spot) :
    Prop where
  le : skipped ≤ s.after.length
  eq : a = s.advance skipped
  isLongest : IsLongest ignoresCase r a b
  first : ∀ n < skipped, ∀ t, ¬ Matches ignoresCase r (s.advance n) t

theorem IsFirst.behind {skipped : Nat}
    (none : ∀ t, ¬ Matches ignoresCase r s t) (more : s.after ≠ [])
    (h : IsFirst ignoresCase r (s.advance 1) skipped a b) :
    IsFirst ignoresCase r s (skipped + 1) a b where
  le := by
    have le := h.le
    have := List.length_pos_of_ne_nil more
    simp only [Spot.advance, List.length_drop] at le
    omega
  eq := by rw [h.eq, Spot.advance_advance, Nat.add_comm]
  isLongest := h.isLongest
  first
    | 0, _, t => by simpa using none t
    | n + 1, hn, t => by
      have := h.first n (Nat.lt_of_succ_lt_succ hn) t
      rwa [Spot.advance_advance, Nat.add_comm] at this

theorem isFirst_of_findFrom {fuel : Nat}
    (h : r.findFrom ignoresCase fuel s = some (a, b)) :
    ∃ skipped, IsFirst ignoresCase r s skipped a b := by
  induction fuel generalizing s with
  | zero => simp [findFrom] at h
  | succ fuel ih =>
    rw [findFrom] at h
    split at h
    · next t found =>
      obtain ⟨rfl, rfl⟩ := Prod.mk.inj (Option.some.inj h)
      exact ⟨0, Nat.zero_le _, (Spot.advance_zero s).symm, isLongest_of_matchAt found, nofun⟩
    · next none =>
      split at h
      · simp at h
      · next more =>
        obtain ⟨skipped, first⟩ := ih h
        exact ⟨skipped + 1, first.behind (matchAt_eq_none_iff.mp none) (by simpa using more)⟩

theorem isFirst_of_find (h : r.find ignoresCase s = some (a, b)) :
    ∃ skipped, IsFirst ignoresCase r s skipped a b :=
  isFirst_of_findFrom h

theorem findFrom_eq_none_iff {fuel : Nat} (enough : s.after.length < fuel) :
    r.findFrom ignoresCase fuel s = none ↔
      ∀ n ≤ s.after.length, ∀ t, ¬ Matches ignoresCase r (s.advance n) t := by
  induction fuel generalizing s with
  | zero => simp at enough
  | succ fuel ih =>
    rw [findFrom]
    split
    · next t found =>
      refine ⟨nofun, fun h => ?_⟩
      exact absurd (isLongest_of_matchAt found).isMatch (by simpa using h 0 (Nat.zero_le _) t)
    · next none =>
      rw [matchAt_eq_none_iff] at none
      split
      · next ended =>
        rw [List.isEmpty_iff] at ended
        simpa [ended] using none
      · next more =>
        have pos : 0 < s.after.length := List.length_pos_of_ne_nil (by simpa using more)
        have length : (s.advance 1).after.length = s.after.length - 1 := by simp [Spot.advance]
        rw [ih (by omega), length]
        constructor
        · rintro h (_ | n) hn t
          · simpa using none t
          · have := h n (by omega) t
            rwa [Spot.advance_advance, Nat.add_comm] at this
        · intro h n hn t
          rw [Spot.advance_advance, Nat.add_comm]
          exact h (n + 1) (by omega) t

theorem find_eq_none_iff :
    r.find ignoresCase s = none ↔
      ∀ n ≤ s.after.length, ∀ t, ¬ Matches ignoresCase r (s.advance n) t :=
  findFrom_eq_none_iff (Nat.lt_succ_self _)

theorem occursIn_iff {text : Octets} :
    r.occursIn ignoresCase text = true ↔
      ∃ n ≤ text.length, ∃ t, Matches ignoresCase r ((Spot.ofText text).advance n) t := by
  rw [occursIn, Option.isSome_iff_ne_none, ne_eq, find_eq_none_iff]
  push Not
  rfl

theorem leads_literal_iff {text : Octets} :
    Leads false (literal text) s t ↔ text <+: s.after ∧ t = s.advance text.length := by
  induction text generalizing s with
  | nil => simp [literal, Leads]
  | cons c text ih =>
    change (∃ u, Leads false (.one (.exactly c)) s u ∧ Leads false (literal text) u t) ↔ _
    simp only [ih, Leads, Allows, CharSet.admits]
    cases h : s.after with
    | nil => simp
    | cons d rest =>
      have after : (s.advance 1).after = rest := by simp [Spot.advance, h]
      simp [after, List.cons_prefix_cons, Spot.advance_advance, Nat.add_comm, and_assoc,
        eq_comm (a := c)]

theorem occursIn_literal_iff {word text : Octets} :
    (literal word).occursIn false text = true ↔ word <:+: text := by
  rw [occursIn_iff]
  constructor
  · rintro ⟨n, -, t, found⟩
    have start : word <+: text.drop n := (leads_literal_iff.mp found).1
    exact start.isInfix.trans (text.drop_suffix n).isInfix
  · rintro ⟨before, behind, rfl⟩
    refine ⟨before.length, by simp, _, leads_literal_iff.mpr ⟨?_, rfl⟩⟩
    simp [Spot.advance, Spot.ofText]

/-- Matches one behind the other, the first of them behind `s`. -/
inductive Successive (ignoresCase : Bool) (r : Regex) : Spot → List (Spot × Spot) → Prop
  | nil (s : Spot) : Successive ignoresCase r s []
  | cons {s a b : Spot} {rest : List (Spot × Spot)} (onward : s.Onward a)
      (isLongest : IsLongest ignoresCase r a b) (behind : Successive ignoresCase r b rest) :
      Successive ignoresCase r s ((a, b) :: rest)

theorem IsLongest.onward (h : IsLongest ignoresCase r s t) : s.Onward t :=
  ⟨h.isMatch.onward.text, h.isMatch.onward.le⟩

theorem Successive.onward {before behind : List (Spot × Spot)}
    (h : Successive ignoresCase r s (before ++ (a, b) :: behind)) : s.Onward a := by
  induction before generalizing s with
  | nil => cases h with | cons onward _ _ => exact onward
  | cons m before ih =>
    cases h with
    | cons onward isLongest behind => exact (onward.trans isLongest.onward).trans (ih behind)

theorem Successive.of_onward {all : List (Spot × Spot)} (h : s.Onward t)
    (behind : Successive ignoresCase r t all) : Successive ignoresCase r s all := by
  cases behind with
  | nil => exact .nil s
  | cons onward isLongest behind => exact .cons (h.trans onward) isLongest behind

theorem successive_findAll {fuel : Nat} {afterMatch : Bool} :
    Successive ignoresCase r s (r.findAll ignoresCase fuel afterMatch s) := by
  induction fuel generalizing afterMatch s with
  | zero => exact .nil s
  | succ fuel ih =>
    rw [findAll]
    split
    · exact .nil s
    · next a b found =>
      obtain ⟨skipped, first⟩ := isFirst_of_find found
      have onward : s.Onward a := first.eq ▸ .advance s skipped
      dsimp only
      split
      · split
        · exact .nil s
        · exact ih.of_onward (.advance s 1)
      · split
        · refine .cons onward first.isLongest ?_
          split
          · exact .nil b
          · exact ih.of_onward (.advance b 1)
        · exact .cons onward first.isLongest ih

theorem successive_allIn (ignoresCase : Bool) (r : Regex) (text : Octets) :
    Successive ignoresCase r (.ofText text) (r.allIn ignoresCase text) :=
  successive_findAll

end Regex

end SymbolDocs.Script
