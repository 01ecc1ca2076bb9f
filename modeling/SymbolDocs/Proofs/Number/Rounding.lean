import SymbolDocs.Number.Binary64
import Mathlib.Algebra.Order.Field.Power
import Mathlib.Data.Rat.Floor
import Mathlib.Tactic.FieldSimp
import Mathlib.Tactic.Linarith
import Mathlib.Tactic.NormNum
import Mathlib.Tactic.Positivity
import Mathlib.Tactic.Ring

namespace SymbolDocs.Binary64

def magnitude (mantissa : Nat) (exponent : Int) : ℚ :=
  mantissa * 2 ^ exponent

structure Canonical (mantissa : Nat) (exponent : Int) : Prop where
  lt : mantissa < 2 ^ 53
  le : minExponent ≤ exponent
  full : 2 ^ 52 ≤ mantissa ∨ exponent = minExponent

/-- How far below a number its lower neighbour is, in units of the number. -/
def gap (mantissa : Nat) (exponent : Int) : ℚ :=
  if mantissa = 2 ^ 52 ∧ minExponent < exponent then 1 / 2 else 1

/-- The value lies no further than half way to a neighbour of the number, and not at half way if the
mantissa is odd. -/
structure Within (value : ℚ) (mantissa : Nat) (exponent : Int) : Prop where
  lower : (mantissa - gap mantissa exponent / 2) * 2 ^ exponent ≤ value
  upper : value ≤ (mantissa + 1 / 2) * 2 ^ exponent
  even : (mantissa - gap mantissa exponent / 2) * 2 ^ exponent = value ∨
    value = (mantissa + 1 / 2) * 2 ^ exponent → Even mantissa

variable {x : ℚ} {m m' digits : Nat} {e e' place : Int}

theorem magnitude_mono_exponent (h : e ≤ e') : magnitude m e ≤ magnitude m e' := by
  unfold magnitude
  have := zpow_le_zpow_right₀ (one_le_two (α := ℚ)) h
  exact mul_le_mul_of_nonneg_left this (Nat.cast_nonneg m)

theorem magnitude_eq_of_le (h : e ≤ e') : ∃ k : Nat, magnitude m e' = k * 2 ^ e := by
  obtain ⟨n, rfl⟩ := Int.le.dest h
  refine ⟨m * 2 ^ n, ?_⟩
  rw [magnitude, zpow_add₀ two_ne_zero, zpow_natCast]
  push_cast
  ring

theorem two_pow_mul_zpow (n : Nat) (e : Int) : (2 : ℚ) ^ n * 2 ^ e = 2 ^ ((n : Int) + e) := by
  rw [zpow_add₀ two_ne_zero, zpow_natCast]

theorem zpow_pred (e : Int) : (2 : ℚ) ^ (e - 1) = 2 ^ e / 2 := by
  rw [zpow_sub_one₀ two_ne_zero]
  ring

theorem magnitude_lt_of_exponent_lt (h : e' < e) (lt : m' < 2 ^ 53) :
    magnitude m' e' ≤ (2 ^ 52 - 1 / 2) * 2 ^ e := by
  have below := magnitude_mono_exponent (m := m') (Int.le_sub_one_of_lt h)
  have small : (m' : ℚ) ≤ 2 ^ 53 - 1 := by
    have : m' + 1 ≤ 2 ^ 53 := lt
    have : ((m' + 1 : Nat) : ℚ) ≤ (2 ^ 53 : Nat) := by exact_mod_cast this
    push_cast at this
    linarith
  have pos : (0 : ℚ) < 2 ^ e := by positivity
  refine below.trans ?_
  rw [magnitude, zpow_pred]
  nlinarith

theorem gap_le_one : gap m e ≤ 1 := by
  unfold gap
  split <;> norm_num

theorem half_le_gap : 1 / 2 ≤ gap m e := by
  unfold gap
  split <;> norm_num

theorem Canonical.next_le (h : Canonical m e) (lt : m' < 2 ^ 53) (le : minExponent ≤ e')
    (above : magnitude m e < magnitude m' e') : (m + 1) * 2 ^ e ≤ magnitude m' e' := by
  have pos : (0 : ℚ) < 2 ^ e := by positivity
  obtain smaller | larger := lt_or_ge e' e
  · have full : (2 ^ 52 : ℚ) ≤ m := by
      exact_mod_cast h.full.resolve_right (by omega)
    have := magnitude_lt_of_exponent_lt smaller lt
    unfold magnitude at above this
    nlinarith
  · obtain ⟨k, eq⟩ := magnitude_eq_of_le (m := m') larger
    rw [eq] at above ⊢
    have : m < k := by exact_mod_cast lt_of_mul_lt_mul_right above pos.le
    have : ((m + 1 : Nat) : ℚ) ≤ k := by exact_mod_cast this
    push_cast at this
    exact mul_le_mul_of_nonneg_right this pos.le

theorem Canonical.le_previous (h : Canonical m e) (lt : m' < 2 ^ 53) (le : minExponent ≤ e')
    (below : magnitude m' e' < magnitude m e) :
    magnitude m' e' ≤ (m - gap m e) * 2 ^ e := by
  have pos : (0 : ℚ) < 2 ^ e := by positivity
  obtain smaller | larger := lt_or_ge e' e
  · have full : 2 ^ 52 ≤ m := h.full.resolve_right (by omega)
    have bound := magnitude_lt_of_exponent_lt smaller lt
    obtain rfl | more := Nat.eq_or_lt_of_le full
    · have : gap (2 ^ 52) e = 1 / 2 := if_pos ⟨rfl, by omega⟩
      rw [this]
      push_cast
      exact bound
    · have : gap m e = 1 := if_neg (by omega)
      rw [this]
      have : ((2 ^ 52 + 1 : Nat) : ℚ) ≤ m := by exact_mod_cast more
      push_cast at this
      nlinarith
  · obtain ⟨k, eq⟩ := magnitude_eq_of_le (m := m') larger
    rw [eq] at below ⊢
    have less : k < m := by exact_mod_cast lt_of_mul_lt_mul_right below pos.le
    have : ((k + 1 : Nat) : ℚ) ≤ m := by exact_mod_cast less
    push_cast at this
    have := gap_le_one (m := m) (e := e)
    apply mul_le_mul_of_nonneg_right _ pos.le
    linarith

/-- No other number is nearer, and of two that are equally near it is the even one. -/
structure IsNearest (x : ℚ) (m : Nat) (e : Int) : Prop where
  near : ∀ m' e', m' < 2 ^ 53 → minExponent ≤ e' →
    |x - magnitude m e| ≤ |x - magnitude m' e'|
  even : ∀ m' e', m' < 2 ^ 53 → minExponent ≤ e' → magnitude m' e' ≠ magnitude m e →
    |x - magnitude m e| = |x - magnitude m' e'| → Even m

theorem abs_sub_lt_or_eq {a b x : ℚ} (differ : a ≠ b) (side : 0 ≤ (a - b) * (2 * x - (a + b))) :
    |x - a| < |x - b| ∨ |x - a| = |x - b| ∧ 2 * x = a + b := by
  obtain strict | tie := side.lt_or_eq
  · exact .inl (sq_lt_sq.mp (by nlinarith))
  · have middle : 2 * x = a + b := by
      have := (mul_eq_zero.mp tie.symm).resolve_left (sub_ne_zero.mpr differ)
      linarith
    refine .inr ⟨?_, middle⟩
    rw [show x - a = b - x by linarith, abs_sub_comm]

theorem Within.compare (h : Within x m e) (canonical : Canonical m e) (lt : m' < 2 ^ 53)
    (le : minExponent ≤ e') (differ : magnitude m' e' ≠ magnitude m e) :
    |x - magnitude m e| < |x - magnitude m' e'| ∨
      |x - magnitude m e| = |x - magnitude m' e'| ∧ Even m := by
  have pos : (0 : ℚ) < 2 ^ e := by positivity
  have lower := h.lower
  have upper := h.upper
  have here : magnitude m e = m * 2 ^ e := rfl
  obtain below | above := lt_or_gt_of_ne differ
  · have previous := canonical.le_previous lt le below
    obtain nearer | ⟨tie, middle⟩ := abs_sub_lt_or_eq (x := x) differ.symm
      (mul_nonneg (sub_nonneg.mpr below.le) (by linarith))
    · exact .inl nearer
    · exact .inr ⟨tie, h.even (.inl (by linarith))⟩
  · have next := canonical.next_le lt le above
    obtain nearer | ⟨tie, middle⟩ := abs_sub_lt_or_eq (x := x) differ.symm
      (mul_nonneg_of_nonpos_of_nonpos (sub_nonpos.mpr above.le) (by linarith))
    · exact .inl nearer
    · exact .inr ⟨tie, h.even (.inr (by linarith))⟩

theorem Within.isNearest (h : Within x m e) (canonical : Canonical m e) : IsNearest x m e where
  near m' e' lt le := by
    by_cases same : magnitude m' e' = magnitude m e
    · rw [same]
    · exact (h.compare canonical lt le same).elim le_of_lt fun tie => tie.1.le
  even m' e' lt le differ tie := by
    obtain nearer | ⟨-, even⟩ := h.compare canonical lt le differ
    · exact absurd tie nearer.ne
    · exact even

theorem Canonical.exponent_le (h : Canonical m e) (h' : Canonical m' e')
    (same : magnitude m e = magnitude m' e') : e ≤ e' := by
  by_contra smaller
  have full : (2 ^ 52 : ℚ) ≤ m := by
    exact_mod_cast h.full.resolve_right (by have := h'.le; omega)
  have := magnitude_lt_of_exponent_lt (not_le.mp smaller) h'.lt
  have pos : (0 : ℚ) < 2 ^ e := by positivity
  rw [← same, magnitude] at this
  nlinarith

theorem Canonical.unique (h : Canonical m e) (h' : Canonical m' e')
    (same : magnitude m e = magnitude m' e') : m = m' ∧ e = e' := by
  obtain rfl := le_antisymm (h.exponent_le h' same) (h'.exponent_le h same.symm)
  have ne : (2 : ℚ) ^ e ≠ 0 := by positivity
  exact ⟨by exact_mod_cast mul_right_cancel₀ ne same, rfl⟩

theorem Within.magnitude_le (h : Within x m e) (canonical : Canonical m e) (h' : Within x m' e')
    (canonical' : Canonical m' e') : magnitude m' e' ≤ magnitude m e := by
  by_contra above
  rw [not_le] at above
  -- both are nearest, so the value is half way between neighbours, and both of these are even
  have next := canonical.next_le canonical'.lt canonical'.le above
  have upper := h.upper
  have near := (h.isNearest canonical).near m' e' canonical'.lt canonical'.le
  have near' := (h'.isNearest canonical').near m e canonical.lt canonical.le
  have middle : magnitude m e + magnitude m' e' ≤ 2 * x := by
    have := sq_le_sq.mpr near'
    nlinarith
  have here : magnitude m e = m * 2 ^ e := rfl
  have even := h.even (.inr (by linarith))
  have even' := (h'.isNearest canonical').even m e canonical.lt canonical.le above.ne
    (le_antisymm near' near)
  have neighbour : Canonical (m + 1) e := by
    refine ⟨?_, canonical.le, canonical.full.imp_left Nat.le_succ_of_le⟩
    have := canonical.lt
    obtain ⟨k, rfl⟩ := even
    omega
  obtain ⟨rfl, -⟩ := neighbour.unique canonical' (by
    rw [magnitude]
    push_cast
    linarith)
  exact Nat.not_even_iff_odd.mpr even.add_one even'

theorem Within.unique (h : Within x m e) (canonical : Canonical m e) (h' : Within x m' e')
    (canonical' : Canonical m' e') : m = m' ∧ e = e' :=
  canonical.unique canonical' (le_antisymm (h'.magnitude_le canonical' h canonical)
    (h.magnitude_le canonical h' canonical'))

/-- The whole number nearest to a value, the even one of two. -/
structure IsRounded (x : ℚ) (n : Nat) : Prop where
  lower : n - 1 / 2 ≤ x
  upper : x ≤ n + 1 / 2
  even : (n : ℚ) - 1 / 2 = x ∨ x = n + 1 / 2 → Even n

namespace Ratio

def value (r : Ratio) : ℚ :=
  r.num / r.den

theorem exists_fraction {r : Ratio} (pos : 0 < r.den) : ∃ f, r.value = (r.num / r.den : Nat) + f ∧
    0 ≤ f ∧ f < 1 ∧ (2 * f < 1 ↔ 2 * (r.num % r.den) < r.den) ∧
    (1 < 2 * f ↔ r.den < 2 * (r.num % r.den)) := by
  have den_pos : (0 : ℚ) < r.den := by exact_mod_cast pos
  have split : (r.num : ℚ) = r.den * (r.num / r.den : Nat) + (r.num % r.den : Nat) := by
    exact_mod_cast (Nat.div_add_mod r.num r.den).symm
  refine ⟨(r.num % r.den : Nat) / r.den, ?_, by positivity, ?_, ?_, ?_⟩
  · rw [Ratio.value, split]
    field_simp
  · rw [div_lt_one den_pos]
    exact_mod_cast Nat.mod_lt _ pos
  · rw [mul_div_assoc', div_lt_one den_pos]
    exact_mod_cast Iff.rfl
  · rw [mul_div_assoc', one_lt_div den_pos]
    exact_mod_cast Iff.rfl

theorem isRounded_round {r : Ratio} (pos : 0 < r.den) : IsRounded r.value r.round := by
  obtain ⟨f, value, f_nonneg, f_lt, less_iff, more_iff⟩ := exists_fraction pos
  have succ (n : Nat) : ((n + 1 : Nat) : ℚ) = n + 1 := Nat.cast_succ n
  unfold round
  dsimp only
  rw [value]
  split
  · next less =>
    have := less_iff.mpr less
    exact ⟨by linarith, by linarith, fun h => by rcases h with h | h <;> linarith⟩
  · next not_less =>
    split
    · next more =>
      have := more_iff.mpr more
      refine ⟨?_, ?_, fun h => ?_⟩ <;> rw [succ] at *
      · linarith
      · linarith
      · rcases h with h | h <;> linarith
    · next not_more =>
      have := not_lt.mp (mt less_iff.mp not_less)
      have := not_lt.mp (mt more_iff.mp not_more)
      split
      · next even => exact ⟨by linarith, by linarith, fun _ => Nat.even_iff.mpr even⟩
      · next odd =>
        refine ⟨?_, ?_, fun _ => Nat.even_iff.mpr (by omega)⟩ <;> rw [succ] <;> linarith

theorem value_shift (r : Ratio) (e : Int) : (r.shift e).value = r.value / 2 ^ e := by
  unfold shift
  split
  · next nonneg =>
    obtain ⟨n, rfl⟩ := Int.eq_ofNat_of_zero_le nonneg
    simp [value, div_div]
  · next negative =>
    obtain ⟨n, rfl⟩ : ∃ n : Nat, e = -n := ⟨(-e).toNat, by omega⟩
    simp [value]
    ring

theorem value_scaled (n base : Nat) (e : Int) :
    (scaled n base e).value = n * (base : ℚ) ^ e := by
  unfold scaled
  split
  · next nonneg =>
    obtain ⟨k, rfl⟩ := Int.eq_ofNat_of_zero_le nonneg
    simp [value]
  · next negative =>
    obtain ⟨k, rfl⟩ : ∃ k : Nat, e = -k := ⟨(-e).toNat, by omega⟩
    simp [value]
    ring

theorem den_scaled_pos (n : Nat) {base : Nat} (pos : 0 < base) (e : Int) :
    0 < (scaled n base e).den := by
  unfold scaled
  split
  · exact one_pos
  · exact Nat.pow_pos pos

theorem le_value_iff {r : Ratio} (pos : 0 < r.den) (n : Nat) :
    (n : ℚ) ≤ r.value ↔ r.den * n ≤ r.num := by
  have den_pos : (0 : ℚ) < r.den := by exact_mod_cast pos
  rw [value, le_div_iff₀ den_pos, mul_comm]
  exact_mod_cast Iff.rfl

theorem den_shift_pos {r : Ratio} (pos : 0 < r.den) (e : Int) : 0 < (r.shift e).den := by
  unfold shift
  split
  · exact Nat.mul_pos pos (Nat.pow_pos two_pos)
  · exact pos

theorem value_bounds {r : Ratio} (pos : 0 < r.den) (ne : r.num ≠ 0) :
    let size : Int := (Nat.log2 r.num : Int) - Nat.log2 r.den
    (2 : ℚ) ^ (size - 1) < r.value ∧ r.value < 2 ^ (size + 1) := by
  have num_le : (2 ^ r.num.log2 : ℚ) ≤ r.num := by exact_mod_cast Nat.log2_self_le ne
  have num_lt : (r.num : ℚ) < 2 ^ (r.num.log2 + 1) := by exact_mod_cast Nat.lt_log2_self
  have den_le : (2 ^ r.den.log2 : ℚ) ≤ r.den := by exact_mod_cast Nat.log2_self_le pos.ne'
  have den_lt : (r.den : ℚ) < 2 ^ (r.den.log2 + 1) := by exact_mod_cast Nat.lt_log2_self
  have den_pos : (0 : ℚ) < r.den := by exact_mod_cast pos
  have above (a b : Nat) : (2 : ℚ) ^ ((a : Int) - b - 1) = 2 ^ a / 2 ^ (b + 1) := by
    rw [show (a : Int) - b - 1 = a - (b + 1 : Nat) by push_cast; ring, zpow_sub₀ two_ne_zero,
      zpow_natCast, zpow_natCast]
  have below (a b : Nat) : (2 : ℚ) ^ ((a : Int) - b + 1) = 2 ^ (a + 1) / 2 ^ b := by
    rw [show (a : Int) - b + 1 = (a + 1 : Nat) - b by push_cast; ring, zpow_sub₀ two_ne_zero,
      zpow_natCast, zpow_natCast]
  dsimp only
  rw [above, below, value]
  constructor
  · rw [div_lt_div_iff₀ (by positivity) den_pos]
    have : (0 : ℚ) < 2 ^ r.num.log2 := by positivity
    nlinarith
  · rw [div_lt_div_iff₀ den_pos (by positivity)]
    have : (0 : ℚ) < 2 ^ r.den.log2 := by positivity
    nlinarith

end Ratio

theorem within_of_isRounded {n : Nat} (rounded : IsRounded (x / 2 ^ e) n) (le : minExponent ≤ e)
    (lt : x < 2 ^ 53 * 2 ^ e) (full : 2 ^ 52 * 2 ^ e ≤ x ∨ e = minExponent) :
    ∃ m e', (if n = 2 ^ 53 then (2 ^ 52, e + 1) else (n, e)) = (m, e') ∧ Canonical m e' ∧
      Within x m e' := by
  have pos : (0 : ℚ) < 2 ^ e := by positivity
  set y := x / 2 ^ e with hy
  have x_eq : x = y * 2 ^ e := by
    rw [hy]
    field_simp
  rw [x_eq] at full lt ⊢
  have y_lt : y < 2 ^ 53 := lt_of_mul_lt_mul_right lt pos.le
  have y_full : 2 ^ 52 ≤ y ∨ e = minExponent := full.imp_left fun h => le_of_mul_le_mul_right h pos
  have lower := rounded.lower
  have upper := rounded.upper
  split
  · next top =>
    subst top
    refine ⟨_, _, rfl, ⟨by norm_num, by omega, .inl le_rfl⟩, ?_⟩
    have : gap (2 ^ 52) (e + 1) = 1 / 2 := if_pos ⟨rfl, by omega⟩
    refine ⟨?_, ?_, fun _ => by decide⟩
    · rw [this, zpow_add_one₀ two_ne_zero]
      push_cast at lower ⊢
      nlinarith
    · rw [zpow_add_one₀ two_ne_zero]
      push_cast
      nlinarith
  · next lower_than =>
    have n_lt : n < 2 ^ 53 := by
      have : n < 2 ^ 53 + 1 := by
        have : (n : ℚ) < (2 ^ 53 + 1 : Nat) := by
          push_cast
          linarith
        exact_mod_cast this
      omega
    have n_full : 2 ^ 52 ≤ n ∨ e = minExponent := by
      refine y_full.imp_left fun full => ?_
      have : ((2 ^ 52 : Nat) : ℚ) < (n + 1 : Nat) := by
        push_cast
        linarith
      exact Nat.lt_succ_iff.mp (by exact_mod_cast this)
    refine ⟨_, _, rfl, ⟨n_lt, le, n_full⟩, ?_⟩
    have upper' : y * 2 ^ e ≤ (n + 1 / 2) * 2 ^ e := mul_le_mul_of_nonneg_right upper pos.le
    by_cases boundary : n = 2 ^ 52 ∧ minExponent < e
    · have narrow : gap n e = 1 / 2 := if_pos boundary
      have full : (n : ℚ) ≤ y := by
        rw [boundary.1]
        push_cast
        exact y_full.resolve_right (by omega)
      refine ⟨?_, upper', fun _ => boundary.1 ▸ by decide⟩
      rw [narrow]
      exact mul_le_mul_of_nonneg_right (by linarith) pos.le
    · have wide : gap n e = 1 := if_neg boundary
      refine ⟨?_, upper', fun h => rounded.even ?_⟩ <;> rw [wide] at *
      · exact mul_le_mul_of_nonneg_right lower pos.le
      · exact h.imp (mul_right_cancel₀ pos.ne') (mul_right_cancel₀ pos.ne')

theorem exponent_spec {r : Ratio} (pos : 0 < r.den) (ne : r.num ≠ 0) {size high exponent : Int}
    (hsize : size = (Nat.log2 r.num : Int) - Nat.log2 r.den)
    (hhigh : high = if (r.shift (size - mantissaBits)).den * Nat.pow 2 mantissaBits ≤
      (r.shift (size - mantissaBits)).num then size + 1 else size)
    (hexponent : exponent = max (high - mantissaBits) minExponent) :
    r.value < 2 ^ 53 * 2 ^ exponent ∧
      (2 ^ 52 * 2 ^ exponent ≤ r.value ∨ exponent = minExponent) := by
  obtain ⟨above, below⟩ := Ratio.value_bounds pos ne
  rw [← hsize] at above below
  have large_iff : (r.shift (size - mantissaBits)).den * Nat.pow 2 mantissaBits ≤
      (r.shift (size - mantissaBits)).num ↔ (2 : ℚ) ^ size ≤ r.value := by
    rw [← Ratio.le_value_iff (Ratio.den_shift_pos pos _), Ratio.value_shift,
      le_div_iff₀ (by positivity)]
    rw [show Nat.pow 2 mantissaBits = 2 ^ mantissaBits from rfl, Nat.cast_pow, Nat.cast_ofNat,
      two_pow_mul_zpow, add_sub_cancel]
  have bounds : (2 : ℚ) ^ (high - 1) ≤ r.value ∧ r.value < 2 ^ high := by
    rw [hhigh]
    split
    · next large =>
      rw [add_sub_cancel_right]
      exact ⟨large_iff.mp large, below⟩
    · next small => exact ⟨above.le, not_le.mp (mt large_iff.mpr small)⟩
  have bits : (mantissaBits : Int) = 53 := rfl
  rw [two_pow_mul_zpow, two_pow_mul_zpow]
  refine ⟨bounds.2.trans_le (zpow_le_zpow_right₀ one_le_two (by push_cast; omega)), ?_⟩
  obtain down | low : exponent = high - 53 ∨ exponent = minExponent := by omega
  · left
    rw [show ((52 : Nat) : Int) + exponent = high - 1 by push_cast; omega]
    exact bounds.1
  · exact .inr low

theorem canonical_zero : Canonical 0 minExponent :=
  ⟨by norm_num, le_rfl, .inr rfl⟩

theorem within_zero (nonneg : 0 ≤ x) (least : x ≤ 2 ^ (-1075 : Int)) : Within x 0 minExponent := by
  have gap : gap 0 minExponent = 1 := if_neg fun h => absurd h.1 (by norm_num)
  have unit : (0 : ℚ) < 2 ^ minExponent := by positivity
  have half : (2 : ℚ) ^ (-1075 : Int) = 2 ^ minExponent / 2 := zpow_pred minExponent
  rw [half] at least
  refine ⟨?_, ?_, fun _ => Even.zero⟩
  · rw [gap]
    push_cast
    linarith
  · push_cast
    linarith

theorem Within.le_greatest (h : Within x m e) (canonical : Canonical m e)
    (le : e ≤ maxExponent) : x ≤ 2 ^ (1024 : Int) := by
  have lt : (m : ℚ) + 1 ≤ 2 ^ 53 := by exact_mod_cast canonical.lt
  calc x ≤ (m + 1 / 2) * 2 ^ e := h.upper
    _ ≤ 2 ^ 53 * 2 ^ e := mul_le_mul_of_nonneg_right (by linarith) (by positivity)
    _ ≤ 2 ^ 53 * 2 ^ (971 : Int) :=
      mul_le_mul_of_nonneg_left (zpow_le_zpow_right₀ one_le_two le) (by positivity)
    _ = 2 ^ (1024 : Int) := by rw [two_pow_mul_zpow]; rfl

theorem exists_ofRatio_eq (negative : Bool) {r : Ratio} (pos : 0 < r.den) :
    ∃ m e, Canonical m e ∧ Within r.value m e ∧ ofRatio negative r =
      if maxExponent < e then .infinite negative else .finite negative m e := by
  by_cases zero : r.num = 0
  · have value : r.value = 0 := by simp [Ratio.value, zero]
    refine ⟨0, minExponent, canonical_zero, value ▸ within_zero le_rfl (by positivity), ?_⟩
    rw [ofRatio, if_pos zero, if_neg (by decide)]
  · rw [ofRatio, if_neg zero]
    extract_lets size exact high exponent mantissa
    obtain ⟨lt, full⟩ := exponent_spec pos zero rfl rfl
      (show exponent = max (high - mantissaBits) minExponent from rfl)
    have rounded : IsRounded (r.value / 2 ^ exponent) mantissa :=
      Ratio.value_shift r exponent ▸ Ratio.isRounded_round (Ratio.den_shift_pos pos exponent)
    have le : minExponent ≤ exponent := le_max_right _ _
    clear_value mantissa exponent
    obtain ⟨m, e, eq, canonical, within⟩ := within_of_isRounded rounded le lt full
    refine ⟨m, e, canonical, within, ?_⟩
    split
    next found =>
      obtain ⟨rfl, rfl⟩ := Prod.mk.inj (found.symm.trans eq)
      rfl

theorem tiny_lt_least : (10 : ℚ) ^ (-330 : Int) < 2 ^ (-1075 : Int) := by
  have lt : (2 : ℚ) ^ 1075 < 10 ^ 330 :=
    calc (2 : ℚ) ^ 1075 < 2 ^ (109 * 10) := pow_lt_pow_right₀ one_lt_two (by norm_num)
      _ = (2 ^ 109) ^ 10 := pow_mul ..
      _ ≤ (10 ^ 33) ^ 10 := pow_le_pow_left₀ (by positivity) (by norm_num) 10
      _ = 10 ^ 330 := (pow_mul ..).symm
  rw [show (-330 : Int) = -(330 : Nat) from rfl, show (-1075 : Int) = -(1075 : Nat) from rfl,
    zpow_neg, zpow_neg, zpow_natCast, zpow_natCast]
  exact inv_strictAnti₀ (by positivity) lt

theorem greatest_lt_huge : (2 : ℚ) ^ (1024 : Int) < 10 ^ (310 : Int) := by
  rw [show (1024 : Int) = (1024 : Nat) from rfl, show (310 : Int) = (310 : Nat) from rfl,
    zpow_natCast, zpow_natCast]
  calc (2 : ℚ) ^ 1024 < 2 ^ (205 * 5) := pow_lt_pow_right₀ one_lt_two (by norm_num)
    _ = (2 ^ 205) ^ 5 := pow_mul ..
    _ ≤ (10 ^ 62) ^ 5 := pow_le_pow_left₀ (by positivity) (by norm_num) 5
    _ = 10 ^ 310 := (pow_mul ..).symm

theorem lt_pow_length (digits : Nat) : digits < 10 ^ (Nat.toDigits 10 digits).length := by
  have length_pos := List.length_pos_iff.mpr (Nat.toDigits_ne_nil (b := 10) (n := digits))
  exact (Nat.length_toDigits_le_iff (by norm_num) length_pos).mp le_rfl

theorem pow_length_le (digits : Nat) (ne : digits ≠ 0) :
    10 ^ ((Nat.toDigits 10 digits).length - 1) ≤ digits := by
  obtain short | long := Nat.eq_zero_or_pos ((Nat.toDigits 10 digits).length - 1)
  · rw [short]
    exact Nat.one_le_iff_ne_zero.mpr ne
  · by_contra less
    have := (Nat.length_toDigits_le_iff (by norm_num) long).mpr (not_le.mp less)
    omega

theorem mul_zpow_lt {places : Nat} (less : digits < 10 ^ places) :
    (digits : ℚ) * 10 ^ place < 10 ^ ((places : Int) + place) := by
  rw [zpow_add₀ (by norm_num), zpow_natCast]
  exact mul_lt_mul_of_pos_right (by exact_mod_cast less) (by positivity)

theorem le_mul_zpow {places : Nat} (le : 10 ^ places ≤ digits) :
    (10 : ℚ) ^ ((places : Int) + place) ≤ digits * 10 ^ place := by
  rw [zpow_add₀ (by norm_num), zpow_natCast]
  exact mul_le_mul_of_nonneg_right (by exact_mod_cast le) (by positivity)

theorem exists_ofDecimal_eq (negative : Bool) (digits : Nat) (place : Int) :
    ∃ m e, Canonical m e ∧ Within (digits * 10 ^ place) m e ∧ ofDecimal negative digits place =
      if maxExponent < e then .infinite negative else .finite negative m e := by
  obtain ⟨m, e, canonical, within, eq⟩ := exists_ofRatio_eq negative
    (Ratio.den_scaled_pos digits (by norm_num : 0 < 10) place)
  rw [Ratio.value_scaled, Nat.cast_ofNat] at within
  have less := lt_pow_length digits
  have at_least := pow_length_le digits
  unfold ofDecimal
  generalize (Nat.toDigits 10 digits).length = places at less at_least ⊢
  dsimp only
  split
  · next tiny =>
    refine ⟨0, minExponent, canonical_zero, within_zero (by positivity) ?_, (if_neg (by decide)).symm⟩
    obtain rfl | tiny := tiny
    · rw [Nat.cast_zero, zero_mul]
      positivity
    · calc (digits : ℚ) * 10 ^ place ≤ 10 ^ ((places : Int) + place) := (mul_zpow_lt less).le
        _ ≤ 10 ^ (-330 : Int) := zpow_le_zpow_right₀ (by norm_num) tiny.le
        _ ≤ 2 ^ (-1075 : Int) := tiny_lt_least.le
  · next not_tiny =>
    obtain ⟨ne, -⟩ := not_or.mp not_tiny
    refine ⟨m, e, canonical, within, ?_⟩
    split
    · next huge =>
      have above : (10 : ℚ) ^ (310 : Int) ≤ digits * 10 ^ place :=
        calc (10 : ℚ) ^ (310 : Int) ≤ 10 ^ (((places - 1 : Nat) : Int) + place) :=
              zpow_le_zpow_right₀ (by norm_num) (by omega)
          _ ≤ digits * 10 ^ place := le_mul_zpow (at_least ne)
      rw [if_pos]
      by_contra le
      have := above.trans (within.le_greatest canonical (not_lt.mp le))
      exact absurd this (not_le.mpr greatest_lt_huge)
    · exact eq

/-- The number nearest to a decimal, or the infinite one if that number is too large. -/
theorem isNearest_ofDecimal (negative : Bool) (digits : Nat) (place : Int) :
    ∃ m e, Canonical m e ∧ IsNearest (digits * 10 ^ place) m e ∧
      ofDecimal negative digits place =
        if maxExponent < e then .infinite negative else .finite negative m e := by
  obtain ⟨m, e, canonical, within, eq⟩ := exists_ofDecimal_eq negative digits place
  exact ⟨m, e, canonical, within.isNearest canonical, eq⟩

theorem ofDecimal_eq_finite_iff {negative : Bool} : ofDecimal negative digits place =
    .finite negative m e ↔ Canonical m e ∧ e ≤ maxExponent ∧ Within (digits * 10 ^ place) m e := by
  obtain ⟨m', e', canonical', within', eq⟩ := exists_ofDecimal_eq negative digits place
  rw [eq]
  constructor
  · intro reads
    split at reads
    · cases reads
    · next le =>
      cases reads
      exact ⟨canonical', not_lt.mp le, within'⟩
  · rintro ⟨canonical, le, within⟩
    obtain ⟨rfl, rfl⟩ := within.unique canonical within' canonical'
    exact if_neg (not_lt.mpr le)

end SymbolDocs.Binary64
