import SymbolDocs.Proofs.Number.Rounding

namespace SymbolDocs.Binary64

variable {m digits : Nat} {e place : Int}

namespace Ratio

theorem mul_le_iff {a b : Ratio} (ha : 0 < a.den) (hb : 0 < b.den) (n : Nat) :
    n * b.num * a.den ≤ a.num * b.den ↔ n * b.value ≤ a.value := by
  have ha' : (0 : ℚ) < a.den := by exact_mod_cast ha
  have hb' : (0 : ℚ) < b.den := by exact_mod_cast hb
  rw [value, value, mul_div_assoc', div_le_div_iff₀ hb' ha']
  exact_mod_cast Iff.rfl

theorem le_mul_iff {a b : Ratio} (ha : 0 < a.den) (hb : 0 < b.den) (n : Nat) :
    a.num * b.den ≤ n * b.num * a.den ↔ a.value ≤ n * b.value := by
  have ha' : (0 : ℚ) < a.den := by exact_mod_cast ha
  have hb' : (0 : ℚ) < b.den := by exact_mod_cast hb
  rw [value, value, mul_div_assoc', div_le_div_iff₀ ha' hb']
  exact_mod_cast Iff.rfl

end Ratio

theorem cast_lowerBound (pos : 0 < m) :
    (lowerBound m e : ℚ) * 2 ^ (e - 2) = (m - gap m e / 2) * 2 ^ e := by
  have quarter : (2 : ℚ) ^ (e - 2) = 2 ^ e / 4 := by
    rw [zpow_sub₀ two_ne_zero]
    norm_num
  have power : Nat.pow 2 (mantissaBits - 1) = 2 ^ 52 := rfl
  rw [quarter]
  unfold lowerBound gap
  rw [power]
  split
  · rw [Nat.cast_sub (by omega)]
    push_cast
    ring
  · rw [Nat.cast_sub (by omega)]
    push_cast
    ring

theorem cast_upperBound : (upperBound m : ℚ) * 2 ^ (e - 2) = (m + 1 / 2) * 2 ^ e := by
  have quarter : (2 : ℚ) ^ (e - 2) = 2 ^ e / 4 := by
    rw [zpow_sub₀ two_ne_zero]
    norm_num
  rw [quarter]
  unfold upperBound
  push_cast
  ring

theorem readsBack_iff (pos : 0 < m) :
    readsBack m e digits place = true ↔ Within (digits * 10 ^ place) m e := by
  have hd := Ratio.den_scaled_pos digits (by norm_num : 0 < 10) place
  have hu := Ratio.den_scaled_pos 1 two_pos (e - 2)
  have below := Ratio.mul_le_iff hd hu
  have above := Ratio.le_mul_iff hd hu
  simp only [Ratio.value_scaled, Nat.cast_one, one_mul, Nat.cast_ofNat] at below above
  have lower := cast_lowerBound (e := e) pos
  have upper := cast_upperBound (m := m) (e := e)
  unfold readsBack
  dsimp only
  split
  · next even =>
    rw [Bool.and_eq_true, decide_eq_true_iff, decide_eq_true_iff, below, above, lower, upper]
    exact ⟨fun h => ⟨h.1, h.2, fun _ => Nat.even_iff.mpr even⟩, fun h => ⟨h.lower, h.upper⟩⟩
  · next odd =>
    rw [Bool.and_eq_true, decide_eq_true_iff, decide_eq_true_iff, ← not_le, ← not_le, above, below,
      lower, upper, not_le, not_le]
    have not_even : ¬ Even m := fun h => odd (Nat.even_iff.mp h)
    constructor
    · rintro ⟨h, h'⟩
      exact ⟨h.le, h'.le, fun tie => (tie.elim h.ne h'.ne).elim⟩
    · intro h
      exact ⟨h.lower.lt_of_ne fun tie => not_even (h.even (.inl tie)),
        h.upper.lt_of_ne fun tie => not_even (h.even (.inr tie))⟩

theorem zpow_leadingPlace_le {r : Ratio} (pos : 0 < r.den) {steps : Nat} {start : Int}
    (low : (10 : ℚ) ^ (start - steps) ≤ r.value) :
    (10 : ℚ) ^ leadingPlace r steps start ≤ r.value := by
  induction steps generalizing start with
  | zero => simpa [leadingPlace] using low
  | succ steps ih =>
    unfold leadingPlace
    dsimp only
    split
    · next found =>
      have := (Ratio.mul_le_iff pos (Ratio.den_scaled_pos 1 (by norm_num : 0 < 10) start) 1).mp
        (by rwa [one_mul])
      rwa [Ratio.value_scaled, Nat.cast_one, one_mul, one_mul] at this
    · refine ih ?_
      rwa [show start - 1 - (steps : Int) = start - (steps + 1 : Nat) by push_cast; ring]

theorem lt_zpow_leadingPlace {r : Ratio} (pos : 0 < r.den) {steps : Nat} {start : Int}
    (high : r.value < (10 : ℚ) ^ (start + 1)) :
    r.value < (10 : ℚ) ^ (leadingPlace r steps start + 1) := by
  induction steps generalizing start with
  | zero => simpa [leadingPlace] using high
  | succ steps ih =>
    unfold leadingPlace
    dsimp only
    split
    · exact high
    · next less =>
      refine ih ?_
      have := mt (Ratio.mul_le_iff pos (Ratio.den_scaled_pos 1 (by norm_num : 0 < 10) start) 1).mpr
        (by rwa [one_mul])
      rwa [Ratio.value_scaled, Nat.cast_one, one_mul, one_mul, not_le, Nat.cast_ofNat,
        show start = start - 1 + 1 by ring] at this

theorem Within.of_close (fine : (10 : ℚ) ^ place < gap m e * 2 ^ e)
    (close : |m * 2 ^ e / 10 ^ place - (digits : ℚ)| ≤ 1 / 2) : Within (digits * 10 ^ place) m e := by
  have unit : (0 : ℚ) < 10 ^ place := by positivity
  have pos : (0 : ℚ) < 2 ^ e := by positivity
  have gap_le := gap_le_one (m := m) (e := e)
  obtain ⟨y, eq⟩ : ∃ y : ℚ, m * 2 ^ e / 10 ^ place = y := ⟨_, rfl⟩
  have value : (m : ℚ) * 2 ^ e = y * 10 ^ place := by rw [← eq, div_mul_cancel₀ _ unit.ne']
  rw [eq, abs_le] at close
  have above : (m - gap m e / 2) * 2 ^ e < digits * 10 ^ place := by nlinarith
  have below : digits * 10 ^ place < ((m : ℚ) + 1 / 2) * 2 ^ e := by nlinarith
  exact ⟨above.le, below.le, fun tie => (tie.elim above.ne below.ne).elim⟩

/-- The two multiples of `10 ^ place` next to a number, the nearer one first. -/
structure Neighbours (m : Nat) (e place : Int) (near far : Nat) : Prop where
  close : |m * 2 ^ e / 10 ^ place - (near : ℚ)| ≤ 1 / 2
  around : ∃ low : Nat, (near = low ∧ far = low + 1 ∨ near = low + 1 ∧ far = low) ∧
    (low : ℚ) ≤ m * 2 ^ e / 10 ^ place ∧ m * 2 ^ e / 10 ^ place < (low + 1 : ℚ)

theorem exists_nearestOn_eq (m : Nat) (e place : Int) : ∃ near far, Neighbours m e place near far ∧
    nearestOn m e place =
      if readsBack m e near place then some near
      else if readsBack m e far place then some far
      else none := by
  unfold nearestOn
  extract_lets v t scaled low
  have v_den := Ratio.den_scaled_pos m two_pos e
  have t_den := Ratio.den_scaled_pos 1 (by norm_num : 0 < 10) place
  have v_value : v.value = m * 2 ^ e := Ratio.value_scaled m 2 e
  have t_value : t.value = 10 ^ place := by simpa using Ratio.value_scaled 1 10 place
  have t_num : 0 < t.num := by
    by_contra zero
    have : t.value = 0 := by simp [Ratio.value, Nat.eq_zero_of_not_pos zero]
    exact absurd (t_value.symm.trans this) (by positivity)
  have scaled_value : scaled.value = m * 2 ^ e / 10 ^ place := by
    rw [← v_value, ← t_value]
    simp only [scaled, Ratio.value]
    push_cast
    rw [div_div_div_eq]
  obtain ⟨f, value, f_nonneg, f_lt, less_iff, -⟩ :=
    Ratio.exists_fraction (r := scaled) (Nat.mul_pos v_den t_num)
  have low_value : m * 2 ^ e / 10 ^ place = (low : ℚ) + f := scaled_value.symm.trans value
  have around : (low : ℚ) ≤ m * 2 ^ e / 10 ^ place ∧ m * 2 ^ e / 10 ^ place < (low + 1 : ℚ) := by
    rw [low_value]
    constructor <;> linarith
  split
  next near far eq =>
    refine ⟨near, far, ?_, rfl⟩
    split at eq
    · next less =>
      obtain ⟨rfl, rfl⟩ := Prod.mk.inj eq
      have := less_iff.mpr less
      refine ⟨?_, low, .inl ⟨rfl, rfl⟩, around⟩
      rw [low_value, abs_le]
      constructor <;> linarith
    · next not_less =>
      obtain ⟨rfl, rfl⟩ := Prod.mk.inj eq
      have := not_lt.mp (mt less_iff.mp not_less)
      refine ⟨?_, low, .inr ⟨rfl, rfl⟩, around⟩
      rw [low_value, abs_le]
      push_cast
      constructor <;> linarith

theorem readsBack_of_nearestOn (h : nearestOn m e place = some digits) :
    readsBack m e digits place = true := by
  obtain ⟨near, far, -, eq⟩ := exists_nearestOn_eq m e place
  rw [eq] at h
  split at h
  · next reads => exact Option.some.inj h ▸ reads
  · split at h
    · next reads => exact Option.some.inj h ▸ reads
    · cases h

theorem le_of_nearestOn (h : nearestOn m e place = some digits) :
    (digits : ℚ) ≤ m * 2 ^ e / 10 ^ place + 1 := by
  obtain ⟨near, far, ⟨-, low, around, low_le, -⟩, eq⟩ := exists_nearestOn_eq m e place
  have one_of : digits = low ∨ digits = low + 1 := by
    rw [eq] at h
    split at h
    · obtain rfl := Option.some.inj h
      exact around.imp And.left And.left
    · split at h
      · obtain rfl := Option.some.inj h
        exact (around.imp And.right And.right).symm
      · cases h
  obtain rfl | rfl := one_of
  · linarith
  · push_cast
    linarith

theorem exists_nearestOn (pos : 0 < m) (fine : (10 : ℚ) ^ place < gap m e * 2 ^ e) :
    ∃ digits, nearestOn m e place = some digits := by
  obtain ⟨near, far, neighbours, eq⟩ := exists_nearestOn_eq m e place
  exact ⟨near, eq.trans (if_pos ((readsBack_iff pos).mpr (.of_close fine neighbours.close)))⟩

theorem Within.convex {x y z : ℚ} (hx : Within x m e) (hz : Within z m e) (le : x ≤ y)
    (le' : y ≤ z) : Within y m e where
  lower := hx.lower.trans le
  upper := le'.trans hz.upper
  even
    | .inl tie => hx.even (.inl (le_antisymm hx.lower (tie ▸ le)))
    | .inr tie => hz.even (.inr (le_antisymm hz.upper (tie ▸ le')))

theorem within_self (m : Nat) (e : Int) : Within (m * 2 ^ e) m e := by
  have unit : (0 : ℚ) < 2 ^ e := by positivity
  have gap_ge := half_le_gap (m := m) (e := e)
  have above : ((m : ℚ) - gap m e / 2) * 2 ^ e < m * 2 ^ e :=
    mul_lt_mul_of_pos_right (by linarith) unit
  have below : (m : ℚ) * 2 ^ e < (m + 1 / 2) * 2 ^ e := mul_lt_mul_of_pos_right (by linarith) unit
  exact ⟨above.le, below.le, fun tie => (tie.elim above.ne below.ne).elim⟩

/-- Where a multiple reads back, one of the two next to the number does. -/
theorem exists_nearestOn_of_within (pos : 0 < m) (h : Within (digits * 10 ^ place) m e) :
    ∃ d, nearestOn m e place = some d := by
  have unit : (0 : ℚ) < 10 ^ place := by positivity
  obtain ⟨near, far, ⟨-, low, around, low_le, lt⟩, eq⟩ := exists_nearestOn_eq m e place
  rw [le_div_iff₀ unit] at low_le
  rw [div_lt_iff₀ unit] at lt
  have one_of : Within (low * 10 ^ place) m e ∨ Within ((low + 1 : Nat) * 10 ^ place) m e := by
    obtain below | above := Nat.lt_or_ge low digits
    · right
      have : ((low + 1 : Nat) : ℚ) ≤ digits := by exact_mod_cast below
      refine (within_self m e).convex h ?_ (mul_le_mul_of_nonneg_right this unit.le)
      push_cast
      exact lt.le
    · left
      have : (digits : ℚ) ≤ low := by exact_mod_cast above
      exact h.convex (within_self m e) (mul_le_mul_of_nonneg_right this unit.le) low_le
  rw [← readsBack_iff pos, ← readsBack_iff pos] at one_of
  have either : readsBack m e near place = true ∨ readsBack m e far place = true := by
    obtain ⟨rfl, rfl⟩ | ⟨rfl, rfl⟩ := around
    · exact one_of
    · exact one_of.symm
  rw [eq]
  split
  · exact ⟨_, rfl⟩
  · next not_near => exact ⟨far, if_pos (either.resolve_left not_near)⟩

/-- The first place that has a multiple to read back is taken, from the leading one down. -/
theorem exists_shortestFrom {top : Int} {tries k : Nat} (lt : k < tries)
    (found : nearestOn m e (top - (17 - k)) = some digits) :
    ∃ (j : Nat) (d : Nat), j < tries ∧ nearestOn m e (top - (17 - j)) = some d ∧
      shortestFrom m e top tries = (d, top - (17 - j)) ∧
      ∀ i : Nat, j < i → i < tries → nearestOn m e (top - (17 - i)) = none := by
  induction tries with
  | zero => exact absurd lt (Nat.not_lt_zero k)
  | succ tries ih =>
    unfold shortestFrom
    dsimp only
    split
    · next d some =>
      exact ⟨tries, d, Nat.lt_succ_self _, some, rfl, fun i above below => by omega⟩
    · next none =>
      have ne : k ≠ tries := by
        rintro rfl
        rw [found] at none
        cases none
      obtain ⟨j, d, below, some, eq, skipped⟩ := ih (by omega)
      refine ⟨j, d, Nat.lt_succ_of_lt below, some, eq, fun i above lt => ?_⟩
      obtain rfl | lt := Nat.lt_succ_iff_lt_or_eq.mp lt |>.symm
      · exact none
      · exact skipped i above lt

theorem zpow_top_le (canonical : Canonical m e) (pos : 0 < m) :
    (10 : ℚ) ^ leadingPlace (.scaled m 2 e) 700 310 ≤ m * 2 ^ e := by
  have value : (Ratio.scaled m 2 e).value = m * 2 ^ e := Ratio.value_scaled m 2 e
  rw [← value]
  refine zpow_leadingPlace_le (Ratio.den_scaled_pos m two_pos e) ?_
  rw [value]
  have one_le : (1 : ℚ) ≤ m := by exact_mod_cast pos
  calc (10 : ℚ) ^ (310 - (700 : Nat) : Int) ≤ 10 ^ (-330 : Int) :=
        zpow_le_zpow_right₀ (by norm_num) (by norm_num)
    _ ≤ 2 ^ (-1075 : Int) := tiny_lt_least.le
    _ ≤ 2 ^ e := zpow_le_zpow_right₀ one_le_two (le_trans (by decide) canonical.le)
    _ ≤ m * 2 ^ e := le_mul_of_one_le_left (by positivity) one_le

theorem lt_zpow_top (canonical : Canonical m e) (le : e ≤ maxExponent) :
    m * 2 ^ e < (10 : ℚ) ^ (leadingPlace (.scaled m 2 e) 700 310 + 1) := by
  have value : (Ratio.scaled m 2 e).value = m * 2 ^ e := Ratio.value_scaled m 2 e
  rw [← value]
  refine lt_zpow_leadingPlace (Ratio.den_scaled_pos m two_pos e) ?_
  rw [value]
  calc m * 2 ^ e ≤ (2 : ℚ) ^ (1024 : Int) := (within_self m e).le_greatest canonical le
    _ < 10 ^ (310 : Int) := greatest_lt_huge
    _ ≤ 10 ^ (310 + 1 : Int) := zpow_le_zpow_right₀ (by norm_num) (by norm_num)

/-- The digits of `shortest` before a last zero is dropped, and `j` places after the leading one. -/
theorem exists_shortest (canonical : Canonical m e) (pos : 0 < m) {top : Int}
    (htop : top = leadingPlace (.scaled m 2 e) 700 310) :
    ∃ (j : Nat) (d : Nat), nearestOn m e (top - j) = some d ∧
      (∀ i < j, nearestOn m e (top - i) = none) ∧
      shortest m e = if d = 10 then (1, top - j + 1) else (d, top - j) := by
  have top_le := htop ▸ zpow_top_le canonical pos
  have fine : (10 : ℚ) ^ (top - (17 - (0 : Nat))) < gap m e * 2 ^ e := by
    have unit : (0 : ℚ) < 2 ^ e := by positivity
    have lt : (m : ℚ) < 2 ^ 53 := by exact_mod_cast canonical.lt
    have gap_ge := half_le_gap (m := m) (e := e)
    calc (10 : ℚ) ^ (top - (17 - (0 : Nat)) : Int) = 10 ^ top / 10 ^ 17 := by
          rw [zpow_sub₀ (by norm_num)]
          norm_num
      _ ≤ m * 2 ^ e / 10 ^ 17 := div_le_div_of_nonneg_right top_le (by positivity)
      _ = m / 10 ^ 17 * 2 ^ e := by ring
      _ < gap m e * 2 ^ e := mul_lt_mul_of_pos_right (by linarith) unit
  obtain ⟨_, found⟩ := exists_nearestOn pos fine
  obtain ⟨j, d, lt, some, eq, skipped⟩ := exists_shortestFrom (by norm_num : 0 < 18) found
  have place : top - ((17 - j : Nat) : Int) = top - (17 - j) := by omega
  refine ⟨17 - j, d, place ▸ some, fun i less => ?_, ?_⟩
  · have := skipped (17 - i) (by omega) (by omega)
    rwa [show top - (17 - ((17 - i : Nat) : Int)) = top - i by omega] at this
  · rw [place, shortest, ← htop, eq]

theorem within_shortest (canonical : Canonical m e) (pos : 0 < m) :
    Within ((shortest m e).1 * 10 ^ (shortest m e).2) m e := by
  obtain ⟨j, d, some, -, eq⟩ := exists_shortest canonical pos rfl
  have reads := (readsBack_iff pos).mp (readsBack_of_nearestOn some)
  rw [eq]
  split
  · next ten =>
    rw [ten] at reads
    rw [zpow_add_one₀ (by norm_num), Nat.cast_one, one_mul, mul_comm]
    exact_mod_cast reads
  · exact reads

/-- What a number is written as is read as that number. -/
theorem ofDecimal_shortest (negative : Bool) (canonical : Canonical m e) (pos : 0 < m)
    (le : e ≤ maxExponent) :
    ofDecimal negative (shortest m e).1 (shortest m e).2 = .finite negative m e :=
  ofDecimal_eq_finite_iff.mpr ⟨canonical, le, within_shortest canonical pos⟩

theorem not_within_of_nearestOn (pos : 0 < m) (none : nearestOn m e place = none) (n : Nat) :
    ¬ Within (n * 10 ^ place) m e := by
  intro h
  obtain ⟨d, some⟩ := exists_nearestOn_of_within pos h
  rw [none] at some
  cases some

theorem length_shortest_le {top : Int} {j d : Nat} (pos : 0 < m)
    (high : m * 2 ^ e < (10 : ℚ) ^ (top + 1)) (some : nearestOn m e (top - j) = some d)
    (skipped : ∀ i < j, nearestOn m e (top - i) = none) (ne : d ≠ 10) :
    (Nat.toDigits 10 d).length ≤ j + 1 := by
  have unit : (0 : ℚ) < 10 ^ (top - j) := by positivity
  have d_lt : (d : ℚ) < 10 ^ (j + 1) + 1 := by
    refine (le_of_nearestOn some).trans_lt (add_lt_add_left ?_ 1)
    rw [div_lt_iff₀ unit, ← zpow_natCast, ← zpow_add₀ (by norm_num)]
    rwa [show ((j + 1 : Nat) : Int) + (top - j) = top + 1 by push_cast; ring]
  have d_le : d ≤ 10 ^ (j + 1) := Nat.lt_succ_iff.mp (by exact_mod_cast d_lt)
  rw [Nat.length_toDigits_le_iff (by norm_num) (Nat.succ_pos j)]
  refine lt_of_le_of_ne d_le ?_
  rintro rfl
  -- a power of ten would have been found one place earlier
  cases j with
  | zero => exact ne rfl
  | succ j =>
    have reads := (readsBack_iff pos).mp (readsBack_of_nearestOn some)
    refine not_within_of_nearestOn pos (skipped j (Nat.lt_succ_self j)) (10 ^ (j + 1)) ?_
    have split : ((10 ^ (j + 1 + 1) : Nat) : ℚ) * 10 ^ (top - (j + 1 : Nat)) =
        (10 ^ (j + 1) : Nat) * 10 ^ (top - j) := by
      rw [show top - (j : Int) = top - (j + 1 : Nat) + 1 by push_cast; ring,
        zpow_add_one₀ (by norm_num)]
      push_cast
      ring
    rwa [split] at reads

theorem not_within_of_length_le {top : Int} {j : Nat} (pos : 0 < m)
    (low : (10 : ℚ) ^ top ≤ m * 2 ^ e) (skipped : ∀ i < j, nearestOn m e (top - i) = none)
    (short : (Nat.toDigits 10 digits).length ≤ j) : ¬ Within (digits * 10 ^ place) m e := by
  intro h
  have less := lt_pow_length digits
  have length_pos := List.length_pos_iff.mpr (Nat.toDigits_ne_nil (b := 10) (n := digits))
  obtain ⟨i, length⟩ := Nat.exists_eq_add_of_lt length_pos
  rw [length, zero_add] at less short
  have none := not_within_of_nearestOn pos (skipped i short)
  have unit : (0 : ℚ) < 10 ^ place := by positivity
  obtain below | above := lt_or_ge place (top - i)
  · -- the number itself starts higher up, so the power of ten it starts with lies between
    have less_top : (digits : ℚ) * 10 ^ place ≤ 10 ^ top :=
      calc (digits : ℚ) * 10 ^ place ≤ 10 ^ ((i + 1 : Nat) + place : Int) := (mul_zpow_lt less).le
        _ ≤ 10 ^ top := zpow_le_zpow_right₀ (by norm_num) (by push_cast; omega)
    refine none (10 ^ i) ?_
    have power : ((10 ^ i : Nat) : ℚ) * 10 ^ (top - i) = 10 ^ top := by
      rw [zpow_sub₀ (by norm_num), zpow_natCast]
      push_cast
      field_simp
    rw [power]
    exact h.convex (within_self m e) less_top low
  · obtain ⟨n, rfl⟩ := Int.le.dest above
    refine none (digits * 10 ^ n) ?_
    have multiple : (digits : ℚ) * 10 ^ (top - i + n) =
        (digits * 10 ^ n : Nat) * 10 ^ (top - i) := by
      rw [zpow_add₀ (by norm_num), zpow_natCast]
      push_cast
      ring
    rwa [multiple] at h

/-- No decimal with fewer digits is read as the number. -/
theorem length_shortest_le_of_ofDecimal {negative : Bool} (pos : 0 < m)
    (reads : ofDecimal negative digits place = .finite negative m e) :
    (Nat.toDigits 10 (shortest m e).1).length ≤ (Nat.toDigits 10 digits).length := by
  obtain ⟨canonical, le, h⟩ := ofDecimal_eq_finite_iff.mp reads
  obtain ⟨j, d, some, skipped, eq⟩ := exists_shortest canonical pos rfl
  have longer : j + 1 ≤ (Nat.toDigits 10 digits).length := not_lt.mp fun short =>
    not_within_of_length_le pos (zpow_top_le canonical pos) skipped (Nat.lt_succ_iff.mp short) h
  refine le_trans ?_ longer
  rw [eq]
  split
  · have one : (Nat.toDigits 10 1).length = 1 := rfl
    rw [one]
    exact Nat.le_add_left 1 j
  · next ne => exact length_shortest_le pos (lt_zpow_top canonical le) some skipped ne

end SymbolDocs.Binary64
