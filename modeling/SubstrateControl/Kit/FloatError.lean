import SubstrateControl.Kit.Float

/-!
# Errors of binary floating-point arithmetic

* `nearest_mono`, `nearest_neg` — rounding keeps the order and the sign.
* `nearest_intCast` — small integers are kept.
* `Approx ε x y` — `x` is `y` up to the relative error `ε`.
* `nearest_approx` — what a number is rounded to, from the least normal number on.
* `Approx.of_rounded`, `Approx.div` — how errors add up.
* `roundAway` — the nearest integer, half-way the one away from zero.
-/

set_option autoImplicit false

namespace Kit.Float

/-! ## The nearest integer -/

theorem abs_roundEven_sub_le (x : ℚ) : |(roundEven x : ℚ) - x| ≤ 1 / 2 := by
  obtain ⟨hlo, hhi, -⟩ := roundEven_spec x
  rw [abs_le]
  constructor
  · linarith
  · linarith

theorem roundEven_mono {x y : ℚ} (h : x ≤ y) : roundEven x ≤ roundEven y := by
  have hself : roundEven x ≤ roundEven x := le_rfl
  rcases Int.emod_two_eq_zero_or_one (roundEven x) with hn | hn
  · rw [le_roundEven_of_even hn] at hself ⊢
    exact hself.trans h
  · rw [le_roundEven_of_odd hn] at hself ⊢
    exact hself.trans_le h

theorem roundEven_neg (x : ℚ) : roundEven (-x) = -roundEven x := by
  obtain ⟨hlo, hhi, htie⟩ := roundEven_spec x
  obtain ⟨hnlo, hnhi, hntie⟩ := roundEven_spec (-x)
  -- they differ by one at most, and by one only half-way, where both are even
  have hle : roundEven (-x) + roundEven x ≤ 1 := by
    have hcast : (roundEven (-x) : ℚ) + roundEven x ≤ 1 := by linarith
    exact_mod_cast hcast
  have hge : -1 ≤ roundEven (-x) + roundEven x := by
    have hcast : (-1 : ℚ) ≤ roundEven (-x) + roundEven x := by linarith
    exact_mod_cast hcast
  have hne : roundEven (-x) + roundEven x ≠ 1 := by
    intro h
    have hcast : (roundEven (-x) : ℚ) + roundEven x = 1 := by exact_mod_cast h
    have heven := htie (Or.inl (by linarith))
    have hneven := hntie (Or.inl (by linarith))
    omega
  have hne' : roundEven (-x) + roundEven x ≠ -1 := by
    intro h
    have hcast : (roundEven (-x) : ℚ) + roundEven x = -1 := by exact_mod_cast h
    have heven := htie (Or.inr (by linarith))
    have hneven := hntie (Or.inr (by linarith))
    omega
  omega

/-- `math.Round`: the nearest integer; half-way, the one away from zero. -/
def roundAway (x : ℚ) : ℤ := if x < 0 then -⌊1 / 2 - x⌋ else ⌊x + 1 / 2⌋

theorem roundAway_intCast (n : ℤ) : roundAway (n : ℚ) = n := by
  have hhalf : ∀ m : ℤ, ⌊(m : ℚ) + 1 / 2⌋ = m := by
    intro m
    rw [Int.floor_intCast_add]
    norm_num
  unfold roundAway
  split
  · have hneg : (1 / 2 - (n : ℚ)) = ((-n : ℤ) : ℚ) + 1 / 2 := by
      push_cast
      ring
    rw [hneg, hhalf, neg_neg]
  · exact hhalf n

theorem abs_roundAway_sub_le (x : ℚ) : |(roundAway x : ℚ) - x| ≤ 1 / 2 := by
  unfold roundAway
  rw [abs_le]
  split
  · have hlo := Int.floor_le (1 / 2 - x)
    have hhi := Int.lt_floor_add_one (1 / 2 - x)
    push_cast
    constructor
    · linarith
    · linarith
  · have hlo := Int.floor_le (x + 1 / 2)
    have hhi := Int.lt_floor_add_one (x + 1 / 2)
    constructor
    · linarith
    · linarith

theorem roundAway_mono {x y : ℚ} (h : x ≤ y) : roundAway x ≤ roundAway y := by
  unfold roundAway
  split
  · split
    · have hfloor : ⌊1 / 2 - y⌋ ≤ ⌊1 / 2 - x⌋ := Int.floor_mono (by linarith)
      omega
    · rename_i hx hy
      have hneg : 0 ≤ ⌊1 / 2 - x⌋ := Int.floor_nonneg.mpr (by linarith)
      have hpos : 0 ≤ ⌊y + 1 / 2⌋ := Int.floor_nonneg.mpr (by linarith)
      omega
  · rename_i hx
    rw [if_neg (by linarith)]
    exact Int.floor_mono (by linarith)

/-! ## The nearest value of a format -/

namespace Format

variable {f : Format} {x y : ℚ}

theorem nearest_zero : f.nearest 0 = 0 := by
  have hzero : roundEven 0 = 0 := roundEven_intCast 0
  unfold nearest
  rw [zero_div, hzero, Int.cast_zero, zero_mul]

theorem nearest_neg (q : ℚ) : f.nearest (-q) = -f.nearest q := by
  have hulp : f.ulpExp (-q) = f.ulpExp q := by
    unfold ulpExp
    rw [abs_neg]
  unfold nearest
  rw [hulp, neg_div, roundEven_neg]
  push_cast
  ring

/-- Positive numbers are rounded in order. -/
theorem nearest_mono_of_pos (hx : 0 < x) (h : x ≤ y) : f.nearest x ≤ f.nearest y := by
  have hy : 0 < y := hx.trans_le h
  have hlog : Int.log 2 x ≤ Int.log 2 y := Int.log_mono_right hx h
  have hp := f.precision_pos
  have hux : f.ulpExp x = max (Int.log 2 x - (f.precision - 1)) f.emin := by
    unfold ulpExp
    rw [abs_of_pos hx]
  have huy : f.ulpExp y = max (Int.log 2 y - (f.precision - 1)) f.emin := by
    unfold ulpExp
    rw [abs_of_pos hy]
  rcases eq_or_ne (f.ulpExp x) (f.ulpExp y) with hexp | hexp
  · have hpos := two_zpow_pos (f.ulpExp y)
    have hround : roundEven (x / 2 ^ f.ulpExp y) ≤ roundEven (y / 2 ^ f.ulpExp y) :=
      roundEven_mono (div_le_div_of_nonneg_right h hpos.le)
    unfold nearest
    rw [hexp]
    exact mul_le_mul_of_nonneg_right (by exact_mod_cast hround) hpos.le
  · -- the power of two at the larger number lies between
    have hxk : x ≤ 2 ^ Int.log 2 y := by
      have hlt : x < (2 : ℚ) ^ (Int.log 2 x + 1) := by
        exact_mod_cast Int.lt_zpow_succ_log_self (b := 2) (by norm_num) x
      exact hlt.le.trans (zpow_le_zpow_right₀ (by norm_num) (by omega))
    have hyk : (2 : ℚ) ^ Int.log 2 y ≤ y := by
      exact_mod_cast Int.zpow_log_le_self (b := 2) (by norm_num) hy
    calc f.nearest x ≤ 2 ^ Int.log 2 y := nearest_le_zpow (by omega) hxk
      _ ≤ f.nearest y := zpow_le_nearest (by omega) hyk

/-- **Rounding keeps the order.** -/
theorem nearest_mono (h : x ≤ y) : f.nearest x ≤ f.nearest y := by
  rcases lt_trichotomy x 0 with hx | hx | hx
  · rcases lt_or_ge y 0 with hy | hy
    · have hneg : f.nearest (-y) ≤ f.nearest (-x) :=
        nearest_mono_of_pos (neg_pos.mpr hy) (neg_le_neg h)
      rw [nearest_neg, nearest_neg] at hneg
      exact neg_le_neg_iff.mp hneg
    · have hlo := nearest_nonpos (f := f) hx.le
      rcases lt_or_eq_of_le hy with hy | hy
      · exact hlo.trans (nearest_nonneg hy)
      · rw [← hy, nearest_zero]
        exact hlo
  · rw [hx, nearest_zero]
    rw [hx] at h
    rcases lt_or_eq_of_le h with hy | hy
    · exact nearest_nonneg hy
    · rw [← hy, nearest_zero]
  · exact nearest_mono_of_pos hx h

/-- Integers of at most `precision` digits are kept. -/
theorem nearest_intCast {n : ℤ} (hn : |n| < 2 ^ f.precision) (hmin : f.emin ≤ 0) :
    f.nearest n = n := by
  by_cases hne : (n : ℚ) = 0
  · rw [hne, nearest_zero]
  · have hq : (n : ℚ) = n * (2 : ℚ) ^ (0 : ℤ) := by simp
    exact nearest_eq_self hq (ulpExp_le hq hne hn hmin)

/-- A number is rounded by half its last place at most. -/
theorem abs_nearest_sub_le (q : ℚ) : |f.nearest q - q| ≤ 2 ^ f.ulpExp q / 2 := by
  have hpos := two_zpow_pos (f.ulpExp q)
  have hscaled : f.nearest q - q =
      (roundEven (q / 2 ^ f.ulpExp q) - q / 2 ^ f.ulpExp q) * 2 ^ f.ulpExp q := by
    unfold nearest
    rw [sub_mul, div_mul_cancel₀ q hpos.ne']
  have hround := abs_roundEven_sub_le (q / 2 ^ f.ulpExp q)
  rw [hscaled, abs_mul, abs_of_pos hpos]
  calc |(roundEven (q / 2 ^ f.ulpExp q) : ℚ) - q / 2 ^ f.ulpExp q| * 2 ^ f.ulpExp q
      ≤ 1 / 2 * 2 ^ f.ulpExp q := mul_le_mul_of_nonneg_right hround hpos.le
    _ = 2 ^ f.ulpExp q / 2 := by ring

end Format

/-! ## Relative errors -/

/-- `x` is `y` up to a relative error of `ε`. -/
def Approx (ε x y : ℚ) : Prop := |x - y| ≤ ε * |y|

namespace Approx

variable {ε η x y z w : ℚ}

theorem mul_right (h : Approx ε x y) (c : ℚ) : Approx ε (x * c) (y * c) := by
  unfold Approx at h ⊢
  rw [← sub_mul, abs_mul, abs_mul, ← mul_assoc]
  exact mul_le_mul_of_nonneg_right h (abs_nonneg c)

theorem abs_le (h : Approx ε x y) : |x| ≤ (1 + ε) * |y| := by
  have htri := abs_add_le (x - y) y
  rw [sub_add_cancel] at htri
  unfold Approx at h
  linarith

theorem le_abs (h : Approx ε x y) : (1 - ε) * |y| ≤ |x| := by
  have htri := abs_add_le (y - x) x
  rw [sub_add_cancel, abs_sub_comm] at htri
  unfold Approx at h
  linarith

/-- One more rounding of an approximation. -/
theorem of_rounded (hε : 0 ≤ ε) (hη : η ≤ 1) (hxy : Approx ε x y) (hyz : Approx η y z) :
    Approx (2 * ε + η) x z := by
  have hy : |y| ≤ 2 * |z| := by
    have hle := hyz.abs_le
    have hmul : η * |z| ≤ 1 * |z| := mul_le_mul_of_nonneg_right hη (abs_nonneg z)
    linarith
  have hmul : ε * |y| ≤ ε * (2 * |z|) := mul_le_mul_of_nonneg_left hy hε
  have htri := abs_add_le (x - y) (y - z)
  rw [sub_add_sub_cancel] at htri
  unfold Approx at hxy hyz ⊢
  linarith

/-- The quotient of two approximations. -/
theorem div (hε : 0 ≤ ε) (hthird : ε ≤ 1 / 3) (hz : z ≠ 0) (hxy : Approx ε x y)
    (hwz : Approx ε w z) : Approx (3 * ε) (x / w) (y / z) := by
  have hzpos := abs_pos.mpr hz
  have hw : 2 / 3 * |z| ≤ |w| := by
    have hle := hwz.le_abs
    have hmul : ε * |z| ≤ 1 / 3 * |z| := mul_le_mul_of_nonneg_right hthird hzpos.le
    linarith
  have hwpos : 0 < |w| := by linarith
  have hdiff : x / w - y / z = ((x - y) * z - y * (w - z)) / (w * z) := by
    have hw : w ≠ 0 := abs_pos.mp hwpos
    field_simp
    ring
  have hnum : |(x - y) * z - y * (w - z)| ≤ 2 * ε * (|y| * |z|) := by
    have htri := abs_sub ((x - y) * z) (y * (w - z))
    rw [abs_mul, abs_mul] at htri
    have hleft : |x - y| * |z| ≤ ε * |y| * |z| := mul_le_mul_of_nonneg_right hxy hzpos.le
    have hright : |y| * |w - z| ≤ |y| * (ε * |z|) :=
      mul_le_mul_of_nonneg_left hwz (abs_nonneg y)
    linarith
  unfold Approx
  rw [hdiff, abs_div, abs_div, abs_mul, div_le_iff₀ (mul_pos hwpos hzpos)]
  have hscale : 3 * ε * (|y| / |z|) * (|w| * |z|) = 3 * ε * |y| * |w| := by
    field_simp
  have hmul : 3 * ε * |y| * (2 / 3 * |z|) ≤ 3 * ε * |y| * |w| :=
    mul_le_mul_of_nonneg_left hw (by positivity)
  rw [hscale]
  linarith

end Approx

/-- **Rounding errors are relative**: half a unit in the last digit, from the least normal number
on. -/
theorem Format.nearest_approx {f : Format} {q : ℚ}
    (hq : q = 0 ∨ (2 : ℚ) ^ (f.emin + f.precision - 1) ≤ |q|) :
    Approx (2 ^ (-f.precision : ℤ)) (f.nearest q) q := by
  unfold Approx
  rcases hq with rfl | hq
  · rw [nearest_zero]
    simp
  · have hpos : 0 < |q| := (two_zpow_pos _).trans_le hq
    have hexp : f.emin + f.precision - 1 ≤ Int.log 2 |q| :=
      (Int.zpow_le_iff_le_log (by norm_num) hpos).mp (by exact_mod_cast hq)
    have hulp : f.ulpExp q = Int.log 2 |q| - (f.precision - 1) := by
      unfold ulpExp
      omega
    have hlog : (2 : ℚ) ^ Int.log 2 |q| ≤ |q| := by
      exact_mod_cast Int.zpow_log_le_self (b := 2) (by norm_num) hpos
    calc |f.nearest q - q| ≤ 2 ^ f.ulpExp q / 2 := abs_nearest_sub_le q
      _ = 2 ^ (-f.precision : ℤ) * 2 ^ Int.log 2 |q| := by
        have hsum : Int.log 2 |q| - (f.precision - 1) = -f.precision + Int.log 2 |q| + 1 := by
          omega
        rw [hulp, hsum, zpow_add_one₀ (by norm_num), zpow_add₀ (by norm_num)]
        ring
      _ ≤ 2 ^ (-f.precision : ℤ) * |q| := mul_le_mul_of_nonneg_left hlog (two_zpow_pos _).le

end Kit.Float
