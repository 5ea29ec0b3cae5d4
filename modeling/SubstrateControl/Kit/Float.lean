import Mathlib.Algebra.Order.Floor.Ring
import Mathlib.Algebra.Order.Round
import Mathlib.Data.Int.Log
import Mathlib.Data.Rat.Floor
import Mathlib.Tactic.Linarith
import Mathlib.Tactic.Positivity
import Mathlib.Tactic.FieldSimp

/-!
# Binary floating-point formats

* `roundEven` — the nearest integer, the even one of two.
* `Format`, `Format.round` — a binary format with its precision and exponents, and the nearest value
  of the format, none on overflow.
* `Format.Representable`, `round_eq_self_iff` — the values of a format are what rounding keeps.
* `round_eq_none_iff`, `round_pos_iff` — which numbers overflow, and which are rounded to positive
  ones.
-/

set_option autoImplicit false

namespace Kit.Float

/-- The nearest integer; half-way, the even one. -/
def roundEven (x : ℚ) : ℤ :=
  let n := ⌊x⌋
  if x - n < 1 / 2 then n
  else if 1 / 2 < x - n then n + 1
  else if n % 2 = 0 then n
  else n + 1

theorem roundEven_intCast (n : ℤ) : roundEven (n : ℚ) = n := by
  unfold roundEven
  simp

/-- The nearest integer is at most a half away, and even where it is a half away. -/
theorem roundEven_spec (x : ℚ) : (roundEven x : ℚ) - 1 / 2 ≤ x ∧ x ≤ roundEven x + 1 / 2 ∧
    (x = roundEven x - 1 / 2 ∨ x = roundEven x + 1 / 2 → roundEven x % 2 = 0) := by
  have hle : (⌊x⌋ : ℚ) ≤ x := Int.floor_le x
  have hlt : x < ⌊x⌋ + 1 := Int.lt_floor_add_one x
  unfold roundEven
  dsimp only
  split
  · refine ⟨by linarith, by linarith, ?_⟩
    rintro (h | h)
    · linarith
    · linarith
  · split
    · push_cast
      refine ⟨by linarith, by linarith, ?_⟩
      rintro (h | h)
      · linarith
      · linarith
    · have hhalf : x = ⌊x⌋ + 1 / 2 := by linarith
      split
      · rename_i heven
        exact ⟨by linarith, by linarith, fun _ => heven⟩
      · push_cast
        exact ⟨by linarith, by linarith, fun _ => by omega⟩

/-- An odd integer is reached from above the half before it. -/
theorem le_roundEven_of_odd {n : ℤ} (hn : n % 2 = 1) (x : ℚ) :
    n ≤ roundEven x ↔ (n : ℚ) - 1 / 2 < x := by
  obtain ⟨hlo, hhi, htie⟩ := roundEven_spec x
  constructor
  · intro h
    have hcast : (n : ℚ) ≤ roundEven x := by exact_mod_cast h
    rcases lt_or_eq_of_le hlo with hlt | heq
    · linarith
    · have heven := htie (Or.inl heq.symm)
      have hlt : n + 1 ≤ roundEven x := by omega
      have hcast : (n : ℚ) + 1 ≤ roundEven x := by exact_mod_cast hlt
      linarith
  · intro h
    have hcast : (n : ℚ) < roundEven x + 1 := by linarith
    have hlt : n < roundEven x + 1 := by exact_mod_cast hcast
    omega

/-- An even integer is reached from the half before it on. -/
theorem le_roundEven_of_even {n : ℤ} (hn : n % 2 = 0) (x : ℚ) :
    n ≤ roundEven x ↔ (n : ℚ) - 1 / 2 ≤ x := by
  obtain ⟨hlo, hhi, htie⟩ := roundEven_spec x
  constructor
  · intro h
    have hcast : (n : ℚ) ≤ roundEven x := by exact_mod_cast h
    linarith
  · intro h
    by_contra hlt
    have hnext : roundEven x + 1 ≤ n := by omega
    have hcast : (roundEven x : ℚ) + 1 ≤ n := by exact_mod_cast hnext
    have heven := htie (Or.inr (by linarith))
    have htwo : roundEven x + 2 ≤ n := by omega
    have hcast : (roundEven x : ℚ) + 2 ≤ n := by exact_mod_cast htwo
    linarith

theorem le_roundEven {n : ℤ} {x : ℚ} (h : (n : ℚ) ≤ x) : n ≤ roundEven x := by
  rcases Int.emod_two_eq_zero_or_one n with hn | hn
  · rw [le_roundEven_of_even hn]
    linarith
  · rw [le_roundEven_of_odd hn]
    linarith

theorem roundEven_le {n : ℤ} {x : ℚ} (h : x ≤ n) : roundEven x ≤ n := by
  obtain ⟨hlo, -, htie⟩ := roundEven_spec x
  have hcast : (roundEven x : ℚ) < n + 1 := by linarith
  have hlt : roundEven x < n + 1 := by exact_mod_cast hcast
  omega

/-! ## Formats -/

/-- A binary format: its precision, the exponent of its smallest value and the exponent from which
on values overflow. -/
structure Format where
  precision : ℕ
  emin : ℤ
  emax : ℤ
  precision_pos : 0 < precision
  exponents : emin ≤ emax - precision

/-- The 64-bit format. -/
def binary64 : Format := ⟨53, -1074, 1024, by decide, by decide⟩

namespace Format

variable (f : Format)

/-- The exponent of the last place of numbers like `q`. -/
def ulpExp (q : ℚ) : ℤ := max (Int.log 2 |q| - (f.precision - 1)) f.emin

/-- The nearest value of the format, before overflow is looked at. -/
def nearest (q : ℚ) : ℚ := roundEven (q / 2 ^ f.ulpExp q) * (2 : ℚ) ^ f.ulpExp q

/-- The nearest value of the format, none on overflow. -/
def round (q : ℚ) : Option ℚ := if |f.nearest q| < 2 ^ f.emax then some (f.nearest q) else none

/-- A value of the format: an integer of at most `precision` digits at some exponent. -/
def Representable (q : ℚ) : Prop :=
  |q| < 2 ^ f.emax ∧ ∃ m e : ℤ, |m| < 2 ^ f.precision ∧ f.emin ≤ e ∧ q = m * (2 : ℚ) ^ e

variable {f}

theorem two_zpow_pos (e : ℤ) : (0 : ℚ) < 2 ^ e := zpow_pos (by norm_num) e

/-- A power of two as a multiple of a smaller one. -/
theorem zpow_eq_mul {e k : ℤ} (h : e ≤ k) :
    (2 : ℚ) ^ k = ((2 ^ (k - e).toNat : ℤ) : ℚ) * 2 ^ e := by
  have hsub : ((k - e).toNat : ℤ) = k - e := by omega
  push_cast
  rw [← zpow_natCast, hsub, ← zpow_add₀ (by norm_num)]
  congr 1
  omega

/-- A number scaled to its last place has at most `precision` digits. -/
theorem abs_scaled_lt (q : ℚ) : |q / 2 ^ f.ulpExp q| < 2 ^ f.precision := by
  have hpos := two_zpow_pos (f.ulpExp q)
  rw [abs_div, abs_of_pos hpos, div_lt_iff₀ hpos, ← zpow_natCast, ← zpow_add₀ (by norm_num)]
  have hlog : |q| < (2 : ℚ) ^ (Int.log 2 |q| + 1) := Int.lt_zpow_succ_log_self (by norm_num) |q|
  have hexp : Int.log 2 |q| + 1 ≤ (f.precision : ℤ) + f.ulpExp q := by
    unfold ulpExp
    omega
  exact lt_of_lt_of_le hlog (zpow_le_zpow_right₀ (by norm_num) hexp)

/-- An integer at an exponent not below that of the last place is kept. -/
theorem nearest_eq_self {q : ℚ} {m e : ℤ} (hq : q = m * (2 : ℚ) ^ e) (he : f.ulpExp q ≤ e) :
    f.nearest q = q := by
  have hpos := two_zpow_pos (f.ulpExp q)
  have hscaled : q / 2 ^ f.ulpExp q = ((m * 2 ^ (e - f.ulpExp q).toNat : ℤ) : ℚ) := by
    rw [div_eq_iff hpos.ne', Int.cast_mul, mul_assoc, ← zpow_eq_mul he]
    exact hq
  unfold nearest
  rw [hscaled, roundEven_intCast, ← hscaled, div_mul_cancel₀ q hpos.ne']

/-- The last place of a value of the format is not above its exponent. -/
theorem ulpExp_le {q : ℚ} {m e : ℤ} (hq : q = m * (2 : ℚ) ^ e) (hne : q ≠ 0)
    (hm : |m| < 2 ^ f.precision) (he : f.emin ≤ e) : f.ulpExp q ≤ e := by
  have hm : (|m| : ℚ) < 2 ^ f.precision := by exact_mod_cast hm
  have habs : |q| < (2 : ℚ) ^ ((f.precision : ℤ) + e) := by
    rw [hq, abs_mul, abs_of_pos (two_zpow_pos e), zpow_add₀ (by norm_num), zpow_natCast]
    exact mul_lt_mul_of_pos_right hm (two_zpow_pos e)
  have hlog : Int.log 2 |q| < (f.precision : ℤ) + e :=
    (Int.lt_zpow_iff_log_lt (by norm_num) (abs_pos.mpr hne)).mp habs
  unfold ulpExp
  omega

/-- **What rounding keeps are the values of the format.** -/
theorem round_eq_self_iff (q : ℚ) : f.round q = some q ↔ f.Representable q := by
  have hpos := two_zpow_pos (f.ulpExp q)
  constructor
  · intro h
    unfold round at h
    split at h
    · rename_i hlt
      have hself : f.nearest q = q := Option.some.inj h
      rw [hself] at hlt
      refine ⟨hlt, roundEven (q / 2 ^ f.ulpExp q), f.ulpExp q, ?_, ?_, hself.symm⟩
      · have hscaled : q / 2 ^ f.ulpExp q = roundEven (q / 2 ^ f.ulpExp q) := by
          rw [div_eq_iff hpos.ne']
          exact hself.symm
        have hlt := abs_scaled_lt (f := f) q
        rw [hscaled] at hlt
        exact_mod_cast hlt
      · unfold ulpExp
        omega
    · cases h
  · rintro ⟨hlt, m, e, hm, he, hq⟩
    have hself : f.nearest q = q := by
      by_cases hne : q = 0
      · unfold nearest
        have hzero : roundEven 0 = 0 := roundEven_intCast 0
        rw [hne, zero_div, hzero, Int.cast_zero, zero_mul]
      · exact nearest_eq_self hq (ulpExp_le hq hne hm he)
    unfold round
    rw [hself, if_pos hlt]

/-- What a number is rounded to is a value of the format. -/
theorem representable_of_round {q x : ℚ} (h : f.round q = some x) : f.Representable x := by
  unfold round at h
  split at h
  · rename_i hlt
    have hx : f.nearest q = x := Option.some.inj h
    rw [hx] at hlt
    have hmin : f.emin ≤ f.ulpExp q := by
      unfold ulpExp
      omega
    -- rounding may carry into one digit more than the format has
    have hscaled := abs_lt.mp (abs_scaled_lt (f := f) q)
    have hlo : -(2 ^ f.precision) ≤ roundEven (q / 2 ^ f.ulpExp q) := by
      refine le_roundEven ?_
      push_cast
      exact hscaled.1.le
    have hhi : roundEven (q / 2 ^ f.ulpExp q) ≤ 2 ^ f.precision := by
      refine roundEven_le ?_
      push_cast
      exact hscaled.2.le
    have hx : x = (roundEven (q / 2 ^ f.ulpExp q) : ℚ) * 2 ^ f.ulpExp q := hx.symm
    rcases lt_or_eq_of_le (abs_le.mpr ⟨hlo, hhi⟩) with hm | hm
    · exact ⟨hlt, _, _, hm, hmin, hx⟩
    · obtain ⟨p, hp⟩ := Nat.exists_eq_succ_of_ne_zero f.precision_pos.ne'
      have hdigits : (2 : ℤ) ^ f.precision = 2 * 2 ^ p := by
        rw [hp, pow_succ]
        ring
      have hpow : (2 : ℤ) ^ p < 2 ^ f.precision := by
        have hpos : (0 : ℤ) < 2 ^ p := by positivity
        omega
      have hcarry : (2 : ℚ) ^ (f.ulpExp q + 1) = 2 * 2 ^ f.ulpExp q := by
        rw [zpow_add_one₀ (by norm_num)]
        ring
      rcases (abs_eq (by positivity)).mp hm with hm | hm
      · refine ⟨hlt, 2 ^ p, f.ulpExp q + 1, ?_, by omega, ?_⟩
        · rw [abs_of_pos (by positivity)]
          exact hpow
        · rw [hx, hm, hdigits, hcarry]
          push_cast
          ring
      · refine ⟨hlt, -2 ^ p, f.ulpExp q + 1, ?_, by omega, ?_⟩
        · rw [abs_neg, abs_of_pos (by positivity)]
          exact hpow
        · rw [hx, hm, hdigits, hcarry]
          push_cast
          ring
  · cases h

/-- Rounding twice is rounding once. -/
theorem round_round {q x : ℚ} (h : f.round q = some x) : f.round x = some x :=
  (round_eq_self_iff x).mpr (representable_of_round h)

/-! ## Positive numbers -/

/-- The last place of a positive number is the least one, or the number has all its digits. -/
theorem ulpExp_cases {q : ℚ} (hq : 0 < q) :
    f.ulpExp q = f.emin ∨ (2 : ℚ) ^ (f.precision - 1 + f.ulpExp q : ℤ) ≤ q := by
  by_cases h : Int.log 2 |q| - (f.precision - 1) ≤ f.emin
  · left
    unfold ulpExp
    omega
  · right
    have hlog := Int.zpow_log_le_self (b := 2) (by norm_num) hq
    rw [abs_of_pos hq] at h
    have hexp : (f.precision - 1 + f.ulpExp q : ℤ) = Int.log 2 q := by
      unfold ulpExp
      rw [abs_of_pos hq]
      omega
    rw [hexp]
    exact_mod_cast hlog

/-- A positive number is rounded to a positive one from half the smallest value on. -/
theorem nearest_pos_iff {q : ℚ} (hq : 0 < q) : 0 < f.nearest q ↔ (2 : ℚ) ^ (f.emin - 1) < q := by
  have hpos := two_zpow_pos (f.ulpExp q)
  have hround : 0 < f.nearest q ↔ 1 ≤ roundEven (q / 2 ^ f.ulpExp q) := by
    unfold nearest
    rw [mul_pos_iff_of_pos_right hpos]
    exact_mod_cast Iff.rfl
  have hhalf : 1 ≤ roundEven (q / 2 ^ f.ulpExp q) ↔ (2 : ℚ) ^ (f.ulpExp q - 1) < q := by
    rw [le_roundEven_of_odd (by decide), lt_div_iff₀ hpos, zpow_sub_one₀ (by norm_num)]
    constructor
    · intro h
      push_cast at h
      linarith
    · intro h
      push_cast
      linarith
  rw [hround, hhalf]
  rcases ulpExp_cases (f := f) hq with h | h
  · rw [h]
  · have hp := f.precision_pos
    have hmin : f.emin ≤ f.ulpExp q := by
      unfold ulpExp
      omega
    have hle : ∀ e : ℤ, e ≤ f.ulpExp q - 1 → (2 : ℚ) ^ e < q := by
      intro e he
      have hlt : (2 : ℚ) ^ e < 2 ^ (f.precision - 1 + f.ulpExp q : ℤ) :=
        zpow_lt_zpow_right₀ (by norm_num) (by omega)
      linarith
    exact iff_of_true (hle _ le_rfl) (hle _ (by omega))

theorem nearest_nonneg {q : ℚ} (hq : 0 < q) : 0 ≤ f.nearest q := by
  have hpos := two_zpow_pos (f.ulpExp q)
  have hscaled : ((0 : ℤ) : ℚ) ≤ q / 2 ^ f.ulpExp q := by
    rw [Int.cast_zero]
    exact (div_pos hq hpos).le
  have hround : 0 ≤ roundEven (q / 2 ^ f.ulpExp q) := le_roundEven hscaled
  unfold nearest
  exact mul_nonneg (by exact_mod_cast hround) hpos.le

/-- A number is not rounded above a power of two that is above it and its last place. -/
theorem nearest_le_zpow {q : ℚ} {k : ℤ} (hk : f.ulpExp q ≤ k) (hq : q ≤ 2 ^ k) :
    f.nearest q ≤ 2 ^ k := by
  have hpos := two_zpow_pos (f.ulpExp q)
  rw [zpow_eq_mul hk] at hq ⊢
  have hround := roundEven_le ((div_le_iff₀ hpos).mpr hq)
  unfold nearest
  exact mul_le_mul_of_nonneg_right (by exact_mod_cast hround) hpos.le

/-- A number is not rounded below a power of two below it that has its last place or more. -/
theorem zpow_le_nearest {q : ℚ} {k : ℤ} (hk : f.ulpExp q ≤ k) (hq : 2 ^ k ≤ q) :
    2 ^ k ≤ f.nearest q := by
  have hpos := two_zpow_pos (f.ulpExp q)
  rw [zpow_eq_mul hk] at hq ⊢
  have hround := le_roundEven ((le_div_iff₀ hpos).mpr hq)
  unfold nearest
  exact mul_le_mul_of_nonneg_right (by exact_mod_cast hround) hpos.le

/-- **A positive number overflows** from half a last place below `2 ^ emax` on. -/
theorem round_eq_none_iff {q : ℚ} (hq : 0 < q) :
    f.round q = none ↔ (2 : ℚ) ^ f.emax - 2 ^ (f.emax - f.precision - 1) ≤ q := by
  have hp := f.precision_pos
  have hexps := f.exponents
  have hnone : f.round q = none ↔ (2 : ℚ) ^ f.emax ≤ f.nearest q := by
    unfold round
    rw [abs_of_nonneg (nearest_nonneg hq)]
    split <;> simp <;> linarith
  rw [hnone]
  have hhalf : (2 : ℚ) ^ (f.emax - f.precision - 1) ≤ 2 ^ (f.emax - 1) :=
    zpow_le_zpow_right₀ (by norm_num) (by omega)
  have htwo : (2 : ℚ) ^ f.emax = 2 * 2 ^ (f.emax - 1) := by
    rw [zpow_sub_one₀ (by norm_num)]
    ring
  have hlo : (2 : ℚ) ^ Int.log 2 |q| ≤ q := by
    rw [abs_of_pos hq]
    exact_mod_cast Int.zpow_log_le_self (b := 2) (by norm_num) hq
  have hhi : q < (2 : ℚ) ^ (Int.log 2 |q| + 1) := by
    rw [abs_of_pos hq]
    exact_mod_cast Int.lt_zpow_succ_log_self (b := 2) (by norm_num) q
  have hulp : f.ulpExp q = max (Int.log 2 |q| - (f.precision - 1)) f.emin := rfl
  rcases lt_trichotomy (Int.log 2 |q|) (f.emax - 1) with hlt | heq | hgt
  · -- too small by a factor of two
    have hle : q ≤ (2 : ℚ) ^ (f.emax - 1) :=
      hhi.le.trans (zpow_le_zpow_right₀ (by norm_num) (by omega))
    have hnearest : f.nearest q ≤ 2 ^ (f.emax - 1) := nearest_le_zpow (by omega) hle
    have hstrict : (2 : ℚ) ^ (f.emax - f.precision - 1) < 2 ^ (f.emax - 1) :=
      zpow_lt_zpow_right₀ (by norm_num) (by omega)
    have hpos := two_zpow_pos (f.emax - 1)
    exact iff_of_false (by linarith) (by linarith)
  · -- the last binade: the last place is `2 ^ (emax - precision)`
    have hexp : f.ulpExp q = f.emax - f.precision := by omega
    have hpos := two_zpow_pos (f.emax - f.precision)
    have hemax : (2 : ℚ) ^ f.emax = ((2 ^ f.precision : ℤ) : ℚ) * 2 ^ (f.emax - f.precision) := by
      push_cast
      rw [← zpow_natCast, ← zpow_add₀ (by norm_num)]
      congr 1
      omega
    have heven : (2 ^ f.precision : ℤ) % 2 = 0 := by
      obtain ⟨k, hk⟩ := Nat.exists_eq_succ_of_ne_zero hp.ne'
      rw [hk, pow_succ]
      omega
    unfold nearest
    rw [hexp, hemax, mul_le_mul_iff_left₀ hpos, Int.cast_le, le_roundEven_of_even heven,
      le_div_iff₀ hpos, zpow_sub_one₀ (by norm_num) (f.emax - f.precision)]
    constructor
    · intro h
      linarith
    · intro h
      linarith
  · -- at least `2 ^ emax`
    have hge : (2 : ℚ) ^ f.emax ≤ q := (zpow_le_zpow_right₀ (by norm_num) (by omega)).trans hlo
    have hnearest : (2 : ℚ) ^ f.emax ≤ f.nearest q := by
      have hlog : (2 : ℚ) ^ Int.log 2 |q| ≤ f.nearest q := zpow_le_nearest (by omega) hlo
      exact (zpow_le_zpow_right₀ (by norm_num) (by omega)).trans hlog
    have hpos := two_zpow_pos (f.emax - f.precision - 1)
    exact iff_of_true hnearest (by linarith)

theorem nearest_nonpos {q : ℚ} (hq : q ≤ 0) : f.nearest q ≤ 0 := by
  have hpos := two_zpow_pos (f.ulpExp q)
  have hscaled : q / 2 ^ f.ulpExp q ≤ ((0 : ℤ) : ℚ) := by
    rw [Int.cast_zero]
    exact div_nonpos_of_nonpos_of_nonneg hq hpos.le
  have hround : roundEven (q / 2 ^ f.ulpExp q) ≤ 0 := roundEven_le hscaled
  unfold nearest
  exact mul_nonpos_of_nonpos_of_nonneg (by exact_mod_cast hround) hpos.le

/-- **What is rounded to a positive value** neither vanishes nor overflows. -/
theorem round_pos_iff (q : ℚ) : (∃ x, f.round q = some x ∧ 0 < x) ↔
    (2 : ℚ) ^ (f.emin - 1) < q ∧ q < 2 ^ f.emax - 2 ^ (f.emax - f.precision - 1) := by
  have hsome : ∀ x, f.round q = some x → x = f.nearest q := by
    intro x hx
    unfold round at hx
    split at hx
    · exact (Option.some.inj hx).symm
    · cases hx
  constructor
  · rintro ⟨x, hx, hpos⟩
    have hnearest : 0 < f.nearest q := hsome x hx ▸ hpos
    have hq : 0 < q := by
      by_contra hq
      exact absurd (nearest_nonpos (f := f) (not_lt.mp hq)) (not_le.mpr hnearest)
    refine ⟨(nearest_pos_iff hq).mp hnearest, not_le.mp fun hle => ?_⟩
    rw [(round_eq_none_iff hq).mpr hle] at hx
    cases hx
  · rintro ⟨hlo, hhi⟩
    have hq : 0 < q := lt_trans (two_zpow_pos _) hlo
    cases hx : f.round q with
    | none => exact absurd ((round_eq_none_iff hq).mp hx) (not_le.mpr hhi)
    | some x => exact ⟨x, rfl, hsome x hx ▸ (nearest_pos_iff hq).mpr hlo⟩

end Format

end Kit.Float
