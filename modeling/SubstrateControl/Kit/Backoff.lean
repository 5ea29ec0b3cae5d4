import Mathlib.Algebra.Order.Ring.Int
import Mathlib.Tactic.Linarith

/-!
# Exponential backoff with a cap

* `Backoff.delay first cap k` — `first` doubled `k` times, never above `cap`.
* `delay_succ` — doubling a delay and capping it gives the next one, so that a loop need not keep
  the exponent.
* `Backoff.since os` — the number of attempts since the last success among the outcomes `os`, since
  the first attempt where none succeeded.
-/

set_option autoImplicit false

namespace Kit

namespace Backoff

/-- The delay before the retry of an attempt that is `k` attempts past the last reset. -/
def delay (first cap : Int) (k : ℕ) : Int := min cap (first * 2 ^ k)

variable {first cap : Int}

theorem delay_zero (h : first ≤ cap) : delay first cap 0 = first := by
  rw [delay, pow_zero, mul_one, min_eq_right h]

theorem delay_le (first cap : Int) (k : ℕ) : delay first cap k ≤ cap := min_le_left ..

theorem le_delay (h0 : 0 ≤ first) (h : first ≤ cap) (k : ℕ) : first ≤ delay first cap k := by
  have hpow : (1 : Int) ≤ 2 ^ k := one_le_pow₀ (by norm_num)
  exact le_min h (le_mul_of_one_le_right h0 hpow)

/-- **Doubling and capping a delay gives the next one.** -/
theorem delay_succ (h0 : 0 ≤ cap) (k : ℕ) :
    min cap (delay first cap k * 2) = delay first cap (k + 1) := by
  rw [delay, delay, pow_succ, ← mul_assoc]
  rcases le_total cap (first * 2 ^ k) with hle | hle
  · rw [min_eq_left hle, min_eq_left (by linarith), min_eq_left (by linarith)]
  · rw [min_eq_right hle]

/-- The number of attempts since the last one that succeeded, or since the first one. -/
def since (outcomes : List Bool) : ℕ :=
  (outcomes.reverse.findIdx? id).getD (outcomes.length - 1)

@[simp] theorem since_success (os : List Bool) : since (os ++ [true]) = 0 := by
  rw [since, List.reverse_append, List.reverse_singleton, List.singleton_append,
    List.findIdx?_cons]
  rfl

theorem since_failure {os : List Bool} (h : os ≠ []) : since (os ++ [false]) = since os + 1 := by
  have hlen : 0 < os.length := List.length_pos_iff.mpr h
  unfold since
  rw [List.reverse_append, List.reverse_singleton, List.singleton_append, List.findIdx?_cons]
  cases os.reverse.findIdx? id with
  | none => simp; omega
  | some j => simp

end Backoff

end Kit
