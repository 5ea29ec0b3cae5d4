import Mathlib.Algebra.BigOperators.Group.List.Basic
import Mathlib.Algebra.Order.BigOperators.Group.List
import Mathlib.Algebra.Order.Floor.Ring
import Mathlib.Tactic.Linarith

/-!
# Sums of rounded numbers

* `roundedUpBy` — what rounding up to an integer adds.
* `sum_ceil` — a sum of rounded numbers is off by what the roundings have added together.
* `sum_ceil_eq_iff` — it is the rounded sum exactly when they have added less than one.
-/

set_option autoImplicit false

namespace Kit

section RoundUp

variable {α β : Type} [CommRing α] [LinearOrder α] [IsStrictOrderedRing α] [FloorRing α]

/-- What rounding `x` up to an integer adds. -/
def roundedUpBy (x : α) : α := ⌈x⌉ - x

theorem roundedUpBy_nonneg (x : α) : 0 ≤ roundedUpBy x := sub_nonneg.mpr (Int.le_ceil x)

omit [IsStrictOrderedRing α] in
theorem sum_ceil (f : β → α) (xs : List β) :
    (((xs.map fun x => ⌈f x⌉).sum : ℤ) : α) =
      (xs.map f).sum + (xs.map fun x => roundedUpBy (f x)).sum := by
  induction xs with
  | nil => simp
  | cons x xs ih =>
    simp only [List.map_cons, List.sum_cons, Int.cast_add, ih, roundedUpBy]
    abel

/-- **Rounding each number or the sum.**  The two agree as long as the roundings add less than
one. -/
theorem sum_ceil_eq_iff (f : β → α) (xs : List β) :
    (xs.map fun x => ⌈f x⌉).sum = ⌈(xs.map f).sum⌉ ↔
      (xs.map fun x => roundedUpBy (f x)).sum < 1 := by
  have hsum := sum_ceil f xs
  have hnonneg : 0 ≤ (xs.map fun x => roundedUpBy (f x)).sum := by
    apply List.sum_nonneg
    intro y hy
    obtain ⟨x, -, rfl⟩ := List.mem_map.mp hy
    exact roundedUpBy_nonneg (f x)
  rw [eq_comm, Int.ceil_eq_iff, hsum]
  constructor
  · rintro ⟨hlt, -⟩
    linarith
  · intro hlt
    exact ⟨by linarith, by linarith⟩

end RoundUp

end Kit
