import Mathlib.Data.List.Basic

/-!
# Mutations of a component

What `useMutation` keeps for a component.

* `Mutation` — its calls by their numbers, from one on, and those that are not settled.
* `isPending` — looks at the latest call only.
* `Single` — at most the latest call is in flight, as where a pending mutation is not called again.
-/

set_option autoImplicit false

namespace Frontend

/-- `useMutation`, as far as calls and their settling go. -/
structure Mutation where
  calls : ℕ := 0
  inFlight : List ℕ := []
  deriving DecidableEq, Repr

namespace Mutation

/-- `mutation.isPending`, the state of the latest call. -/
def isPending (m : Mutation) : Bool := m.inFlight.contains m.calls

/-- `mutation.mutate`. -/
def mutate (m : Mutation) : Mutation :=
  { calls := m.calls + 1, inFlight := m.inFlight ++ [m.calls + 1] }

/-- The call `id` succeeds or fails. -/
def settle (m : Mutation) (id : ℕ) : Mutation :=
  { m with inFlight := m.inFlight.filter (· != id) }

@[simp] theorem mutate_calls (m : Mutation) : m.mutate.calls = m.calls + 1 := rfl

@[simp] theorem mutate_inFlight (m : Mutation) :
    m.mutate.inFlight = m.inFlight ++ [m.calls + 1] := rfl

@[simp] theorem settle_calls (m : Mutation) (id : ℕ) : (m.settle id).calls = m.calls := rfl

@[simp] theorem settle_inFlight (m : Mutation) (id : ℕ) :
    (m.settle id).inFlight = m.inFlight.filter (· != id) := rfl

/-- At most the latest call is in flight. -/
def Single (m : Mutation) : Prop := m.inFlight = [] ∨ m.inFlight = [m.calls]

theorem Single.mutate {m : Mutation} (h : m.Single) (hidle : m.isPending = false) :
    m.mutate.Single := by
  rcases h with h | h
  · exact .inr (by simp [h])
  · simp [isPending, h] at hidle

theorem Single.settle {m : Mutation} (h : m.Single) (id : ℕ) : (m.settle id).Single := by
  rcases h with h | h
  · exact .inl (by simp [h])
  · by_cases hid : m.calls = id
    · exact .inl (by simp [h, hid])
    · exact .inr (by simp [h, hid])

theorem Single.length_le {m : Mutation} (h : m.Single) : m.inFlight.length ≤ 1 := by
  rcases h with h | h <;> simp [h]

/-- Only the latest call settles. -/
theorem Single.eq_calls {m : Mutation} (h : m.Single) {id : ℕ} (hid : id ∈ m.inFlight) :
    id = m.calls := by
  rcases h with h | h
  · rw [h] at hid
    cases hid
  · rw [h] at hid
    exact List.mem_singleton.mp hid

end Mutation

end Frontend
