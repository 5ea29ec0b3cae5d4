import Mathlib.Algebra.BigOperators.Group.List.Basic
import Mathlib.Data.List.Nodup
import Mathlib.Logic.Function.Basic

/-!
# Row tables: a map with the order its keys were announced in

* `Table κ ρ` — an order list and a row map; the field `mem_order` ties them: the listed keys are
  exactly the keys with a row, so walking the order list never meets a missing row.
* `announce` — set a row and append its key, whether or not the key is listed already.
* `touch` — change a row, first creating and listing it when it is missing.
* `announceAll`, `touchAll` — the two folds over input lists.
* `announceAll_row`, `touchAll_row` — the row a key ends up with: its last announcement,
  changed by the touches of that key alone, in order.
* `touchAll_order`, `nodup_touchAll`, `mem_touchAll_order` — touching lists each new key once.
* `sum_groups` — summing group sums over the order list counts every element once for each
  occurrence of its key; `sum_groups_of_nodup`: once, when no key is listed twice.
-/

set_option autoImplicit false

namespace Kit

/-- A map from keys to rows and the list of its keys in the order they were announced. -/
structure Table (κ ρ : Type) where
  order : List κ
  row : κ → Option ρ
  mem_order : ∀ k, k ∈ order ↔ (row k).isSome = true

namespace Table

variable {κ ρ α β : Type}

def empty : Table κ ρ := ⟨[], fun _ => none, by simp⟩

/-- The rows in the order of their keys; the invariant says that each is there. -/
def entries (t : Table κ ρ) : List (κ × ρ) :=
  t.order.attach.map fun k => (k.1, (t.row k.1).get ((t.mem_order k.1).mp k.2))

section Entries

variable {t : Table κ ρ} {k : κ} {r : ρ}

@[simp] theorem entries_map_fst (t : Table κ ρ) : t.entries.map Prod.fst = t.order := by
  simp [entries, Function.comp_def]

theorem mem_entries : (k, r) ∈ t.entries ↔ t.row k = some r := by
  constructor
  · intro h
    obtain ⟨j, _, hj⟩ := List.mem_map.mp h
    obtain ⟨rfl, rfl⟩ := Prod.mk.inj hj
    exact (Option.some_get _).symm
  · intro h
    have hk : k ∈ t.order := (t.mem_order k).mpr (by rw [h]; rfl)
    exact List.mem_map.mpr ⟨⟨k, hk⟩, List.mem_attach _ _, by simp [h]⟩

/-- The entries under a function of the row: one for each row. -/
theorem mem_map_entries {p : ρ → α} {a : α} :
    (k, a) ∈ t.entries.map (fun e => (e.1, p e.2)) ↔ ∃ r, t.row k = some r ∧ p r = a := by
  constructor
  · intro h
    obtain ⟨⟨j, r⟩, he, heq⟩ := List.mem_map.mp h
    cases heq
    exact ⟨r, mem_entries.mp he, rfl⟩
  · rintro ⟨r, hr, rfl⟩
    exact List.mem_map.mpr ⟨(k, r), mem_entries.mpr hr, rfl⟩

theorem exists_row_of_mem (h : k ∈ t.order) : ∃ r, t.row k = some r :=
  Option.isSome_iff_exists.mp ((t.mem_order k).mp h)

end Entries

variable [DecidableEq κ]

/-- `rows[k] = r; order = append(order, k)`. -/
def announce (t : Table κ ρ) (k : κ) (r : ρ) : Table κ ρ where
  order := t.order ++ [k]
  row := Function.update t.row k (some r)
  mem_order := by
    intro j
    by_cases h : j = k
    · subst h; simp
    · simp [h, t.mem_order]

/-- `if rows[k] == nil { rows[k] = fresh; order = append(order, k) }; f(rows[k])`. -/
def touch (t : Table κ ρ) (k : κ) (fresh : ρ) (f : ρ → ρ) : Table κ ρ where
  order := if (t.row k).isSome then t.order else t.order ++ [k]
  row := Function.update t.row k (some (f ((t.row k).getD fresh)))
  mem_order := by
    intro j
    by_cases h : j = k
    · subst h
      by_cases hj : (t.row j).isSome = true
      · simp [hj, t.mem_order]
      · simp [hj]
    · by_cases hk : (t.row k).isSome = true <;> simp [hk, h, t.mem_order]

def announceAll (key : α → κ) (mk : α → ρ) (t : Table κ ρ) (xs : List α) : Table κ ρ :=
  xs.foldl (fun t x => t.announce (key x) (mk x)) t

def touchAll (key : β → κ) (fresh : κ → ρ) (f : β → ρ → ρ) (t : Table κ ρ) (ys : List β) :
    Table κ ρ :=
  ys.foldl (fun t y => t.touch (key y) (fresh (key y)) (f y)) t

/-! ## Announcing -/

theorem announceAll_order (key : α → κ) (mk : α → ρ) (t : Table κ ρ) (xs : List α) :
    (announceAll key mk t xs).order = t.order ++ xs.map key := by
  induction xs generalizing t with
  | nil => simp [announceAll]
  | cons x xs ih =>
    show (announceAll key mk (t.announce (key x) (mk x)) xs).order = _
    rw [ih]
    simp [announce]

/-- The last announcement of a key is its row. -/
theorem announceAll_row (key : α → κ) (mk : α → ρ) (t : Table κ ρ) (xs : List α) (k : κ) :
    (announceAll key mk t xs).row k =
      ((xs.filter fun x => key x = k).getLast?.map mk).or (t.row k) := by
  induction xs generalizing t with
  | nil => simp [announceAll]
  | cons x xs ih =>
    show (announceAll key mk (t.announce (key x) (mk x)) xs).row k = _
    rw [ih]
    by_cases hx : key x = k
    · subst hx
      cases hf : (xs.filter fun y => key y = key x).getLast? with
      | none => simp [List.getLast?_cons, hf, announce]
      | some y => simp [List.getLast?_cons, hf]
    · have hk : k ≠ key x := fun e => hx e.symm
      simp [hx, announce, hk]

/-! ## Touching -/

section Touch

variable (key : β → κ) (fresh : κ → ρ) (f : β → ρ → ρ)

theorem touch_row_self (t : Table κ ρ) (k : κ) (r : ρ) (g : ρ → ρ) :
    (t.touch k r g).row k = some (g ((t.row k).getD r)) := by
  simp [touch]

theorem touch_row_ne (t : Table κ ρ) {j k : κ} (h : j ≠ k) (r : ρ) (g : ρ → ρ) :
    (t.touch k r g).row j = t.row j := by
  simp [touch, h]

/-- A key keeps its row unless some element touches it; then the row it had (or a fresh one) has
gone through exactly the touches of that key. -/
theorem touchAll_row (t : Table κ ρ) (ys : List β) (k : κ) :
    (touchAll key fresh f t ys).row k =
      if ys.any fun y => key y = k then
        some ((ys.filter fun y => key y = k).foldl (fun r y => f y r) ((t.row k).getD (fresh k)))
      else t.row k := by
  induction ys generalizing t with
  | nil => simp [touchAll]
  | cons y ys ih =>
    show (touchAll key fresh f (t.touch (key y) (fresh (key y)) (f y)) ys).row k = _
    rw [ih]
    by_cases hy : key y = k
    · subst hy
      rw [touch_row_self]
      by_cases hany : (ys.any fun z => key z = key y) = true
      · simp [hany]
      · have hnil : (ys.filter fun z => key z = key y) = [] := by
          simpa [List.filter_eq_nil_iff] using hany
        simp [hany, hnil]
    · rw [touch_row_ne t (fun e => hy e.symm)]
      simp [hy]

/-- What the rows and fresh rows have and every touch keeps, all rows have in the end. -/
theorem forall_row_touchAll {Q : κ → ρ → Prop} (hf : ∀ k y r, Q k r → Q k (f y r))
    (t : Table κ ρ) (hbase : ∀ k, Q k ((t.row k).getD (fresh k))) (ys : List β) {k : κ} {r : ρ}
    (hr : (touchAll key fresh f t ys).row k = some r) : Q k r := by
  have hfold : ∀ (zs : List β) (r₀ : ρ), Q k r₀ → Q k (zs.foldl (fun r y => f y r) r₀) := by
    intro zs
    induction zs with
    | nil => exact fun _ h => h
    | cons z zs ih => exact fun r₀ h => ih _ (hf k z r₀ h)
  rw [touchAll_row] at hr
  split at hr
  · cases hr
    exact hfold _ _ (hbase k)
  · have hb := hbase k
    rw [hr] at hb
    exact hb

/-- Touching appends the keys that had no row, each of them once. -/
theorem touchAll_order (t : Table κ ρ) (ys : List β) :
    ∃ new, (touchAll key fresh f t ys).order = t.order ++ new ∧ new.Nodup ∧
      ∀ k ∈ new, k ∉ t.order := by
  induction ys generalizing t with
  | nil => exact ⟨[], by simp [touchAll], List.nodup_nil, by simp⟩
  | cons y ys ih =>
    obtain ⟨new, ho, hnd, hnew⟩ := ih (t.touch (key y) (fresh (key y)) (f y))
    have hstep : (touchAll key fresh f t (y :: ys)).order =
        (t.touch (key y) (fresh (key y)) (f y)).order ++ new := ho
    by_cases hk : (t.row (key y)).isSome = true
    · have hord : (t.touch (key y) (fresh (key y)) (f y)).order = t.order := by simp [touch, hk]
      rw [hord] at hstep hnew
      exact ⟨new, hstep, hnd, hnew⟩
    · have hord : (t.touch (key y) (fresh (key y)) (f y)).order = t.order ++ [key y] := by
        simp [touch, hk]
      rw [hord] at hstep hnew
      have hout : key y ∉ t.order := fun h => hk ((t.mem_order _).mp h)
      refine ⟨key y :: new, by rw [hstep]; simp, ?_, ?_⟩
      · exact List.nodup_cons.mpr ⟨fun h => hnew _ h (by simp), hnd⟩
      · intro k hkm
        rcases List.mem_cons.mp hkm with rfl | hkm
        · exact hout
        · exact fun h => hnew k hkm (List.mem_append_left _ h)

theorem nodup_touchAll (t : Table κ ρ) (ys : List β) :
    (touchAll key fresh f t ys).order.Nodup ↔ t.order.Nodup := by
  obtain ⟨new, ho, hnd, hnew⟩ := touchAll_order key fresh f t ys
  rw [ho, List.nodup_append]
  exact ⟨fun h => h.1, fun h => ⟨h, hnd, fun a ha b hb e => hnew b hb (e ▸ ha)⟩⟩

/-- Listed in the end are the keys that were listed and those that were touched. -/
theorem mem_touchAll_order (t : Table κ ρ) (ys : List β) (k : κ) :
    k ∈ (touchAll key fresh f t ys).order ↔ k ∈ t.order ∨ k ∈ ys.map key := by
  rw [mem_order, touchAll_row]
  by_cases hk : k ∈ ys.map key
  · have hany : (ys.any fun y => key y = k) = true := by simpa using hk
    simp [hany, hk]
  · have hany : (ys.any fun y => key y = k) = false := by simpa using hk
    simp [hany, hk, mem_order]

end Touch

/-! ## Sums over the order list -/

section Sums

variable {M : Type} [AddCommMonoid M]

theorem sum_single (order : List κ) (k : κ) (m : M) :
    (order.map fun j => if k = j then m else 0).sum = order.count k • m := by
  induction order with
  | nil => simp
  | cons j order ih =>
    by_cases h : k = j
    · subst h; simp [ih, succ_nsmul, add_comm]
    · have hj : j ≠ k := fun e => h e.symm
      simp [ih, h, hj]

/-- **Group sums.**  Every element counts once for each occurrence of its key. -/
theorem sum_groups (key : β → κ) (w : β → M) (order : List κ) (ys : List β) :
    (order.map fun k => ((ys.filter fun y => key y = k).map w).sum).sum =
      (ys.map fun y => order.count (key y) • w y).sum := by
  induction ys with
  | nil => simp
  | cons y ys ih =>
    have hsplit : ∀ k, (((y :: ys).filter fun y => key y = k).map w).sum =
        (if key y = k then w y else 0) + ((ys.filter fun y => key y = k).map w).sum := by
      intro k
      by_cases h : key y = k <;> simp [h]
    simp only [hsplit, List.sum_map_add, ih, sum_single, List.map_cons, List.sum_cons]

theorem sum_groups_of_nodup (key : β → κ) (w : β → M) {order : List κ} (hnd : order.Nodup)
    {ys : List β} (hmem : ∀ y ∈ ys, key y ∈ order) :
    (order.map fun k => ((ys.filter fun y => key y = k).map w).sum).sum = (ys.map w).sum := by
  rw [sum_groups]
  congr 1
  refine List.map_congr_left fun y hy => ?_
  rw [List.count_eq_one_of_mem hnd (hmem y hy), one_nsmul]

section Accumulate

variable (key : β → κ) (fresh : κ → ρ) (f : β → ρ → ρ) {p : ρ → M} {w : β → M}

/-- A field that each touch increases by its element's weight: the row's value is the one it
started from plus the weights of its key. -/
theorem field_touchAll (hf : ∀ y r, p (f y r) = p r + w y) (t : Table κ ρ) (ys : List β) {k : κ}
    {r : ρ} (hr : (touchAll key fresh f t ys).row k = some r) :
    p r = p ((t.row k).getD (fresh k)) + ((ys.filter fun y => key y = k).map w).sum := by
  have hfold : ∀ (zs : List β) (r₀ : ρ),
      p (zs.foldl (fun r y => f y r) r₀) = p r₀ + (zs.map w).sum := by
    intro zs
    induction zs with
    | nil => simp
    | cons z zs ih => intro r₀; simp [ih, hf, add_assoc]
  rw [touchAll_row] at hr
  split at hr
  · cases hr
    exact hfold _ _
  · rename_i hany
    have hnil : (ys.filter fun y => key y = k) = [] := by
      simpa [List.filter_eq_nil_iff] using hany
    simp [hr, hnil]

/-- **Conservation.**  A field that starts at zero everywhere sums up, over a table that lists no
key twice, to the weight of all elements. -/
theorem sum_entries_touchAll (hf : ∀ y r, p (f y r) = p r + w y) {t : Table κ ρ}
    (hbase : ∀ k, p ((t.row k).getD (fresh k)) = 0) (hnd : t.order.Nodup) (ys : List β) :
    ((touchAll key fresh f t ys).entries.map fun e => p e.2).sum = (ys.map w).sum := by
  have hval : ((touchAll key fresh f t ys).entries.map fun e => p e.2) =
      (touchAll key fresh f t ys).order.map
        fun k => ((ys.filter fun y => key y = k).map w).sum := by
    rw [← entries_map_fst, List.map_map]
    refine List.map_congr_left fun e he => ?_
    rw [field_touchAll key fresh f hf t ys (mem_entries.mp he), hbase, zero_add]
    rfl
  rw [hval]
  exact sum_groups_of_nodup key w ((nodup_touchAll key fresh f t ys).mpr hnd)
    fun y hy => (mem_touchAll_order key fresh f t ys _).mpr (Or.inr (List.mem_map_of_mem hy))

end Accumulate

end Sums

end Table

end Kit
