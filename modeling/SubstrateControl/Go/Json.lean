import Mathlib.Algebra.Order.BigOperators.Group.List
import Mathlib.Algebra.Ring.Int.Defs
import Mathlib.Data.Rat.Defs
import Mathlib.Data.List.Sort

/-!
# JSON values as Go decodes them

* `JVal` — what `encoding/json` leaves in an `any`; an object is the association list of its map,
  read by `get` and written by `set`.  A number is the value of the float64 it was decoded to.
* `Runtime` — what the language leaves to the implementation, or writes with float formatting:
  the text of a float64 and the result of converting an out-of-range float64 to int64.
* `sprintV` — `fmt.Sprintf("%v", x)`: maps are printed in key order, a nil as `<nil>`.
* `RawMessage` — one undecoded JSON value: its text and what the text says.
-/

set_option autoImplicit false

namespace Go

/-- A decoded JSON value. -/
inductive JVal where
  | null
  | bool (b : Bool)
  | num (q : ℚ)
  | str (s : String)
  | arr (xs : List JVal)
  | obj (fields : List (String × JVal))
  deriving Repr

/-- `map[string]any`; the nil map is the empty one. -/
abbrev JObj := List (String × JVal)

/-- `m[k]`: nil for a missing key. -/
def JObj.get (m : JObj) (k : String) : JVal := (m.lookup k).getD .null

/-- `m[k] = v`, in a map with string keys. -/
def mapSet {α : Type} (m : List (String × α)) (k : String) (v : α) : List (String × α) :=
  if m.any fun kv => kv.1 == k then m.map fun kv => if kv.1 == k then (k, v) else kv
  else m ++ [(k, v)]

/-- `m[k] = v`. -/
def JObj.set (m : JObj) (k : String) (v : JVal) : JObj := mapSet m k v

/-- `delete(m, k)`. -/
def JObj.erase (m : JObj) (k : String) : JObj := m.filter fun kv => kv.1 != k

/-- The parts of float64 handling that depend on the implementation. -/
structure Runtime where
  formatFloat : ℚ → String
  int64OutOfRange : ℚ → Int64

mutual

/-- `fmt.Sprintf("%v", x)`. -/
def sprintV (go : Runtime) : JVal → String
  | .null => "<nil>"
  | .bool b => if b then "true" else "false"
  | .num q => go.formatFloat q
  | .str s => s
  | .arr xs => "[" ++ " ".intercalate (sprintElems go xs) ++ "]"
  | .obj m =>
    "map[" ++ " ".intercalate
      (((sprintFields go m).mergeSort fun a b => decide (a.1 ≤ b.1)).map
        fun kv => kv.1 ++ ":" ++ kv.2) ++ "]"

def sprintElems (go : Runtime) : List JVal → List String
  | [] => []
  | x :: xs => sprintV go x :: sprintElems go xs

def sprintFields (go : Runtime) : List (String × JVal) → List (String × String)
  | [] => []
  | (k, x) :: m => (k, sprintV go x) :: sprintFields go m

end

/-- `int64(f)`: truncation towards zero, implementation-defined outside the range. -/
def int64OfFloat (go : Runtime) (q : ℚ) : Int64 :=
  let n := if 0 ≤ q then q.floor else q.ceil
  if Int64.minValue.toInt ≤ n ∧ n ≤ Int64.maxValue.toInt then Int64.ofInt n
  else go.int64OutOfRange q

/-- Sums of int64 counters, with Go's wrap-around. -/
instance int64AddCommMonoid : AddCommMonoid Int64 where
  add_assoc := Int64.add_assoc
  zero_add := Int64.zero_add
  add_zero := Int64.add_zero
  add_comm := Int64.add_comm
  nsmul := nsmulRec

/-- Counters that are not negative add up as integers as long as their sum fits. -/
theorem toInt_sum {β : Type} (f : β → Int64) (xs : List β) (hnonneg : ∀ x ∈ xs, 0 ≤ (f x).toInt)
    (hfits : (xs.map fun x => (f x).toInt).sum ≤ Int64.maxValue.toInt) :
    (xs.map f).sum.toInt = (xs.map fun x => (f x).toInt).sum := by
  have hmax : Int64.maxValue.toInt = 2 ^ 63 - 1 := rfl
  induction xs with
  | nil => rfl
  | cons x xs ih =>
    rw [List.forall_mem_cons] at hnonneg
    have hrest : 0 ≤ (xs.map fun x => (f x).toInt).sum := by
      apply List.sum_nonneg
      rintro n hn
      obtain ⟨y, hy, rfl⟩ := List.mem_map.mp hn
      exact hnonneg.2 y hy
    simp only [List.map_cons, List.sum_cons] at hfits ⊢
    rw [Int64.toInt_add, ih hnonneg.2 (by omega)]
    apply Int.bmod_eq_of_le <;> omega

/-- `json.RawMessage`: the text, and its value before any number is converted. -/
structure RawMessage where
  text : String
  value : JVal
  deriving Repr

end Go
