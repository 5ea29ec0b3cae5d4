import SubstrateControl.Go.Marshal
import SubstrateControl.Js.Decoded
import SubstrateControl.Js.Parse

/-!
# Values of a response

What a script gets of a body that the server wrote.

* `Value.ofJVal` — the value `JSON.parse` makes of what it reads.
* `parsed_marshalLine` — the numbers of the server are those the script gets.
* `Value.sorted` — a value with the properties of its objects in order.
* `ofJVal_decoded` — **what a script wrote comes back**, once the server has decoded and written it.
* `prop_sorted` — the order of properties changes none.
-/

set_option autoImplicit false

namespace Js

open Go

mutual

/-- The value `JSON.parse` makes of what it reads: a number is the nearest Number, and of members of
one name the last counts. -/
def Value.ofJVal : JVal → Value
  | .null => .null
  | .bool b => .bool b
  | .str s => .string s
  | .num q => .number (numberOf q)
  | .arr xs => .array (valuesOf xs)
  | .obj m => .object (fromEntries (fieldsOf m))

def valuesOf : List JVal → List Value
  | [] => []
  | x :: xs => .ofJVal x :: valuesOf xs

def fieldsOf : JObj → List (String × Value)
  | [] => []
  | (k, x) :: m => (k, .ofJVal x) :: fieldsOf m

end

theorem valuesOf_eq (xs : List JVal) : valuesOf xs = xs.map Value.ofJVal := by
  induction xs with
  | nil => rfl
  | cons x xs ih => rw [valuesOf, ih, List.map_cons]

theorem fieldsOf_eq (m : JObj) : fieldsOf m = m.map fun kv => (kv.1, Value.ofJVal kv.2) := by
  induction m with
  | nil => rfl
  | cons kv m ih => rw [fieldsOf, ih, List.map_cons]

/-- A property of an object is the member of its name. -/
theorem prop_ofJVal {m : JObj} (h : (m.map Prod.fst).Nodup) (k : String) :
    (Value.ofJVal (.obj m)).prop k = (m.lookup k).map Value.ofJVal := by
  have hnodup : ((fieldsOf m).map Prod.fst).Nodup := by
    rw [fieldsOf_eq, List.map_map]
    exact h
  rw [Value.ofJVal, fromEntries_eq hnodup, Value.prop, fieldsOf_eq]
  clear h hnodup
  induction m with
  | nil => rfl
  | cons kv m ih =>
    rw [List.map_cons, List.lookup_cons, List.lookup_cons]
    split
    · rfl
    · exact ih

/-- A property of a struct is its field, unless that is omitted. -/
theorem prop_struct {fields : List (String × Option JVal)} (h : (fields.map Prod.fst).Nodup)
    (k : String) :
    (Value.ofJVal (structJVal fields)).prop k = (fields.lookup k).join.map Value.ofJVal := by
  rw [structJVal, prop_ofJVal ((keys_structMembers fields).nodup h), lookup_structMembers h]

/-! ## Numbers -/

theorem numberOf_val (x : Float64) : numberOf x.val = .finite x :=
  numberOf_finite_iff.mpr x.round_val

/-- Numbers that are rounded alike are the same Number. -/
theorem numberOf_congr {p q : ℚ} (h : parseFloat p = parseFloat q)
    (hfinite : (parseFloat q).isSome = true) : numberOf p = numberOf q := by
  obtain ⟨x, hx⟩ := Option.isSome_iff_exists.mp hfinite
  have hself : Kit.Float.binary64.round x = some x := Kit.Float.Format.round_round hx
  have hq : numberOf q = .finite ⟨x, hself⟩ := numberOf_finite_iff.mpr hx
  have hp : numberOf p = .finite ⟨x, hself⟩ := numberOf_finite_iff.mpr (h.trans hx)
  rw [hp, hq]

mutual

theorem ofJVal_mapNums (fmt : NumberFormat) : ∀ v : JVal, FiniteNums v →
    Value.ofJVal (mapNums fmt.decimal v) = .ofJVal v
  | .null, _ => rfl
  | .bool _, _ => rfl
  | .str _, _ => rfl
  | .num q, h => by
    have hq := h q (List.mem_singleton_self q)
    rw [mapNums, Value.ofJVal, Value.ofJVal, numberOf_congr (fmt.decimal_spec hq).2 hq]
  | .arr xs, h => by
    rw [mapNums, Value.ofJVal, Value.ofJVal, valuesOf_mapNums fmt xs h]
  | .obj m, h => by
    rw [mapNums, Value.ofJVal, Value.ofJVal, fieldsOf_mapNums fmt m h]

theorem valuesOf_mapNums (fmt : NumberFormat) : ∀ xs : List JVal,
    (∀ q ∈ numsElems xs, (parseFloat q).isSome = true) →
      valuesOf (mapNumsItems fmt.decimal xs) = valuesOf xs
  | [], _ => rfl
  | x :: xs, h => by
    rw [numsElems, List.forall_mem_append] at h
    rw [mapNumsItems, valuesOf, valuesOf, ofJVal_mapNums fmt x h.1, valuesOf_mapNums fmt xs h.2]

theorem fieldsOf_mapNums (fmt : NumberFormat) : ∀ m : JObj,
    (∀ q ∈ numsMembers m, (parseFloat q).isSome = true) →
      fieldsOf (mapNumsMembers fmt.decimal m) = fieldsOf m
  | [], _ => rfl
  | (k, x) :: m, h => by
    rw [numsMembers, List.forall_mem_append] at h
    rw [mapNumsMembers, fieldsOf, fieldsOf, ofJVal_mapNums fmt x h.1, fieldsOf_mapNums fmt m h.2]

end

/-- **A response is parsed to what the server wrote.** -/
theorem parsed_marshalLine (fmt : NumberFormat) {v : JVal} (h : FiniteNums v) :
    (jsonParse (marshalLine fmt v)).map Value.ofJVal = some (.ofJVal v) := by
  have hdepth : nesting v ≤ (marshalLine fmt v).length := by
    have hlength := nesting_le_length fmt v
    rw [marshalLine, List.length_append]
    omega
  unfold jsonParse
  nth_rewrite 2 [marshalLine]
  rw [value_marshal fmt v _ [byte '\n'] h hdepth (Ends.cons (by decide) [])]
  show some (Value.ofJVal (mapNums fmt.decimal v)) = _
  rw [ofJVal_mapNums fmt v h]

/-- Numbers in their exact decimal texts. -/
def exactFormat : NumberFormat where
  text q :=
    match numberOf q with
    | .finite x => exactText x
    | .nan => [byte '0']
    | .infinity _ => [byte '0']
  reads q x hx := by
    have hself : Kit.Float.binary64.round x = some x := Kit.Float.Format.round_round hx
    have hq : numberOf q = .finite ⟨x, hself⟩ := numberOf_finite_iff.mpr hx
    rw [hq]
    exact ⟨x, numberValue_exactText _, hself⟩

/-! ## The order of properties -/

mutual

/-- A value with the properties of its objects in order. -/
def Value.sorted : Value → Value
  | .array xs => .array (valuesSorted xs)
  | .object m => .object ((fieldsSorted m).mergeSort keyLe)
  | .null => .null
  | .bool b => .bool b
  | .string s => .string s
  | .number x => .number x

def valuesSorted : List Value → List Value
  | [] => []
  | x :: xs => x.sorted :: valuesSorted xs

def fieldsSorted : List (String × Value) → List (String × Value)
  | [] => []
  | (k, x) :: m => (k, x.sorted) :: fieldsSorted m

end

theorem fieldsSorted_eq (m : List (String × Value)) :
    fieldsSorted m = m.map fun kv => (kv.1, kv.2.sorted) := by
  induction m with
  | nil => rfl
  | cons kv m ih => rw [fieldsSorted, ih, List.map_cons]

theorem fieldsWritten_eq (m : List (String × Value)) :
    fieldsWritten m = m.map fun kv => (kv.1, kv.2.written) := by
  induction m with
  | nil => rfl
  | cons kv m ih => rw [fieldsWritten, ih, List.map_cons]

/-- Sorting by key and changing what stands under the keys. -/
theorem map_mergeSort_keys {α β : Type} (f : α → β) (m : List (String × α)) :
    (m.mergeSort keyLe).map (fun kv => (kv.1, f kv.2)) =
      (m.map fun kv => (kv.1, f kv.2)).mergeSort keyLe :=
  List.map_mergeSort fun _ _ _ _ => rfl

theorem nodup_mergeSort_keys {α : Type} {m : List (String × α)} (h : (m.map Prod.fst).Nodup) :
    ((m.mergeSort keyLe).map Prod.fst).Nodup :=
  ((List.mergeSort_perm m keyLe).map Prod.fst).nodup_iff.mpr h

theorem lookup_eq_some_iff_mem {α : Type} {m : List (String × α)} (h : (m.map Prod.fst).Nodup)
    {k : String} {v : α} : m.lookup k = some v ↔ (k, v) ∈ m := by
  constructor
  · intro hlookup
    obtain ⟨before, after, heq, -⟩ := List.lookup_eq_some_iff.mp hlookup
    rw [heq]
    simp
  · exact fun hmem => lookup_of_mem h hmem

/-- Different keys are found wherever they stand. -/
theorem lookup_mergeSort_keys {α : Type} {m : List (String × α)} (h : (m.map Prod.fst).Nodup)
    (k : String) : (m.mergeSort keyLe).lookup k = m.lookup k := by
  apply Option.ext
  intro v
  rw [lookup_eq_some_iff_mem h, lookup_eq_some_iff_mem (nodup_mergeSort_keys h),
    List.mem_mergeSort]

/-- **The order of properties changes none.** -/
theorem prop_sorted {v : Value} (h : v.Distinct) (k : String) :
    v.sorted.prop k = (v.prop k).map Value.sorted := by
  cases v with
  | object m =>
    rw [Value.Distinct] at h
    have hnodup : ((fieldsSorted m).map Prod.fst).Nodup := by
      rw [fieldsSorted_eq, List.map_map]
      exact h.1
    rw [Value.sorted, Value.prop, Value.prop, lookup_mergeSort_keys hnodup, fieldsSorted_eq]
    clear h hnodup
    induction m with
    | nil => rfl
    | cons kv m ih =>
      rw [List.map_cons, List.lookup_cons, List.lookup_cons]
      split
      · rfl
      · exact ih
  | null => rfl
  | bool b => rfl
  | string s => rfl
  | number x => rfl
  | array xs => rfl

/-! ## What comes back -/

/-- Sorted members under different keys are the properties of an object. -/
theorem ofJVal_sortedMembers {m : JObj} {fields : List (String × Value)}
    (hnodup : (fields.map Prod.fst).Nodup) (h : fieldsOf m = fields) :
    Value.ofJVal (.obj (m.mergeSort keyLe)) = .object (fields.mergeSort keyLe) := by
  rw [Value.ofJVal, fieldsOf_eq, map_mergeSort_keys, ← fieldsOf_eq, h,
    fromEntries_eq (nodup_mergeSort_keys hnodup)]

theorem keys_fieldsSorted_written (m : List (String × Value)) :
    (fieldsSorted (fieldsWritten m)).map Prod.fst = m.map Prod.fst := by
  rw [fieldsSorted_eq, fieldsWritten_eq, List.map_map, List.map_map]
  rfl

mutual

/-- **What a script wrote comes back**, once it was decoded by the server and written as a map, with
its properties in order. -/
theorem ofJVal_decoded : ∀ v : Value, v.Distinct →
    Value.ofJVal (Go.sorted v.decoded) = v.written.sorted
  | .null, _ => rfl
  | .bool _, _ => rfl
  | .string _, _ => rfl
  | .number (.finite x), _ => by
    rw [Value.decoded, Go.sorted, Value.ofJVal, numberOf_val, Value.written, Value.sorted]
  | .number .nan, _ => rfl
  | .number (.infinity _), _ => rfl
  | .array xs, h => by
    rw [Value.Distinct] at h
    rw [Value.decoded, Go.sorted, Value.ofJVal, valuesOf_decoded xs h, Value.written, Value.sorted]
  | .object m, h => by
    rw [Value.Distinct] at h
    have hnodup : ((fieldsSorted (fieldsWritten m)).map Prod.fst).Nodup := by
      rw [keys_fieldsSorted_written]
      exact h.1
    rw [Value.decoded, Go.sorted, Value.written, Value.sorted]
    exact ofJVal_sortedMembers hnodup (fieldsOf_decoded m h.2)

theorem valuesOf_decoded : ∀ xs : List Value, ItemsDistinct xs →
    valuesOf (itemsSorted (itemsDecoded xs)) = valuesSorted (itemsWritten xs)
  | [], _ => rfl
  | x :: xs, h => by
    rw [itemsDecoded, itemsSorted, valuesOf, ofJVal_decoded x h.1, valuesOf_decoded xs h.2,
      itemsWritten, valuesSorted]

theorem fieldsOf_decoded : ∀ m : List (String × Value), FieldsDistinct m →
    fieldsOf (membersSorted (fieldsDecoded m)) = fieldsSorted (fieldsWritten m)
  | [], _ => rfl
  | (k, x) :: m, h => by
    rw [fieldsDecoded, membersSorted, fieldsOf, ofJVal_decoded x h.1, fieldsOf_decoded m h.2,
      fieldsWritten, fieldsSorted]

end

end Js
