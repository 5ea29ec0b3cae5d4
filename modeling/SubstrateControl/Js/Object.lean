import SubstrateControl.Js.Stringify

/-!
# Objects of ECMAScript

* `Value.prop` — a property of a value; `none` is undefined.
* `fromEntries` — `Object.fromEntries`.
* `Value.written` — a value as JSON carries it: a number that is not finite becomes null.
* `stringify_written` — the text of a value is that of what it is written as.
* `written_eq_self_iff` — the values JSON carries unchanged.
-/

set_option autoImplicit false

namespace Js

open Go

/-- `value?.key`, for a key that arrays and strings do not have. -/
def Value.prop : Value → String → Option Value
  | .object fields, key => fields.lookup key
  | .null, _ => none
  | .bool _, _ => none
  | .string _, _ => none
  | .number _, _ => none
  | .array _, _ => none

/-- `typeof value === "string" ? value : undefined`. -/
def Value.asString : Value → Option String
  | .string s => some s
  | .null => none
  | .bool _ => none
  | .number _ => none
  | .array _ => none
  | .object _ => none

@[simp] theorem asString_string (s : String) : (Value.string s).asString = some s := rfl

theorem asString_eq_some {v : Value} {s : String} : v.asString = some s ↔ v = .string s := by
  cases v <;> simp [Value.asString]

/-- `Object.fromEntries`, with the properties in the order in which they were first set. -/
def fromEntries {α : Type} (entries : List (String × α)) : List (String × α) :=
  entries.foldl (fun m e => mapSet m e.1 e.2) []

theorem foldl_mapSet {α : Type} : ∀ (es m : List (String × α)),
    ((m ++ es).map (·.1)).Nodup → es.foldl (fun m e => mapSet m e.1 e.2) m = m ++ es
  | [], m, _ => by simp
  | e :: es, m, h => by
    have hnew : (m.any fun kv => kv.1 == e.1) = false := by
      rw [List.any_eq_false]
      intro kv hkv heq
      rw [List.map_append, List.nodup_append] at h
      exact h.2.2 kv.1 (List.mem_map_of_mem hkv) e.1 (by simp) (by simpa using heq)
    have hset : mapSet m e.1 e.2 = m ++ [e] := by simp [mapSet, hnew]
    rw [List.foldl_cons, hset, foldl_mapSet es (m ++ [e]) (by simpa using h)]
    simp

/-- Entries with different keys stay what they are. -/
theorem fromEntries_eq {α : Type} {es : List (String × α)} (h : (es.map (·.1)).Nodup) :
    fromEntries es = es :=
  foldl_mapSet es [] h

theorem lookup_of_mem {α : Type} {m : List (String × α)} (hnodup : (m.map (·.1)).Nodup)
    {e : String × α} (he : e ∈ m) : m.lookup e.1 = some e.2 := by
  induction m with
  | nil => cases he
  | cons x m ih =>
    obtain ⟨k, v⟩ := x
    rw [List.map_cons, List.nodup_cons] at hnodup
    rcases List.mem_cons.mp he with rfl | he
    · exact List.lookup_cons_self
    · have hne : e.1 ≠ k := fun heq => hnodup.1 (List.mem_map.mpr ⟨e, he, heq⟩)
      rw [List.lookup_cons, beq_false_of_ne hne]
      exact ih hnodup.2 he

/-! ## Values as JSON carries them -/

mutual

/-- What a value is written as. -/
def Value.written : Value → Value
  | .number (.finite x) => .number (.finite x)
  | .number .nan => .null
  | .number (.infinity _) => .null
  | .array xs => .array (itemsWritten xs)
  | .object m => .object (fieldsWritten m)
  | .null => .null
  | .bool b => .bool b
  | .string s => .string s

def itemsWritten : List Value → List Value
  | [] => []
  | x :: xs => x.written :: itemsWritten xs

def fieldsWritten : List (String × Value) → List (String × Value)
  | [] => []
  | (k, x) :: m => (k, x.written) :: fieldsWritten m

end

mutual

/-- All numbers in a value are finite. -/
def Value.finite : Value → Bool
  | .number (.finite _) => true
  | .number .nan => false
  | .number (.infinity _) => false
  | .array xs => itemsFinite xs
  | .object m => fieldsFinite m
  | .null => true
  | .bool _ => true
  | .string _ => true

def itemsFinite : List Value → Bool
  | [] => true
  | x :: xs => x.finite && itemsFinite xs

def fieldsFinite : List (String × Value) → Bool
  | [] => true
  | (_, x) :: m => x.finite && fieldsFinite m

end

mutual

/-- **JSON carries exactly the values without a number that is not finite.** -/
theorem written_eq_self_iff : ∀ v : Value, v.written = v ↔ v.finite = true
  | .null => by simp [Value.written, Value.finite]
  | .bool b => by simp [Value.written, Value.finite]
  | .string s => by simp [Value.written, Value.finite]
  | .number (.finite x) => by simp [Value.written, Value.finite]
  | .number .nan => by simp [Value.written, Value.finite]
  | .number (.infinity _) => by simp [Value.written, Value.finite]
  | .array xs => by
    rw [Value.written, Value.finite, Value.array.injEq]
    exact itemsWritten_eq_self_iff xs
  | .object m => by
    rw [Value.written, Value.finite, Value.object.injEq]
    exact fieldsWritten_eq_self_iff m

theorem itemsWritten_eq_self_iff : ∀ xs : List Value, itemsWritten xs = xs ↔ itemsFinite xs = true
  | [] => by simp [itemsWritten, itemsFinite]
  | x :: xs => by
    rw [itemsWritten, itemsFinite, List.cons.injEq, Bool.and_eq_true, written_eq_self_iff x,
      itemsWritten_eq_self_iff xs]

theorem fieldsWritten_eq_self_iff : ∀ m : List (String × Value),
    fieldsWritten m = m ↔ fieldsFinite m = true
  | [] => by simp [fieldsWritten, fieldsFinite]
  | (k, x) :: m => by
    rw [fieldsWritten, fieldsFinite, List.cons.injEq, Prod.mk.injEq, Bool.and_eq_true,
      written_eq_self_iff x, fieldsWritten_eq_self_iff m]
    simp

end

theorem fieldsWritten_lookup (key : String) : ∀ m : List (String × Value),
    (fieldsWritten m).lookup key = (m.lookup key).map Value.written
  | [] => rfl
  | (k, x) :: m => by
    rw [fieldsWritten, List.lookup_cons, List.lookup_cons]
    cases key == k with
    | true => rfl
    | false => exact fieldsWritten_lookup key m

/-- What is read of a written object. -/
theorem written_prop (v : Value) (key : String) :
    v.written.prop key = (v.prop key).map Value.written := by
  cases v with
  | number x => cases x <;> rfl
  | object m => exact fieldsWritten_lookup key m
  | null => rfl
  | bool b => rfl
  | string s => rfl
  | array xs => rfl

section

variable (n : NumberToString)

mutual

/-- **The text of a value is that of what it is written as.** -/
theorem stringify_written : ∀ v : Value, stringify n v.written = stringify n v
  | .null => rfl
  | .bool b => rfl
  | .string s => rfl
  | .number (.finite x) => rfl
  | .number .nan => rfl
  | .number (.infinity _) => rfl
  | .array [] => rfl
  | .array (x :: xs) => by
    rw [Value.written, itemsWritten, stringify, stringify, stringify_written x,
      stringifyItems_written xs]
  | .object [] => rfl
  | .object ((k, x) :: m) => by
    rw [Value.written, fieldsWritten, stringify, stringify, stringify_written x,
      stringifyFields_written m]

theorem stringifyItems_written : ∀ xs : List Value,
    stringifyItems n (itemsWritten xs) = stringifyItems n xs
  | [] => rfl
  | x :: xs => by
    rw [itemsWritten, stringifyItems, stringifyItems, stringify_written x,
      stringifyItems_written xs]

theorem stringifyFields_written : ∀ m : List (String × Value),
    stringifyFields n (fieldsWritten m) = stringifyFields n m
  | [] => rfl
  | (k, x) :: m => by
    rw [fieldsWritten, stringifyFields, stringifyFields, stringify_written x,
      stringifyFields_written m]

end

end

end Js
