import SubstrateControl.Js.Object

/-!
# What is decoded of a written value

A value that JavaScript wrote as JSON, once Go has decoded it into an `any`.

* `Value.Distinct` — no object has two properties of one name, as for all values of the language.
* `Value.decoded` — the value with the numbers it had; those that are not finite became null.
* `decodeAny_toJVal` — that is what is decoded, whatever texts the engine writes for numbers.
* `Tidy` — a value without such properties that is not too deep, by how it is built.
-/

set_option autoImplicit false

namespace Js

open Go

mutual

/-- No object in a value has two properties of one name. -/
def Value.Distinct : Value → Prop
  | .array xs => ItemsDistinct xs
  | .object m => (m.map Prod.fst).Nodup ∧ FieldsDistinct m
  | .null => True
  | .bool _ => True
  | .string _ => True
  | .number _ => True

def ItemsDistinct : List Value → Prop
  | [] => True
  | x :: xs => x.Distinct ∧ ItemsDistinct xs

def FieldsDistinct : List (String × Value) → Prop
  | [] => True
  | (_, x) :: m => x.Distinct ∧ FieldsDistinct m

end

mutual

/-- What is decoded of a written value. -/
def Value.decoded : Value → JVal
  | .null => .null
  | .bool b => .bool b
  | .string s => .str s
  | .number (.finite x) => .num x.val
  | .number .nan => .null
  | .number (.infinity _) => .null
  | .array xs => .arr (itemsDecoded xs)
  | .object m => .obj (fieldsDecoded m)

def itemsDecoded : List Value → List JVal
  | [] => []
  | x :: xs => x.decoded :: itemsDecoded xs

def fieldsDecoded : List (String × Value) → JObj
  | [] => []
  | (k, x) :: m => (k, x.decoded) :: fieldsDecoded m

end

variable (n : NumberToString)

mutual

/-- **What is decoded of a written value.** -/
theorem decodeAny_toJVal : ∀ v : Value, v.Distinct →
    decodeAny parseFloat (v.toJVal n) = some v.decoded
  | .null, _ => rfl
  | .bool _, _ => rfl
  | .string _, _ => rfl
  | .number (.finite x), _ => by
    rw [Value.toJVal, decodeAny, n.parseFloat_decimal]
    rfl
  | .number .nan, _ => rfl
  | .number (.infinity _), _ => rfl
  | .array xs, h => by
    rw [Value.Distinct] at h
    rw [Value.toJVal, decodeAny, decodeElems_toJVal xs h]
    rfl
  | .object m, h => by
    rw [Value.Distinct] at h
    rw [Value.toJVal, decodeAny, decodeMembers_toJVal m [] h.2 (by simpa using h.1)]
    rfl

theorem decodeElems_toJVal : ∀ xs : List Value, ItemsDistinct xs →
    decodeElems parseFloat (itemsToJVal n xs) = some (itemsDecoded xs)
  | [], _ => rfl
  | x :: xs, h => by
    rw [ItemsDistinct] at h
    rw [itemsToJVal, decodeElems, decodeAny_toJVal x h.1, decodeElems_toJVal xs h.2]
    rfl

/-- Into a map without these names. -/
theorem decodeMembers_toJVal : ∀ (m : List (String × Value)) (into : JObj), FieldsDistinct m →
    (into.map Prod.fst ++ m.map Prod.fst).Nodup →
      decodeMembers parseFloat into (fieldsToJVal n m) = some (into ++ fieldsDecoded m)
  | [], into, _, _ => by
    rw [fieldsToJVal, decodeMembers, fieldsDecoded, List.append_nil]
  | (k, x) :: m, into, h, hnodup => by
    rw [FieldsDistinct] at h
    have hfresh : k ∉ into.map Prod.fst := by
      rw [List.map_cons, List.nodup_append] at hnodup
      exact fun hmem => hnodup.2.2 k hmem k List.mem_cons_self rfl
    have hrest : ((into ++ [(k, x.decoded)]).map Prod.fst ++ m.map Prod.fst).Nodup := by
      rw [List.map_append, List.append_assoc]
      exact hnodup
    have hset : JObj.set into k x.decoded = into ++ [(k, x.decoded)] := mapSet_fresh _ hfresh
    rw [fieldsToJVal, decodeMembers, decodeAny_toJVal x h.1]
    dsimp only
    rw [hset, decodeMembers_toJVal m _ h.2 hrest, List.append_assoc]
    rfl

end

/-- An object that is decoded into a map. -/
theorem decodeMap_toJVal {m : List (String × Value)} (h : (Value.object m).Distinct) :
    decodeMap parseFloat [] ((Value.object m).toJVal n) = some (fieldsDecoded m) := by
  rw [Value.Distinct] at h
  rw [Value.toJVal, decodeMap, decodeMembers_toJVal n m [] h.2 (by simpa using h.1)]
  rfl

/-! ## Values that are built up -/

/-- A value without double properties, with at most `depth` arrays and objects around another. -/
structure Tidy (depth : ℕ) (v : Value) : Prop where
  distinct : v.Distinct
  shallow : v.depth ≤ depth

theorem Tidy.mono {depth depth' : ℕ} {v : Value} (h : Tidy depth v) (hle : depth ≤ depth') :
    Tidy depth' v :=
  ⟨h.distinct, h.shallow.trans hle⟩

theorem tidy_string (depth : ℕ) (s : String) : Tidy depth (.string s) :=
  ⟨trivial, Nat.zero_le _⟩

theorem tidy_number (depth : ℕ) (x : Number) : Tidy depth (.number x) :=
  ⟨trivial, Nat.zero_le _⟩

theorem tidy_array {depth : ℕ} {xs : List Value} (h : ∀ v ∈ xs, Tidy depth v) :
    Tidy (depth + 1) (.array xs) := by
  have hitems : ItemsDistinct xs ∧ itemsDepth xs ≤ depth := by
    induction xs with
    | nil => exact ⟨trivial, Nat.zero_le _⟩
    | cons v xs ih =>
      obtain ⟨hdistinct, hshallow⟩ := ih fun w hw => h w (List.mem_cons_of_mem _ hw)
      have hv := h v List.mem_cons_self
      exact ⟨⟨hv.distinct, hdistinct⟩, Nat.max_le.mpr ⟨hv.shallow, hshallow⟩⟩
  exact ⟨hitems.1, Nat.succ_le_succ hitems.2⟩

theorem tidy_object {depth : ℕ} {m : List (String × Value)} (hnodup : (m.map Prod.fst).Nodup)
    (h : ∀ kv ∈ m, Tidy depth kv.2) : Tidy (depth + 1) (.object m) := by
  have hfields : FieldsDistinct m ∧ fieldsDepth m ≤ depth := by
    clear hnodup
    induction m with
    | nil => exact ⟨trivial, Nat.zero_le _⟩
    | cons kv m ih =>
      obtain ⟨hdistinct, hshallow⟩ := ih fun w hw => h w (List.mem_cons_of_mem _ hw)
      have hkv := h kv List.mem_cons_self
      exact ⟨⟨hkv.distinct, hdistinct⟩, Nat.max_le.mpr ⟨hkv.shallow, hshallow⟩⟩
  exact ⟨⟨hnodup, hfields.1⟩, Nat.succ_le_succ hfields.2⟩

theorem nodup_mapSet {α : Type} {m : List (String × α)} (k : String) (v : α)
    (hm : (m.map Prod.fst).Nodup) : ((mapSet m k v).map Prod.fst).Nodup := by
  by_cases hk : k ∈ m.map Prod.fst
  · have hany : (m.any fun kv => kv.1 == k) = true := by
      obtain ⟨kv, hkv, rfl⟩ := List.mem_map.mp hk
      exact List.any_eq_true.mpr ⟨kv, hkv, beq_self_eq_true _⟩
    have hkeys : (mapSet m k v).map Prod.fst = m.map Prod.fst := by
      unfold mapSet
      rw [if_pos hany, List.map_map]
      apply List.map_congr_left
      intro kv _
      show (if (kv.1 == k) = true then (k, v) else kv).1 = kv.1
      split
      · rename_i heq
        exact (eq_of_beq heq).symm
      · rfl
    rw [hkeys]
    exact hm
  · rw [mapSet_fresh v hk, List.map_append]
    refine hm.append (List.nodup_singleton k) ?_
    intro k' hk' hmem
    obtain rfl : k' = k := List.mem_singleton.mp hmem
    exact hk hk'

/-- What `Object.fromEntries` makes has each key once. -/
theorem nodup_fromEntries {α : Type} (entries : List (String × α)) :
    ((fromEntries entries).map Prod.fst).Nodup := by
  have hfold : ∀ (es m : List (String × α)), (m.map Prod.fst).Nodup →
      ((es.foldl (fun m e => mapSet m e.1 e.2) m).map Prod.fst).Nodup := by
    intro es
    induction es with
    | nil => exact fun _ hm => hm
    | cons e es ih => exact fun m hm => ih _ (nodup_mapSet e.1 e.2 hm)
  exact hfold entries [] List.nodup_nil

theorem fromEntries_ne_nil {α : Type} {entries : List (String × α)} (h : entries ≠ []) :
    fromEntries entries ≠ [] := by
  have hset : ∀ (m : List (String × α)) (k : String) (v : α), mapSet m k v ≠ [] := by
    intro m k v
    unfold mapSet
    split
    · rename_i hany
      rintro hnil
      rw [List.map_eq_nil_iff.mp hnil] at hany
      cases hany
    · simp
  have hfold : ∀ (es m : List (String × α)), m ≠ [] →
      es.foldl (fun m e => mapSet m e.1 e.2) m ≠ [] := by
    intro es
    induction es with
    | nil => exact fun _ hm => hm
    | cons e es ih => exact fun m _ => ih _ (hset m e.1 e.2)
  cases entries with
  | nil => exact absurd rfl h
  | cons e es => exact hfold es _ (hset [] e.1 e.2)

/-- A property that is there under a condition. -/
theorem keys_optional {α : Type} (p : Prop) [Decidable p] (e : String × α) :
    ((if p then [e] else []).map Prod.fst).Sublist [e.1] := by
  split
  · exact List.Sublist.refl _
  · exact List.nil_sublist _

theorem forall_mem_optional {α : Type} {p : Prop} [Decidable p] {e : α} {P : α → Prop} (h : P e) :
    ∀ x ∈ (if p then [e] else []), P x := by
  intro x hx
  split at hx
  · rw [List.mem_singleton] at hx
    rw [hx]
    exact h
  · cases hx

end Js
