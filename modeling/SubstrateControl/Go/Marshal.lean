import SubstrateControl.Go.Decode
import SubstrateControl.Go.JsonCut
import SubstrateControl.Go.JsonEncode
import SubstrateControl.Go.Maps

/-!
# Writing decoded values

How `encoding/json` writes what was decoded into an `any`, with HTML escaping off.

* `NumberFormat` — how its numbers are written.
* `sorted` — a value with the keys of its maps in order, as maps are written.
* `marshal` — a value in the order it is given.
* `mapNums` — a value with other numbers.
* `value_marshal` — a written value is read back, its numbers by their texts.
* `structJVal` — a struct, whose fields may be omitted.
-/

set_option autoImplicit false

namespace Go

/-- How an int64 and a float64 are written: the text is read as the number, or as one that is
rounded to it. -/
structure NumberFormat where
  text : ℚ → List UInt8
  reads : ∀ q x, parseFloat q = some x →
    ∃ p, numberValue (text q) = some p ∧ parseFloat p = some x

/-- The order in which the keys of a map are written. -/
def keyLe {α : Type} (e e' : String × α) : Bool := decide (e.1 ≤ e'.1)

mutual

/-- A value with the keys of its maps in order. -/
def sorted : JVal → JVal
  | .arr xs => .arr (itemsSorted xs)
  | .obj m => .obj ((membersSorted m).mergeSort keyLe)
  | .null => .null
  | .bool b => .bool b
  | .str s => .str s
  | .num q => .num q

def itemsSorted : List JVal → List JVal
  | [] => []
  | x :: xs => sorted x :: itemsSorted xs

def membersSorted : JObj → JObj
  | [] => []
  | (k, x) :: m => (k, sorted x) :: membersSorted m

end

section

variable (fmt : NumberFormat)

mutual

/-- A value, with the members of its objects in the order they have. -/
def marshal : JVal → List UInt8
  | .null => utf8 "null".toList
  | .bool b => utf8 (if b then "true" else "false").toList
  | .num q => fmt.text q
  | .str s => encodeString (utf8 s.toList)
  | .arr [] => [byte '[', byte ']']
  | .arr (x :: xs) => byte '[' :: (marshal x ++ marshalItems xs ++ [byte ']'])
  | .obj [] => [byte '\x7b', byte '\x7d']
  | .obj ((k, x) :: m) =>
    byte '\x7b' ::
      (encodeString (utf8 k.toList) ++ byte ':' :: (marshal x ++ marshalMembers m) ++
        [byte '\x7d'])

def marshalItems : List JVal → List UInt8
  | [] => []
  | x :: xs => byte ',' :: (marshal x ++ marshalItems xs)

def marshalMembers : JObj → List UInt8
  | [] => []
  | (k, x) :: m =>
    byte ',' :: (encodeString (utf8 k.toList) ++ byte ':' :: (marshal x ++ marshalMembers m))

end

/-- `json.Encoder.Encode`. -/
def marshalLine (v : JVal) : List UInt8 := marshal fmt v ++ [byte '\n']

end

mutual

/-- A value with other numbers. -/
def mapNums (f : ℚ → ℚ) : JVal → JVal
  | .num q => .num (f q)
  | .arr xs => .arr (mapNumsItems f xs)
  | .obj m => .obj (mapNumsMembers f m)
  | .null => .null
  | .bool b => .bool b
  | .str s => .str s

def mapNumsItems (f : ℚ → ℚ) : List JVal → List JVal
  | [] => []
  | x :: xs => mapNums f x :: mapNumsItems f xs

def mapNumsMembers (f : ℚ → ℚ) : JObj → JObj
  | [] => []
  | (k, x) :: m => (k, mapNums f x) :: mapNumsMembers f m

end

/-! ## Lists of items and members -/

theorem membersSorted_eq (m : JObj) : membersSorted m = m.map fun kv => (kv.1, sorted kv.2) := by
  induction m with
  | nil => rfl
  | cons kv m ih => rw [membersSorted, ih, List.map_cons]

theorem mapNumsItems_eq (f : ℚ → ℚ) (xs : List JVal) :
    mapNumsItems f xs = xs.map (mapNums f) := by
  induction xs with
  | nil => rfl
  | cons x xs ih => rw [mapNumsItems, ih, List.map_cons]

theorem mapNumsMembers_eq (f : ℚ → ℚ) (m : JObj) :
    mapNumsMembers f m = m.map fun kv => (kv.1, mapNums f kv.2) := by
  induction m with
  | nil => rfl
  | cons kv m ih => rw [mapNumsMembers, ih, List.map_cons]

theorem marshalItems_eq (fmt : NumberFormat) (xs : List JVal) :
    marshalItems fmt xs = xs.flatMap fun w => byte ',' :: marshal fmt w := by
  induction xs with
  | nil => rfl
  | cons x xs ih =>
    rw [marshalItems, ih, List.flatMap_cons]
    rfl

theorem marshalMembers_eq (fmt : NumberFormat) (m : JObj) :
    marshalMembers fmt m = m.flatMap fun kv =>
      byte ',' :: (encodeString (utf8 kv.1.toList) ++ byte ':' :: marshal fmt kv.2) := by
  induction m with
  | nil => rfl
  | cons kv m ih =>
    rw [marshalMembers, ih, List.flatMap_cons]
    simp

theorem mem_numsElems {q : ℚ} : ∀ {xs : List JVal} {v : JVal}, v ∈ xs → q ∈ nums v →
    q ∈ numsElems xs
  | [], _, h, _ => by cases h
  | x :: xs, v, h, hq => by
    rw [numsElems, List.mem_append]
    rcases List.mem_cons.mp h with rfl | h
    · exact Or.inl hq
    · exact Or.inr (mem_numsElems h hq)

theorem mem_numsMembers {q : ℚ} : ∀ {m : JObj} {kv : String × JVal}, kv ∈ m → q ∈ nums kv.2 →
    q ∈ numsMembers m
  | [], _, h, _ => by cases h
  | (k, x) :: m, kv, h, hq => by
    rw [numsMembers, List.mem_append]
    rcases List.mem_cons.mp h with rfl | h
    · exact Or.inl hq
    · exact Or.inr (mem_numsMembers h hq)

/-! ## What was written is read -/

/-- The numbers of a value are finite, as those of a decoded one are. -/
def FiniteNums (v : JVal) : Prop := ∀ q ∈ nums v, (parseFloat q).isSome = true

/-- The value the text of a number has. -/
def NumberFormat.decimal (fmt : NumberFormat) (q : ℚ) : ℚ := (numberValue (fmt.text q)).getD 0

theorem NumberFormat.decimal_spec (fmt : NumberFormat) {q : ℚ}
    (h : (parseFloat q).isSome = true) :
    numberValue (fmt.text q) = some (fmt.decimal q) ∧ parseFloat (fmt.decimal q) = parseFloat q := by
  obtain ⟨x, hx⟩ := Option.isSome_iff_exists.mp h
  obtain ⟨p, hp, hround⟩ := fmt.reads q x hx
  unfold decimal
  rw [hp, Option.getD_some]
  exact ⟨rfl, hround.trans hx.symm⟩

theorem quotes_utf8 (s : String) : Quotes (utf8 (escapeText (utf8 s.toList))) s := by
  have hquotes := quotes_escapeText (utf8 s.toList)
  rwa [textOf, runes_utf8, String.ofList_toList] at hquotes

/-- The first byte of a value is no white space and closes no array. -/
theorem marshal_head (fmt : NumberFormat) {v : JVal} (h : FiniteNums v) :
    ∃ b t, marshal fmt v = b :: t ∧ isSpaceByte b = false ∧ b ≠ byte ']' := by
  cases v with
  | null => exact ⟨byte 'n', _, by rw [marshal]; rfl, by decide, by decide⟩
  | bool b =>
    rw [marshal]
    cases b with
    | false => exact ⟨byte 'f', _, rfl, by decide, by decide⟩
    | true => exact ⟨byte 't', _, rfl, by decide, by decide⟩
  | str s => exact ⟨byte '"', _, by rw [marshal, encodeString], by decide, by decide⟩
  | num q =>
    obtain ⟨hnumber, -⟩ := fmt.decimal_spec (h q (List.mem_singleton_self q))
    obtain ⟨b, t, hb, hstart⟩ := numberValue_head hnumber
    exact ⟨b, t, by rw [marshal, hb], hstart.space, hstart.close⟩
  | arr xs => cases xs <;> exact ⟨byte '[', _, by rw [marshal], by decide, by decide⟩
  | obj m => cases m <;> exact ⟨byte '\x7b', _, by rw [marshal], by decide, by decide⟩

mutual

/-- **A written value is read back**, its numbers by their texts. -/
theorem value_marshal (fmt : NumberFormat) : ∀ (v : JVal) (depth : ℕ) (x : List UInt8),
    FiniteNums v → nesting v ≤ depth → Ends (mapNums fmt.decimal v).isNum x →
      value depth (marshal fmt v ++ x) = some (mapNums fmt.decimal v, x)
  | .null, depth, x, _, _, _ => by
    rw [marshal]
    exact value_null depth x
  | .bool b, depth, x, _, _, _ => by
    rw [marshal]
    exact value_encodeBool b depth x
  | .str s, depth, x, _, _, _ => by
    rw [marshal, encodeString, List.cons_append, List.append_assoc, List.singleton_append, mapNums]
    exact value_quoted (quotes_utf8 s) depth x
  | .num q, depth, x, hfinite, _, hx => by
    obtain ⟨hnumber, -⟩ := fmt.decimal_spec (hfinite q (List.mem_singleton_self q))
    exact value_number hnumber depth hx
  | .arr xs, depth + 1, x, hfinite, hdepth, _ => by
    have hitem := items_marshal fmt xs
    cases xs with
    | nil =>
      rw [marshal, List.cons_append, List.singleton_append]
      exact value_emptyArray depth x
    | cons v vs =>
      have hfin : ∀ w ∈ v :: vs, FiniteNums w := fun w hw q hq => hfinite q (mem_numsElems hw hq)
      obtain ⟨b, t, hb, hspace, hclose⟩ := marshal_head fmt (hfin v List.mem_cons_self)
      have hdepths := itemsNesting_le.mp (Nat.le_refl (itemsNesting (v :: vs)))
      rw [nesting] at hdepth
      have harray := @value_array JVal depth (marshal fmt) (mapNums fmt.decimal) x v vs
        (fun w hw y hy => hitem w hw depth y (hfin w hw)
          (by have hw := hdepths w hw; omega) hy) b t hb hspace hclose
      rw [marshal, marshalItems_eq, mapNums, mapNumsItems_eq, List.cons_append,
        List.append_assoc, List.singleton_append]
      exact harray
  | .obj m, depth + 1, x, hfinite, hdepth, _ => by
    have hitem := members_marshal fmt m
    cases m with
    | nil =>
      rw [marshal, List.cons_append, List.singleton_append]
      exact value_emptyObject depth x
    | cons kv m =>
      have hfin : ∀ kv' ∈ kv :: m, FiniteNums kv'.2 := fun kv' hkv' q hq =>
        hfinite q (mem_numsMembers hkv' hq)
      have hdepths := membersNesting_le.mp (Nat.le_refl (membersNesting (kv :: m)))
      rw [nesting] at hdepth
      have hobject := @value_object (String × JVal) depth (fun kv => marshal fmt kv.2)
        (fun kv => mapNums fmt.decimal kv.2) _ _ (fun kv => quotes_utf8 kv.1) x kv m
        (fun kv' hkv' y hy => hitem kv' hkv' depth y (hfin kv' hkv')
          (by have hkv' := hdepths kv' hkv'; omega) hy)
      rw [mapNums, mapNumsMembers_eq, marshal, marshalMembers_eq]
      simp only [encodeString, List.cons_append, List.append_assoc, List.nil_append] at hobject ⊢
      exact hobject
  | .arr xs, 0, x, _, hdepth, _ => by
    simp [nesting] at hdepth
  | .obj m, 0, x, _, hdepth, _ => by
    simp [nesting] at hdepth

theorem items_marshal (fmt : NumberFormat) : ∀ xs : List JVal, ∀ v ∈ xs, ∀ (depth : ℕ)
    (x : List UInt8), FiniteNums v → nesting v ≤ depth →
      Ends (mapNums fmt.decimal v).isNum x →
        value depth (marshal fmt v ++ x) = some (mapNums fmt.decimal v, x)
  | [], _, h, _, _, _, _, _ => by cases h
  | v :: vs, w, h, depth, x, hfinite, hdepth, hx => by
    rcases List.mem_cons.mp h with heq | h
    · rw [heq] at hfinite hdepth hx ⊢
      exact value_marshal fmt v depth x hfinite hdepth hx
    · exact items_marshal fmt vs w h depth x hfinite hdepth hx

theorem members_marshal (fmt : NumberFormat) : ∀ m : JObj, ∀ kv ∈ m, ∀ (depth : ℕ)
    (x : List UInt8), FiniteNums kv.2 → nesting kv.2 ≤ depth →
      Ends (mapNums fmt.decimal kv.2).isNum x →
        value depth (marshal fmt kv.2 ++ x) = some (mapNums fmt.decimal kv.2, x)
  | [], _, h, _, _, _, _, _ => by cases h
  | (k, v) :: m, kv, h, depth, x, hfinite, hdepth, hx => by
    rcases List.mem_cons.mp h with heq | h
    · rw [heq] at hfinite hdepth hx ⊢
      exact value_marshal fmt v depth x hfinite hdepth hx
    · exact members_marshal fmt m kv h depth x hfinite hdepth hx

end

mutual

/-- Every level of nesting is opened by a byte. -/
theorem nesting_le_length (fmt : NumberFormat) : ∀ v : JVal, nesting v ≤ (marshal fmt v).length
  | .null => Nat.zero_le _
  | .bool _ => Nat.zero_le _
  | .str _ => Nat.zero_le _
  | .num _ => Nat.zero_le _
  | .arr [] => by simp [nesting, itemsNesting, marshal]
  | .arr (x :: xs) => by
    have hx := nesting_le_length fmt x
    have hxs := itemsNesting_le_length fmt xs
    rw [nesting, itemsNesting, marshal, List.length_cons, List.length_append, List.length_append]
    omega
  | .obj [] => by simp [nesting, membersNesting, marshal]
  | .obj ((k, x) :: m) => by
    have hx := nesting_le_length fmt x
    have hm := membersNesting_le_length fmt m
    rw [nesting, membersNesting, marshal, List.length_cons, List.length_append, List.length_append,
      List.length_cons, List.length_append]
    omega

theorem itemsNesting_le_length (fmt : NumberFormat) : ∀ xs : List JVal,
    itemsNesting xs ≤ (marshalItems fmt xs).length
  | [] => Nat.zero_le _
  | x :: xs => by
    have hx := nesting_le_length fmt x
    have hxs := itemsNesting_le_length fmt xs
    rw [itemsNesting, marshalItems, List.length_cons, List.length_append]
    omega

theorem membersNesting_le_length (fmt : NumberFormat) : ∀ m : JObj,
    membersNesting m ≤ (marshalMembers fmt m).length
  | [] => Nat.zero_le _
  | (k, x) :: m => by
    have hx := nesting_le_length fmt x
    have hm := membersNesting_le_length fmt m
    rw [membersNesting, marshalMembers, List.length_cons, List.length_append, List.length_cons,
      List.length_append]
    omega

end

/-! ## Structs -/

/-- The members of a struct: a field that is omitted is none. -/
def structMembers (fields : List (String × Option JVal)) : JObj :=
  fields.filterMap fun f => f.2.map (f.1, ·)

/-- A struct as it is written. -/
def structJVal (fields : List (String × Option JVal)) : JVal := .obj (structMembers fields)

theorem keys_structMembers (fields : List (String × Option JVal)) :
    ((structMembers fields).map Prod.fst).Sublist (fields.map Prod.fst) := by
  induction fields with
  | nil => exact List.Sublist.refl _
  | cons f fields ih =>
    obtain ⟨k, v⟩ := f
    cases v with
    | none => exact ih.cons k
    | some v => exact ih.cons_cons k

/-- A field that is not omitted is found. -/
theorem lookup_structMembers {fields : List (String × Option JVal)}
    (h : (fields.map Prod.fst).Nodup) (k : String) :
    (structMembers fields).lookup k = (fields.lookup k).join := by
  induction fields with
  | nil => rfl
  | cons f fields ih =>
    obtain ⟨j, v⟩ := f
    rw [List.map_cons, List.nodup_cons] at h
    have hrest := ih h.2
    by_cases hk : k = j
    · subst hk
      rw [List.lookup_cons_self]
      cases v with
      | some v => exact List.lookup_cons_self
      | none =>
        have hmissing : k ∉ (structMembers fields).map Prod.fst :=
          fun hmem => h.1 ((keys_structMembers fields).subset hmem)
        show (structMembers fields).lookup k = none
        rw [List.lookup_eq_none_iff]
        intro p hp
        rw [bne_iff_ne]
        rintro rfl
        exact hmissing (List.mem_map_of_mem hp)
    · rw [List.lookup_cons, beq_false_of_ne hk]
      cases v with
      | none => exact hrest
      | some v =>
        show List.lookup k ((j, v) :: structMembers fields) = _
        rw [List.lookup_cons, beq_false_of_ne hk]
        exact hrest

end Go
