import SubstrateControl.Go.JsonText
import SubstrateControl.Kit.Float

/-!
# JSON values as they are decoded

What `encoding/json` makes of a value that was read, for the targets the console decodes into.  The
conversion of numbers is a parameter: `parseFloat` for what the program gets, `some` for what the
text says.

* `decodeAny`, `decodeMembers` — into an `any` and into a map, which keeps the members it has.
* `matchField` — the field of a struct a name stands for, whatever its letter case.
* `Lift` — values of one structure whose numbers are related.
* `decodeAny_lift` — what is decoded has the structure of what the text says.
-/

set_option autoImplicit false

namespace Go

/-- `strconv.ParseFloat`, of the value a literal has; none where it is out of range. -/
def parseFloat (q : ℚ) : Option ℚ := Kit.Float.binary64.round q

/-- `Decoder.Decode` reads the first value of a text. -/
def firstValue (s : List UInt8) : Option JVal := (value maxNestingDepth s).map Prod.fst

theorem value_empty {s : List UInt8} (h : skipSpace s = []) : ∀ depth, value depth s = none
  | 0 => by
    rw [value, h]
    rfl
  | depth + 1 => by
    rw [value, h]
    rfl

/-- A text of white space holds no value. -/
theorem firstValue_empty {s : List UInt8} (h : skipSpace s = []) : firstValue s = none := by
  rw [firstValue, value_empty h]
  rfl

section

variable (conv : ℚ → Option ℚ)

mutual

/-- Into an `any`; none where a number cannot be converted. -/
def decodeAny : JVal → Option JVal
  | .null => some .null
  | .bool b => some (.bool b)
  | .num q => (conv q).map .num
  | .str s => some (.str s)
  | .arr xs => (decodeElems xs).map .arr
  | .obj m => (decodeMembers [] m).map .obj

def decodeElems : List JVal → Option (List JVal)
  | [] => some []
  | x :: xs =>
    match decodeAny x, decodeElems xs with
    | some y, some ys => some (y :: ys)
    | _, _ => none

/-- Into a map that has the members `into`; of a repeated name the last value stays. -/
def decodeMembers : (into : JObj) → List (String × JVal) → Option JObj
  | into, [] => some into
  | into, (k, x) :: m =>
    match decodeAny x with
    | none => none
    | some y => decodeMembers (JObj.set into k y) m

end

/-- Into a `map[string]any`; null makes the map nil. -/
def decodeMap (into : JObj) : JVal → Option JObj
  | .null => some []
  | .obj m => decodeMembers conv into m
  | _ => none

end

/-- Into a string; null leaves it as it is. -/
def decodeString (into : String) : JVal → Option String
  | .null => some into
  | .str s => some s
  | _ => none

/-- `json.Unmarshal(raw, &s)` for a string `s`. -/
def RawMessage.asString (raw : RawMessage) : Option String := decodeString "" raw.value

/-- `json.Unmarshal(raw, &m)` for a `map[string]any`. -/
def RawMessage.asMap (raw : RawMessage) : Option JObj := decodeMap parseFloat [] raw.value

/-- Into the elements of a `[]string`. -/
def decodeStringElems : (into : List String) → List JVal → Option (List String)
  | _, [] => some []
  | into, x :: xs =>
    match decodeString (into.headD "") x, decodeStringElems into.tail xs with
    | some s, some ss => some (s :: ss)
    | _, _ => none

/-- Into a `[]string`; null makes it nil. -/
def decodeStrings (into : List String) : JVal → Option (List String)
  | .null => some []
  | .arr xs => decodeStringElems into xs
  | _ => none

theorem decodeStringElems_str : ∀ into ss : List String,
    decodeStringElems into (ss.map .str) = some ss
  | _, [] => rfl
  | into, s :: ss => by
    rw [List.map_cons, decodeStringElems, decodeStringElems_str into.tail ss]
    rfl

/-- Into a `map[string]string`, nil being none. -/
def decodeStringMap (into : Option (List (String × String))) :
    JVal → Option (Option (List (String × String)))
  | .null => some none
  | .obj m =>
    (m.foldlM (fun labels kv => (decodeString "" kv.2).map fun s => mapSet labels kv.1 s)
      (into.getD [])).map some
  | _ => none

theorem mapSet_fresh {α : Type} {m : List (String × α)} {k : String} (v : α)
    (h : k ∉ m.map Prod.fst) : mapSet m k v = m ++ [(k, v)] := by
  unfold mapSet
  rw [if_neg]
  intro hany
  obtain ⟨kv, hkv, hk⟩ := List.any_eq_true.mp hany
  exact h (List.mem_map.mpr ⟨kv, hkv, beq_iff_eq.mp hk⟩)

/-- An object of strings with different names is a map with its members. -/
theorem decodeStringMap_str {labels : List (String × String)} (h : (labels.map Prod.fst).Nodup) :
    decodeStringMap none (.obj (labels.map fun kv => (kv.1, .str kv.2))) = some (some labels) := by
  have hfold : ∀ (rest into : List (String × String)), ((into ++ rest).map Prod.fst).Nodup →
      (rest.map fun kv => (kv.1, JVal.str kv.2)).foldlM
        (fun labels kv => (decodeString "" kv.2).map fun s => mapSet labels kv.1 s) into =
        some (into ++ rest) := by
    intro rest
    induction rest with
    | nil =>
      intro into _
      rw [List.append_nil]
      rfl
    | cons kv rest ih =>
      intro into hnodup
      have hfresh : kv.1 ∉ into.map Prod.fst := by
        rw [List.map_append, List.map_cons, List.nodup_append] at hnodup
        intro hmem
        exact hnodup.2.2 _ hmem _ List.mem_cons_self rfl
      have happend : into ++ kv :: rest = (into ++ [kv]) ++ rest := by simp
      rw [happend] at hnodup ⊢
      rw [← ih (into ++ [kv]) hnodup, ← mapSet_fresh kv.2 hfresh]
      rfl
  rw [decodeStringMap, Option.getD_none, hfold labels [] h]
  rfl

/-! ## Field names -/

/-- `foldRune`, as far as a result in ASCII goes: the letters, and the two runes outside ASCII that
fold to one. -/
def foldRune (c : Char) : Char :=
  if c = '\u017f' then 'S' else if c = '\u212a' then 'K' else c.toUpper

/-- `foldName`. -/
def foldName (name : String) : List Char := name.toList.map foldRune

/-- The field a name stands for: the one of that name, else one of that name but for letter case. -/
def matchField (fields : List String) (name : String) : Option String :=
  (fields.find? (· = name)).or (fields.find? fun field => foldName field = foldName name)

/-! ## Values of one structure -/

section

variable (R : ℚ → ℚ → Prop)

mutual

/-- The same value but for its numbers, which are related. -/
inductive Lift : JVal → JVal → Prop where
  | null : Lift .null .null
  | bool (b : Bool) : Lift (.bool b) (.bool b)
  | str (s : String) : Lift (.str s) (.str s)
  | num {p q : ℚ} : R p q → Lift (.num p) (.num q)
  | arr {xs ys : List JVal} : LiftElems xs ys → Lift (.arr xs) (.arr ys)
  | obj {m n : List (String × JVal)} : LiftMembers m n → Lift (.obj m) (.obj n)

inductive LiftElems : List JVal → List JVal → Prop where
  | nil : LiftElems [] []
  | cons {x y : JVal} {xs ys : List JVal} :
      Lift x y → LiftElems xs ys → LiftElems (x :: xs) (y :: ys)

inductive LiftMembers : List (String × JVal) → List (String × JVal) → Prop where
  | nil : LiftMembers [] []
  | cons {k : String} {x y : JVal} {m n : List (String × JVal)} :
      Lift x y → LiftMembers m n → LiftMembers ((k, x) :: m) ((k, y) :: n)

end

end

mutual

/-- The numbers in a value. -/
def nums : JVal → List ℚ
  | .num q => [q]
  | .arr xs => numsElems xs
  | .obj m => numsMembers m
  | .null => []
  | .bool _ => []
  | .str _ => []

def numsElems : List JVal → List ℚ
  | [] => []
  | x :: xs => nums x ++ numsElems xs

def numsMembers : List (String × JVal) → List ℚ
  | [] => []
  | (_, x) :: m => nums x ++ numsMembers m

end

/-! ## Related values -/

section

variable {R S : ℚ → ℚ → Prop}

mutual

/-- **Where the relation determines the number**, values it relates are related by another exactly
when their numbers are. -/
theorem Lift.iff_nums (hR : ∀ p q q', R p q → R p q' → q = q') : ∀ {u w : JVal}, Lift R u w →
    (Lift S u w ↔ ∀ p ∈ nums u, ∃ q, R p q ∧ S p q)
  | _, _, .null => iff_of_true .null (by simp [nums])
  | _, _, .bool b => iff_of_true (.bool b) (by simp [nums])
  | _, _, .str s => iff_of_true (.str s) (by simp [nums])
  | _, _, .num (p := p) (q := q) h => by
    constructor
    · rintro (⟨⟩ | ⟨⟩ | ⟨⟩ | hS) p' hp'
      rw [nums, List.mem_singleton] at hp'
      subst hp'
      exact ⟨q, h, hS⟩
    · intro hall
      obtain ⟨q', hq', hS⟩ := hall p (by simp [nums])
      rw [← hR p q q' h hq'] at hS
      exact .num hS
  | _, _, .arr h => by
    rw [nums, ← h.iff_nums hR]
    constructor
    · intro hS
      cases hS with
      | arr hS => exact hS
    · exact .arr
  | _, _, .obj h => by
    rw [nums, ← h.iff_nums hR]
    constructor
    · intro hS
      cases hS with
      | obj hS => exact hS
    · exact .obj

theorem LiftElems.iff_nums (hR : ∀ p q q', R p q → R p q' → q = q') : ∀ {xs ys : List JVal},
    LiftElems R xs ys → (LiftElems S xs ys ↔ ∀ p ∈ numsElems xs, ∃ q, R p q ∧ S p q)
  | _, _, .nil => iff_of_true .nil (by simp [numsElems])
  | _, _, .cons h hs => by
    have ih := h.iff_nums hR
    have ihs := hs.iff_nums hR
    constructor
    · intro hS
      cases hS with
      | cons hx hxs =>
        intro p hp
        rw [numsElems, List.mem_append] at hp
        rcases hp with hp | hp
        · exact ih.mp hx p hp
        · exact ihs.mp hxs p hp
    · intro hall
      rw [numsElems] at hall
      exact .cons (ih.mpr fun p hp => hall p (by simp [hp]))
        (ihs.mpr fun p hp => hall p (by simp [hp]))

theorem LiftMembers.iff_nums (hR : ∀ p q q', R p q → R p q' → q = q') :
    ∀ {m n : List (String × JVal)}, LiftMembers R m n →
      (LiftMembers S m n ↔ ∀ p ∈ numsMembers m, ∃ q, R p q ∧ S p q)
  | _, _, .nil => iff_of_true .nil (by simp [numsMembers])
  | _, _, .cons h hs => by
    have ih := h.iff_nums hR
    have ihs := hs.iff_nums hR
    constructor
    · intro hS
      cases hS with
      | cons hx hxs =>
        intro p hp
        rw [numsMembers, List.mem_append] at hp
        rcases hp with hp | hp
        · exact ih.mp hx p hp
        · exact ihs.mp hxs p hp
    · intro hall
      rw [numsMembers] at hall
      exact .cons (ih.mpr fun p hp => hall p (by simp [hp]))
        (ihs.mpr fun p hp => hall p (by simp [hp]))

end

/-! ## Maps with related values -/

theorem LiftMembers.keys : ∀ {m n : List (String × JVal)}, LiftMembers R m n →
    m.map Prod.fst = n.map Prod.fst
  | _, _, .nil => rfl
  | _, _, .cons _ hs => by rw [List.map_cons, List.map_cons, hs.keys]

theorem LiftMembers.append : ∀ {m n m' n' : List (String × JVal)}, LiftMembers R m n →
    LiftMembers R m' n' → LiftMembers R (m ++ m') (n ++ n')
  | _, _, _, _, .nil, h => h
  | _, _, _, _, .cons h hs, h' => .cons h (hs.append h')

theorem LiftMembers.replace {k : String} {x y : JVal} (hxy : Lift R x y) :
    ∀ {m n : List (String × JVal)}, LiftMembers R m n →
      LiftMembers R (m.map fun kv => if kv.1 == k then (k, x) else kv)
        (n.map fun kv => if kv.1 == k then (k, y) else kv)
  | _, _, .nil => .nil
  | _, _, .cons (k := l) h hs => by
    rw [List.map_cons, List.map_cons]
    by_cases hl : (l == k) = true
    · rw [if_pos hl, if_pos hl]
      exact .cons hxy (hs.replace hxy)
    · rw [if_neg hl, if_neg hl]
      exact .cons h (hs.replace hxy)

/-- An assignment of related values. -/
theorem LiftMembers.set {k : String} {x y : JVal} {m n : JObj} (h : LiftMembers R m n)
    (hxy : Lift R x y) : LiftMembers R (JObj.set m k x) (JObj.set n k y) := by
  have hany : (m.any fun kv => kv.1 == k) = n.any fun kv => kv.1 == k := by
    have hm : ∀ l : JObj, (l.any fun kv => kv.1 == k) = (l.map Prod.fst).any (· == k) := by
      intro l
      rw [List.any_map]
      rfl
    rw [hm, hm, h.keys]
  unfold JObj.set mapSet
  rw [hany]
  split
  · exact h.replace hxy
  · exact h.append (.cons hxy .nil)

end

/-! ## What is decoded against what the text says -/

section

variable {conv : ℚ → Option ℚ}

/-- A number as it is converted. -/
def Converted (conv : ℚ → Option ℚ) (p q : ℚ) : Prop := conv p = some q

mutual

/-- **What is decoded has the structure of what the text says**, with every number converted. -/
theorem decodeAny_lift : ∀ {v w : JVal}, decodeAny conv v = some w →
    ∃ u, decodeAny some v = some u ∧ Lift (Converted conv) u w
  | .null, w, h => by
    rw [decodeAny, Option.some.injEq] at h
    exact ⟨.null, rfl, h ▸ .null⟩
  | .bool b, w, h => by
    rw [decodeAny, Option.some.injEq] at h
    exact ⟨.bool b, rfl, h ▸ .bool b⟩
  | .str s, w, h => by
    rw [decodeAny, Option.some.injEq] at h
    exact ⟨.str s, rfl, h ▸ .str s⟩
  | .num p, w, h => by
    rw [decodeAny, Option.map_eq_some_iff] at h
    obtain ⟨q, hq, rfl⟩ := h
    exact ⟨.num p, rfl, .num hq⟩
  | .arr xs, w, h => by
    rw [decodeAny, Option.map_eq_some_iff] at h
    obtain ⟨ys, hys, rfl⟩ := h
    obtain ⟨us, hus, hlift⟩ := decodeElems_lift hys
    exact ⟨.arr us, by rw [decodeAny, hus]; rfl, .arr hlift⟩
  | .obj m, w, h => by
    rw [decodeAny, Option.map_eq_some_iff] at h
    obtain ⟨n, hn, rfl⟩ := h
    obtain ⟨u, hu, hlift⟩ := decodeMembers_lift .nil hn
    exact ⟨.obj u, by rw [decodeAny, hu]; rfl, .obj hlift⟩

theorem decodeElems_lift : ∀ {xs ys : List JVal}, decodeElems conv xs = some ys →
    ∃ us, decodeElems some xs = some us ∧ LiftElems (Converted conv) us ys
  | [], ys, h => by
    rw [decodeElems, Option.some.injEq] at h
    exact ⟨[], rfl, h ▸ .nil⟩
  | x :: xs, ys, h => by
    rw [decodeElems] at h
    split at h
    · rename_i y ys' hy hys'
      obtain ⟨u, hu, hlift⟩ := decodeAny_lift hy
      obtain ⟨us, hus, hlifts⟩ := decodeElems_lift hys'
      rw [Option.some.injEq] at h
      exact ⟨u :: us, by rw [decodeElems, hu, hus], h ▸ .cons hlift hlifts⟩
    · cases h

theorem decodeMembers_lift : ∀ {m : List (String × JVal)} {into into' n : JObj},
    LiftMembers (Converted conv) into into' → decodeMembers conv into' m = some n →
    ∃ u, decodeMembers some into m = some u ∧ LiftMembers (Converted conv) u n
  | [], into, into', n, hinto, h => by
    rw [decodeMembers, Option.some.injEq] at h
    exact ⟨into, rfl, h ▸ hinto⟩
  | (k, x) :: m, into, into', n, hinto, h => by
    rw [decodeMembers] at h
    split at h
    · cases h
    · rename_i y hy
      obtain ⟨u, hu, hlift⟩ := decodeAny_lift hy
      obtain ⟨us, hus, hlifts⟩ := decodeMembers_lift (hinto.set hlift) h
      exact ⟨us, by rw [decodeMembers, hu]; exact hus, hlifts⟩

end

mutual

/-- **A value is decoded when all its numbers are converted.** -/
theorem decodeAny_isSome : ∀ v : JVal,
    (decodeAny conv v).isSome = true ↔ ∀ q ∈ nums v, (conv q).isSome = true
  | .null => by simp [decodeAny, nums]
  | .bool b => by simp [decodeAny, nums]
  | .str s => by simp [decodeAny, nums]
  | .num q => by simp [decodeAny, nums]
  | .arr xs => by
    rw [decodeAny, Option.isSome_map, nums]
    exact decodeElems_isSome xs
  | .obj m => by
    rw [decodeAny, Option.isSome_map, nums]
    exact decodeMembers_isSome m []

theorem decodeElems_isSome : ∀ xs : List JVal,
    (decodeElems conv xs).isSome = true ↔ ∀ q ∈ numsElems xs, (conv q).isSome = true
  | [] => by simp [decodeElems, numsElems]
  | x :: xs => by
    rw [numsElems, List.forall_mem_append, ← decodeAny_isSome x, ← decodeElems_isSome xs,
      decodeElems]
    cases decodeAny conv x with
    | none => simp
    | some y =>
      cases decodeElems conv xs with
      | none => simp
      | some ys => simp

theorem decodeMembers_isSome : ∀ (m : List (String × JVal)) (into : JObj),
    (decodeMembers conv into m).isSome = true ↔ ∀ q ∈ numsMembers m, (conv q).isSome = true
  | [], into => by simp [decodeMembers, numsMembers]
  | (k, x) :: m, into => by
    rw [numsMembers, List.forall_mem_append, ← decodeAny_isSome x, decodeMembers]
    cases decodeAny conv x with
    | none => simp
    | some y =>
      simp only [Option.isSome_some, true_and]
      exact decodeMembers_isSome m (JObj.set into k y)

end

theorem decodeMap_lift {into into' n : JObj} {v : JVal}
    (hinto : LiftMembers (Converted conv) into into') (h : decodeMap conv into' v = some n) :
    ∃ u, decodeMap some into v = some u ∧ LiftMembers (Converted conv) u n := by
  cases v with
  | null =>
    rw [decodeMap, Option.some.injEq] at h
    exact ⟨[], rfl, h ▸ .nil⟩
  | obj m => exact decodeMembers_lift hinto h
  | bool b => cases h
  | num q => cases h
  | str s => cases h
  | arr xs => cases h

end

end Go
