import SubstrateControl.Go.Decode
import SubstrateControl.Go.JsonRewrite

/-!
# Values that agree outside hidden fields

For a predicate on field names that says which are hidden:

* `carries` — somewhere inside a value stands a hidden field with a non-empty value.
* `SameUpTo` — two values of one structure that differ at most in such values.
* `recolor`, `sameUpTo_recolor` — every hidden value replaced by one and the same number.
* `SameUpTo.recolor_eq` — which makes values that agree outside hidden fields equal.
* `decodeAny_recolor` — it can be done before a value is decoded as well as after.
* `occurrences_recolor` — it shows in the printed text, if something was hidden.
-/

set_option autoImplicit false

namespace Go

/-- nil and the empty string. -/
def JVal.isEmpty : JVal → Bool
  | .null => true
  | .str s => s == ""
  | _ => false

section

variable (hidden : String → Bool)

mutual

/-- A hidden field with a non-empty value stands somewhere inside. -/
def carries : JVal → Bool
  | .arr xs => carriesElem xs
  | .obj m => carriesField m
  | .null => false
  | .bool _ => false
  | .num _ => false
  | .str _ => false

def carriesElem : List JVal → Bool
  | [] => false
  | x :: xs => carries x || carriesElem xs

def carriesField : List (String × JVal) → Bool
  | [] => false
  | (k, x) :: m => (if hidden k then !x.isEmpty else carries x) || carriesField m

end

mutual

/-- The same structure, with other non-empty values in hidden fields. -/
inductive SameUpTo : JVal → JVal → Prop where
  | refl (v : JVal) : SameUpTo v v
  | arr {xs ys : List JVal} : SameElems xs ys → SameUpTo (.arr xs) (.arr ys)
  | obj {m n : List (String × JVal)} : SameFields m n → SameUpTo (.obj m) (.obj n)

inductive SameElems : List JVal → List JVal → Prop where
  | nil : SameElems [] []
  | cons {x y : JVal} {xs ys : List JVal} :
      SameUpTo x y → SameElems xs ys → SameElems (x :: xs) (y :: ys)

inductive SameFields : List (String × JVal) → List (String × JVal) → Prop where
  | nil : SameFields [] []
  | shown {k : String} {x y : JVal} {m n : List (String × JVal)} :
      hidden k = false → SameUpTo x y → SameFields m n → SameFields ((k, x) :: m) ((k, y) :: n)
  | same {k : String} {x : JVal} {m n : List (String × JVal)} :
      SameFields m n → SameFields ((k, x) :: m) ((k, x) :: n)
  | hidden {k : String} {x y : JVal} {m n : List (String × JVal)} :
      hidden k = true → x.isEmpty = false → y.isEmpty = false → SameFields m n →
      SameFields ((k, x) :: m) ((k, y) :: n)

end

variable {hidden}

/-! ## Other hidden values -/

mutual

/-- Every hidden non-empty value replaced by the number `c`. -/
def recolor (hidden : String → Bool) (c : ℚ) : JVal → JVal
  | .arr xs => .arr (recolorElems hidden c xs)
  | .obj m => .obj (recolorFields hidden c m)
  | .null => .null
  | .bool b => .bool b
  | .num q => .num q
  | .str s => .str s

def recolorElems (hidden : String → Bool) (c : ℚ) : List JVal → List JVal
  | [] => []
  | x :: xs => recolor hidden c x :: recolorElems hidden c xs

def recolorFields (hidden : String → Bool) (c : ℚ) :
    List (String × JVal) → List (String × JVal)
  | [] => []
  | (k, x) :: m =>
    (k, if hidden k then (if x.isEmpty then x else .num c) else recolor hidden c x) ::
      recolorFields hidden c m

end

variable {c : ℚ}

mutual

/-- Recoloured values agree with the given ones outside hidden fields. -/
theorem sameUpTo_recolor : ∀ v, SameUpTo hidden v (recolor hidden c v)
  | .arr xs => by
    rw [recolor]
    exact .arr (sameElems_recolor xs)
  | .obj m => by
    rw [recolor]
    exact .obj (sameFields_recolor m)
  | .null => by rw [recolor]; exact .refl _
  | .bool b => by rw [recolor]; exact .refl _
  | .num q => by rw [recolor]; exact .refl _
  | .str s => by rw [recolor]; exact .refl _

theorem sameElems_recolor : ∀ xs, SameElems hidden xs (recolorElems hidden c xs)
  | [] => by rw [recolorElems]; exact .nil
  | x :: xs => by
    rw [recolorElems]
    exact .cons (sameUpTo_recolor x) (sameElems_recolor xs)

theorem sameFields_recolor : ∀ m, SameFields hidden m (recolorFields hidden c m)
  | [] => by rw [recolorFields]; exact .nil
  | (k, x) :: m => by
    have ih := sameFields_recolor m
    rw [recolorFields]
    cases hk : hidden k with
    | false =>
      rw [if_neg (by decide)]
      exact .shown hk (sameUpTo_recolor x) ih
    | true =>
      rw [if_pos rfl]
      cases hx : x.isEmpty with
      | true => exact .same ih
      | false => exact .hidden hk hx rfl ih

end

mutual

/-- **Values that agree outside hidden fields are recoloured to the same.** -/
theorem SameUpTo.recolor_eq : ∀ {v w : JVal}, SameUpTo hidden v w →
    recolor hidden c v = recolor hidden c w
  | _, _, .refl v => rfl
  | _, _, .arr h => by rw [recolor, recolor, h.recolor_eq]
  | _, _, .obj h => by rw [recolor, recolor, h.recolor_eq]

theorem SameElems.recolor_eq : ∀ {xs ys : List JVal}, SameElems hidden xs ys →
    recolorElems hidden c xs = recolorElems hidden c ys
  | _, _, .nil => rfl
  | _, _, .cons h hs => by rw [recolorElems, recolorElems, h.recolor_eq, hs.recolor_eq]

theorem SameFields.recolor_eq : ∀ {m n : List (String × JVal)}, SameFields hidden m n →
    recolorFields hidden c m = recolorFields hidden c n
  | _, _, .nil => rfl
  | _, _, .shown hk h hs => by
    rw [recolorFields, recolorFields, hk, if_neg (by decide), if_neg (by decide), h.recolor_eq,
      hs.recolor_eq]
  | _, _, .same hs => by rw [recolorFields, recolorFields, hs.recolor_eq]
  | _, _, .hidden hk hx hy hs => by
    rw [recolorFields, recolorFields, hk, hx, hy, hs.recolor_eq]
    rfl

end

mutual

/-- **Where nothing is hidden, nothing is recoloured.** -/
theorem recolor_of_clear : ∀ v, carries hidden v = false → recolor hidden c v = v
  | .arr xs, h => by rw [recolor, recolorElems_of_clear xs h]
  | .obj m, h => by rw [recolor, recolorFields_of_clear m h]
  | .null, _ => rfl
  | .bool _, _ => rfl
  | .num _, _ => rfl
  | .str _, _ => rfl

theorem recolorElems_of_clear : ∀ xs, carriesElem hidden xs = false →
    recolorElems hidden c xs = xs
  | [], _ => rfl
  | x :: xs, h => by
    rw [carriesElem, Bool.or_eq_false_iff] at h
    rw [recolorElems, recolor_of_clear x h.1, recolorElems_of_clear xs h.2]

theorem recolorFields_of_clear : ∀ m, carriesField hidden m = false →
    recolorFields hidden c m = m
  | [], _ => rfl
  | (k, x) :: m, h => by
    rw [carriesField, Bool.or_eq_false_iff] at h
    rw [recolorFields, recolorFields_of_clear m h.2]
    cases hk : hidden k with
    | false =>
      rw [hk] at h
      rw [if_neg (by decide), recolor_of_clear x h.1]
    | true =>
      rw [hk, if_pos rfl] at h
      rw [if_pos rfl, if_pos (by simpa using h.1)]

end

mutual

/-- What is recoloured still carries what it carried. -/
theorem carries_recolor : ∀ v, carries hidden (recolor hidden c v) = carries hidden v
  | .arr xs => by rw [recolor, carries, carries, carriesElem_recolor xs]
  | .obj m => by rw [recolor, carries, carries, carriesField_recolor m]
  | .null => rfl
  | .bool _ => rfl
  | .num _ => rfl
  | .str _ => rfl

theorem carriesElem_recolor : ∀ xs,
    carriesElem hidden (recolorElems hidden c xs) = carriesElem hidden xs
  | [] => rfl
  | x :: xs => by
    rw [recolorElems, carriesElem, carriesElem, carries_recolor x, carriesElem_recolor xs]

theorem carriesField_recolor : ∀ m,
    carriesField hidden (recolorFields hidden c m) = carriesField hidden m
  | [] => rfl
  | (k, x) :: m => by
    rw [recolorFields, carriesField, carriesField, carriesField_recolor m]
    cases hk : hidden k with
    | false => rw [if_neg (by decide), if_neg (by decide), if_neg (by decide), carries_recolor x]
    | true =>
      cases hx : x.isEmpty with
      | true => simp [hx]
      | false => simp [JVal.isEmpty]

end

mutual

/-- A recoloured value has the number in the place of the hidden ones. -/
theorem inked_recolor : ∀ v, Inked c v (recolor hidden c v)
  | .arr xs => by rw [recolor]; exact .arr (inked_recolorElems xs)
  | .obj m => by rw [recolor]; exact .obj (inked_recolorFields m)
  | .null => .same _
  | .bool _ => .same _
  | .num _ => .same _
  | .str _ => .same _

theorem inked_recolorElems : ∀ xs, InkedElems c xs (recolorElems hidden c xs)
  | [] => .nil
  | x :: xs => by rw [recolorElems]; exact .cons (inked_recolor x) (inked_recolorElems xs)

theorem inked_recolorFields : ∀ m, InkedMembers c m (recolorFields hidden c m)
  | [] => .nil
  | (k, x) :: m => by
    rw [recolorFields]
    refine .cons ?_ (inked_recolorFields m)
    split
    · split
      · exact .same x
      · exact .ink x
    · exact inked_recolor x

end

section

variable {conv : ℚ → Option ℚ}

/-- A value is decoded to an empty one exactly when it is empty. -/
theorem decodeAny_isEmpty {v w : JVal} (h : decodeAny conv v = some w) : w.isEmpty = v.isEmpty := by
  cases v with
  | null => cases h; rfl
  | bool b => cases h; rfl
  | str s => cases h; rfl
  | num q =>
    obtain ⟨x, -, rfl⟩ := Option.map_eq_some_iff.mp h
    rfl
  | arr xs =>
    obtain ⟨ys, -, rfl⟩ := Option.map_eq_some_iff.mp h
    rfl
  | obj m =>
    obtain ⟨n, -, rfl⟩ := Option.map_eq_some_iff.mp h
    rfl

/-- An assignment, recoloured. -/
theorem recolorFields_set (m : JObj) (k : String) (x : JVal) :
    recolorFields hidden c (JObj.set m k x) =
      JObj.set (recolorFields hidden c m) k
        (if hidden k then (if x.isEmpty then x else .num c) else recolor hidden c x) := by
  have hmap : ∀ n : List (String × JVal), recolorFields hidden c n = n.map fun kv => (kv.1,
      if hidden kv.1 then (if kv.2.isEmpty then kv.2 else .num c) else recolor hidden c kv.2) := by
    intro n
    induction n with
    | nil => rfl
    | cons kv n ih => rw [recolorFields, ih, List.map_cons]
  unfold JObj.set mapSet
  simp only [hmap, List.any_map, Function.comp_def]
  split
  · rw [List.map_map, List.map_map]
    apply List.map_congr_left
    intro kv _
    by_cases hk : kv.1 = k
    · simp [hk]
    · simp [hk]
  · rw [List.map_append, List.map_singleton]

mutual

/-- **Hidden values can be recoloured before they are decoded.** -/
theorem decodeAny_recolor (hc : conv c = some c) : ∀ {v w : JVal}, decodeAny conv v = some w →
    decodeAny conv (recolor hidden c v) = some (recolor hidden c w)
  | .null, _, h => by cases h; rfl
  | .bool _, _, h => by cases h; rfl
  | .str _, _, h => by cases h; rfl
  | .num q, w, h => by
    rw [recolor, h]
    obtain ⟨x, -, rfl⟩ := Option.map_eq_some_iff.mp h
    rfl
  | .arr xs, w, h => by
    rw [decodeAny, Option.map_eq_some_iff] at h
    obtain ⟨ys, hys, rfl⟩ := h
    rw [recolor, decodeAny, decodeElems_recolor hc hys]
    rfl
  | .obj m, w, h => by
    rw [decodeAny, Option.map_eq_some_iff] at h
    obtain ⟨n, hn, rfl⟩ := h
    have hmembers := decodeMembers_recolor hc hn
    rw [recolorFields] at hmembers
    rw [recolor, decodeAny, hmembers]
    rfl

theorem decodeElems_recolor (hc : conv c = some c) : ∀ {xs ys : List JVal},
    decodeElems conv xs = some ys →
      decodeElems conv (recolorElems hidden c xs) = some (recolorElems hidden c ys)
  | [], _, h => by cases h; rfl
  | x :: xs, ys, h => by
    rw [decodeElems] at h
    split at h
    · rename_i y ys' hy hys
      cases h
      rw [recolorElems, decodeElems, decodeAny_recolor hc hy, decodeElems_recolor hc hys,
        recolorElems]
    · cases h

theorem decodeMembers_recolor (hc : conv c = some c) : ∀ {m : List (String × JVal)} {into n : JObj},
    decodeMembers conv into m = some n →
      decodeMembers conv (recolorFields hidden c into) (recolorFields hidden c m) =
        some (recolorFields hidden c n)
  | [], _, _, h => by cases h; rfl
  | (k, x) :: m, into, n, h => by
    rw [decodeMembers] at h
    split at h
    · cases h
    · rename_i y hy
      have ih := decodeMembers_recolor hc h
      have hinner := decodeAny_recolor hc hy
      rw [recolorFields_set, decodeAny_isEmpty hy] at ih
      rw [recolorFields, decodeMembers]
      cases hk : hidden k with
      | false =>
        rw [hk, if_neg (by decide)] at ih
        rw [if_neg (by decide), hinner]
        exact ih
      | true =>
        rw [hk, if_pos rfl] at ih
        rw [if_pos rfl]
        cases hx : x.isEmpty with
        | true =>
          rw [hx, if_pos rfl] at ih
          rw [if_pos rfl, hy]
          exact ih
        | false =>
          rw [hx, if_neg (by decide)] at ih
          rw [if_neg (by decide), decodeAny, hc]
          exact ih

end

/-- The same for a map that has members already. -/
theorem decodeMap_recolor (hc : conv c = some c) {v : JVal} {into n : JObj}
    (h : decodeMap conv into v = some n) :
    decodeMap conv (recolorFields hidden c into) (recolor hidden c v) =
      some (recolorFields hidden c n) := by
  cases v with
  | null => cases h; rfl
  | obj m => exact decodeMembers_recolor hc h
  | bool b => cases h
  | num q => cases h
  | str s => cases h
  | arr xs => cases h

end

/-! ## Printed values -/

/-- How often a character stands in a text. -/
def occurrences (ch : Char) (s : String) : ℕ := s.toList.count ch

theorem occurrences_append (ch : Char) (s t : String) :
    occurrences ch (s ++ t) = occurrences ch s + occurrences ch t := by
  simp [occurrences]

theorem occurrences_intercalate (ch : Char) (sep : String) : ∀ l : List String,
    occurrences ch (sep.intercalate l) =
      (l.map (occurrences ch)).sum + (l.length - 1) * occurrences ch sep
  | [] => by simp [occurrences]
  | [s] => by simp
  | s :: t :: l => by
    have ih := occurrences_intercalate ch sep (t :: l)
    rw [String.intercalate_cons_cons, occurrences_append, occurrences_append, ih]
    simp only [List.map_cons, List.sum_cons, List.length_cons, Nat.add_sub_cancel, Nat.succ_mul]
    omega

mutual

/-- The number of hidden non-empty values inside. -/
def hiddenCount (hidden : String → Bool) : JVal → ℕ
  | .arr xs => hiddenElems hidden xs
  | .obj m => hiddenFields hidden m
  | .null => 0
  | .bool _ => 0
  | .num _ => 0
  | .str _ => 0

def hiddenElems (hidden : String → Bool) : List JVal → ℕ
  | [] => 0
  | x :: xs => hiddenCount hidden x + hiddenElems hidden xs

def hiddenFields (hidden : String → Bool) : List (String × JVal) → ℕ
  | [] => 0
  | (k, x) :: m =>
    (if hidden k then (if x.isEmpty then 0 else 1) else hiddenCount hidden x) +
      hiddenFields hidden m

end

mutual

theorem hiddenCount_pos : ∀ v, carries hidden v = true → 0 < hiddenCount hidden v
  | .arr xs, h => hiddenElems_pos xs h
  | .obj m, h => hiddenFields_pos m h

theorem hiddenElems_pos : ∀ xs, carriesElem hidden xs = true → 0 < hiddenElems hidden xs
  | x :: xs, h => by
    rw [carriesElem, Bool.or_eq_true] at h
    rw [hiddenElems]
    rcases h with h | h
    · exact Nat.add_pos_left (hiddenCount_pos x h) _
    · exact Nat.add_pos_right _ (hiddenElems_pos xs h)

theorem hiddenFields_pos : ∀ m, carriesField hidden m = true → 0 < hiddenFields hidden m
  | (k, x) :: m, h => by
    rw [carriesField, Bool.or_eq_true] at h
    rw [hiddenFields]
    rcases h with h | h
    · apply Nat.add_pos_left
      cases hk : hidden k with
      | false =>
        rw [hk, if_neg (by decide)] at h
        exact hiddenCount_pos x h
      | true =>
        rw [hk, if_pos rfl] at h
        simp [show x.isEmpty = false by simpa using h]
    · exact Nat.add_pos_right _ (hiddenFields_pos m h)

end

section

variable {go : Runtime} {c' : ℚ} {ch : Char}

mutual

/-- **A hidden value shows in the printed text**: a character that one number has and another one
has not is printed once more for each. -/
theorem occurrences_recolor
    (hch : occurrences ch (go.formatFloat c) = occurrences ch (go.formatFloat c') + 1) :
    ∀ v, occurrences ch (sprintV go (recolor hidden c v)) =
    occurrences ch (sprintV go (recolor hidden c' v)) + hiddenCount hidden v
  | .arr xs => by
    obtain ⟨hlength, ih⟩ := occurrences_recolorElems hch xs
    simp only [recolor, sprintV, hiddenCount, occurrences_append, occurrences_intercalate,
      hlength]
    omega
  | .obj m => by
    obtain ⟨hlength, ih⟩ := occurrences_recolorFields hch m
    have hperm : ∀ fields : List (String × String),
        (((fields.mergeSort fun a b => decide (a.1 ≤ b.1)).map
          fun kv => kv.1 ++ ":" ++ kv.2).map (occurrences ch)).sum =
        (fields.map fun kv => occurrences ch (kv.1 ++ ":" ++ kv.2)).sum := by
      intro fields
      rw [List.map_map]
      exact ((List.mergeSort_perm fields _).map _).sum_eq
    simp only [recolor, sprintV, hiddenCount, occurrences_append, occurrences_intercalate, hperm,
      List.length_map, List.length_mergeSort, hlength]
    simp only [occurrences_append] at ih
    omega
  | .null => rfl
  | .bool _ => rfl
  | .num _ => rfl
  | .str _ => rfl

theorem occurrences_recolorElems
    (hch : occurrences ch (go.formatFloat c) = occurrences ch (go.formatFloat c') + 1) :
    ∀ xs,
    (sprintElems go (recolorElems hidden c xs)).length =
        (sprintElems go (recolorElems hidden c' xs)).length ∧
      ((sprintElems go (recolorElems hidden c xs)).map (occurrences ch)).sum =
        ((sprintElems go (recolorElems hidden c' xs)).map (occurrences ch)).sum +
          hiddenElems hidden xs
  | [] => ⟨rfl, rfl⟩
  | x :: xs => by
    have ih := occurrences_recolorElems hch xs
    have hx := occurrences_recolor hch x
    simp only [recolorElems, sprintElems, hiddenElems, List.length_cons, List.map_cons,
      List.sum_cons]
    omega

theorem occurrences_recolorFields
    (hch : occurrences ch (go.formatFloat c) = occurrences ch (go.formatFloat c') + 1) :
    ∀ m,
    (sprintFields go (recolorFields hidden c m)).length =
        (sprintFields go (recolorFields hidden c' m)).length ∧
      ((sprintFields go (recolorFields hidden c m)).map
          fun kv => occurrences ch (kv.1 ++ ":" ++ kv.2)).sum =
        ((sprintFields go (recolorFields hidden c' m)).map
          fun kv => occurrences ch (kv.1 ++ ":" ++ kv.2)).sum + hiddenFields hidden m
  | [] => ⟨rfl, rfl⟩
  | (k, x) :: m => by
    have ih := occurrences_recolorFields hch m
    have hx := occurrences_recolor hch x
    simp only [recolorFields, sprintFields, hiddenFields, List.length_cons, List.map_cons,
      List.sum_cons, occurrences_append] at ih ⊢
    cases hk : hidden k with
    | false =>
      simp only [Bool.false_eq_true, if_false]
      omega
    | true =>
      cases hempty : x.isEmpty with
      | true =>
        simp only [if_true]
        omega
      | false =>
        simp only [if_true, Bool.false_eq_true, if_false, sprintV]
        omega

end

end

end

end Go
