import SubstrateControl.Go.Decode
import SubstrateControl.Go.JsonEncode
import SubstrateControl.Js.Number

/-!
# JSON.stringify

How a browser writes the body of a request, and that `encoding/json` reads it.

* `NumberToString` — `Number::toString`, as far as it is prescribed; `exactDecimal` is one.
* `Value`, `stringify` — the values that are written; a number that is not finite becomes null.
* `Value.toJVal` — what the reader finds.
* `value_stringify` — a written value is read back.
-/

set_option autoImplicit false

namespace Js

open Go Kit.Float

/-! ## Numbers -/

/-- `Number::toString` on finite numbers: a decimal literal whose Number value is the number. -/
structure NumberToString where
  text : Float64 → List UInt8
  reads : ∀ x, ∃ q, numberValue (text x) = some q ∧ binary64.round q = some x.val

/-- The value a number's text has. -/
def NumberToString.decimal (n : NumberToString) (x : Float64) : ℚ :=
  (numberValue (n.text x)).getD 0

theorem NumberToString.numberValue_text (n : NumberToString) (x : Float64) :
    numberValue (n.text x) = some (n.decimal x) := by
  obtain ⟨q, hq, -⟩ := n.reads x
  unfold decimal
  rw [hq, Option.getD_some]

/-- The text of a number is parsed to the number. -/
theorem NumberToString.parseFloat_decimal (n : NumberToString) (x : Float64) :
    parseFloat (n.decimal x) = some x.val := by
  obtain ⟨q, hq, hround⟩ := n.reads x
  unfold decimal parseFloat
  rw [hq, Option.getD_some]
  exact hround

/-- Digits with a negative exponent. -/
theorem unsignedValue_scientific (n k : ℕ) :
    unsignedValue (encodeNat n ++ byte 'e' :: byte '-' :: encodeNat k) =
      some ((n : ℚ) / 10 ^ k) := by
  have hdigits : ∀ m x, (∀ b, x.head? = some b → isDigitByte b = false) →
      digits (encodeNat m ++ x) = some (encodeNat m, x) := by
    intro m x hx
    obtain ⟨htake, hdrop⟩ := span_append (isDigitByte_encodeNat m) hx
    unfold digits
    rw [htake, hdrop, if_neg (encodeNat_ne_nil m)]
  have hmantissa := hdigits n (byte 'e' :: byte '-' :: encodeNat k) (by
    rintro b hb
    cases hb
    decide)
  have hexp := hdigits k [] nofun
  rw [List.append_nil] at hexp
  have hhead : ¬ ((encodeNat n).head? = some (byte '0') ∧ (encodeNat n).length ≠ 1) := by
    rintro ⟨h0, hlen⟩
    exact hlen (encodeNat_head n h0)
  have hexponent : exponent (byte 'e' :: byte '-' :: encodeNat k) = some (-(k : ℤ)) := by
    unfold exponent
    simp only [ne_eq, not_true_eq_false, false_and, if_false, true_or, if_true, hexp,
      natOfDigits_encodeNat]
  have hfraction : fraction (byte 'e' :: byte '-' :: encodeNat k) =
      some ([], byte 'e' :: byte '-' :: encodeNat k) := by
    have hpoint : byte 'e' ≠ byte '.' := by decide
    simp only [fraction, if_neg hpoint]
  have hscale : scale10 n (-(k : ℤ)) = (n : ℚ) / 10 ^ k := by
    unfold scale10
    split
    · have hk : k = 0 := by omega
      simp [hk]
    · rw [neg_neg, Int.toNat_natCast]
  unfold unsignedValue
  rw [hmantissa]
  simp only
  rw [if_neg hhead, hfraction]
  simp only [hexponent, Option.map_some, List.append_nil, natOfDigits_encodeNat,
    List.length_nil, Nat.cast_zero, sub_zero, hscale]

/-- How many binary places a finite number has at most. -/
@[irreducible] def binaryPlaces : ℕ := 1074

theorem Float64.exists_scaled (x : Float64) : ∃ n : ℤ, x.val * 2 ^ binaryPlaces = n := by
  obtain ⟨-, m, e, -, he, hx⟩ := (Format.round_eq_self_iff x.val).mp x.round_val
  have he : (0 : ℤ) ≤ e + binaryPlaces := by
    have hmin : (-1074 : ℤ) ≤ e := he
    unfold binaryPlaces
    omega
  refine ⟨m * 2 ^ (e + binaryPlaces).toNat, ?_⟩
  rw [hx, mul_assoc, ← zpow_natCast, ← zpow_add₀ (by norm_num)]
  push_cast
  rw [← zpow_natCast, Int.toNat_of_nonneg he]

/-- All digits of a number, over a power of ten. -/
def exactText (x : Float64) : List UInt8 :=
  let n := (x.val * 2 ^ binaryPlaces).num
  (if n < 0 then [byte '-'] else []) ++ encodeNat (n.natAbs * 5 ^ binaryPlaces) ++
    byte 'e' :: byte '-' :: encodeNat binaryPlaces

theorem numberValue_exactText (x : Float64) : numberValue (exactText x) = some x.val := by
  obtain ⟨n, hn⟩ := x.exists_scaled
  have hval : x.val = n * 5 ^ binaryPlaces / 10 ^ binaryPlaces := by
    have hten : (10 : ℚ) ^ binaryPlaces = 2 ^ binaryPlaces * 5 ^ binaryPlaces := by
      rw [← mul_pow]
      norm_num
    rw [hten, mul_div_mul_right _ _ (by positivity), ← hn, mul_div_assoc,
      div_self (by positivity), mul_one]
  have hunsigned := unsignedValue_scientific (n.natAbs * 5 ^ binaryPlaces) binaryPlaces
  have hnum : (n : ℚ).num = n := Rat.num_intCast n
  simp only [exactText, hn, hnum]
  split
  · rename_i hneg
    have habs : (n.natAbs : ℚ) = -n := by
      rw [Nat.cast_natAbs, abs_of_neg hneg]
      push_cast
      rfl
    rw [List.singleton_append, List.cons_append, numberValue, if_pos rfl, hunsigned,
      Option.map_some, hval]
    push_cast
    rw [habs]
    congr 1
    ring
  · rename_i hnonneg
    have habs : (n.natAbs : ℚ) = n := by
      rw [Nat.cast_natAbs, abs_of_nonneg (not_lt.mp hnonneg)]
    obtain ⟨b, s, hb⟩ := List.exists_cons_of_ne_nil
      (encodeNat_ne_nil (n.natAbs * 5 ^ binaryPlaces))
    have hsign : b ≠ byte '-' := by
      rintro rfl
      exact absurd (isDigitByte_encodeNat (n.natAbs * 5 ^ binaryPlaces) (byte '-') (by simp [hb]))
        (by decide)
    rw [List.nil_append, hval]
    rw [hb] at hunsigned ⊢
    rw [List.cons_append] at hunsigned ⊢
    rw [numberValue, if_neg hsign, hunsigned]
    push_cast
    rw [habs]

/-- The exact decimal text of every number. -/
def exactDecimal : NumberToString where
  text := exactText
  reads x := ⟨x.val, numberValue_exactText x, x.round_val⟩

/-! ## Values -/

/-- What the console's requests are written from. -/
inductive Value where
  | null
  | bool (b : Bool)
  | string (s : String)
  | number (x : Number)
  | array (xs : List Value)
  | object (fields : List (String × Value))

/-- A character of `QuoteJSONString`. -/
def quoteChar (c : Char) : List Char :=
  if c = '\x08' then ['\\', 'b']
  else if c = '\t' then ['\\', 't']
  else if c = '\n' then ['\\', 'n']
  else if c = '\x0c' then ['\\', 'f']
  else if c = '\r' then ['\\', 'r']
  else if c = '"' ∨ c = '\\' then ['\\', c]
  else if c.toNat < 0x20 then ['\\', 'u', '0', '0', hexChar (c.toNat / 16), hexChar (c.toNat % 16)]
  else [c]

/-- `QuoteJSONString`, without the quotes. -/
def quoteText (s : String) : List Char := s.toList.flatMap quoteChar

def quote (s : String) : List UInt8 := byte '"' :: (utf8 (quoteText s) ++ [byte '"'])

/-- `SerializeJSONProperty` of a number. -/
def stringifyNumber (n : NumberToString) : Number → List UInt8
  | .finite x => n.text x
  | .nan => utf8 "null".toList
  | .infinity _ => utf8 "null".toList

section

variable (n : NumberToString)

mutual

/-- `JSON.stringify`, in the UTF-8 of a request. -/
def stringify : Value → List UInt8
  | .null => utf8 "null".toList
  | .bool b => utf8 (if b then "true" else "false").toList
  | .string s => quote s
  | .number x => stringifyNumber n x
  | .array [] => [byte '[', byte ']']
  | .array (x :: xs) => byte '[' :: (stringify x ++ stringifyItems xs ++ [byte ']'])
  | .object [] => [byte '\x7b', byte '\x7d']
  | .object ((k, x) :: m) =>
    byte '\x7b' :: (quote k ++ byte ':' :: (stringify x ++ stringifyFields m) ++ [byte '\x7d'])

def stringifyItems : List Value → List UInt8
  | [] => []
  | x :: xs => byte ',' :: (stringify x ++ stringifyItems xs)

def stringifyFields : List (String × Value) → List UInt8
  | [] => []
  | (k, x) :: m => byte ',' :: (quote k ++ byte ':' :: (stringify x ++ stringifyFields m))

end

mutual

/-- What is read of a written value. -/
def Value.toJVal : Value → JVal
  | .null => .null
  | .bool b => .bool b
  | .string s => .str s
  | .number (.finite x) => .num (n.decimal x)
  | .number .nan => .null
  | .number (.infinity _) => .null
  | .array xs => .arr (itemsToJVal xs)
  | .object m => .obj (fieldsToJVal m)

def itemsToJVal : List Value → List JVal
  | [] => []
  | x :: xs => x.toJVal :: itemsToJVal xs

def fieldsToJVal : List (String × Value) → List (String × JVal)
  | [] => []
  | (k, x) :: m => (k, x.toJVal) :: fieldsToJVal m

end

mutual

/-- How many arrays and objects stand around another. -/
def Value.depth : Value → ℕ
  | .array xs => itemsDepth xs + 1
  | .object m => fieldsDepth m + 1
  | .null => 0
  | .bool _ => 0
  | .string _ => 0
  | .number _ => 0

def itemsDepth : List Value → ℕ
  | [] => 0
  | x :: xs => max x.depth (itemsDepth xs)

def fieldsDepth : List (String × Value) → ℕ
  | [] => 0
  | (_, x) :: m => max x.depth (fieldsDepth m)

end

end

/-! ## Strings are read back -/

/-- A character is quoted as Go escapes it, or left as it is. -/
theorem quoteChar_cases (c : Char) :
    quoteChar c = escapeChar c ∨ quoteChar c = [c] ∧ Plain c := by
  unfold quoteChar escapeChar
  by_cases hquote : c = '"' ∨ c = '\\'
  · rcases hquote with rfl | rfl <;> exact .inl rfl
  · by_cases hctl : c.toNat < 0x20
    · left
      have hline : ¬ (c = '\u2028' ∨ c = '\u2029') := by
        rintro (rfl | rfl) <;> exact absurd hctl (by decide)
      rw [if_neg hquote, if_neg hquote]
      split_ifs <;> simp_all
    · right
      rw [not_or] at hquote
      have hne : ∀ d : Char, d.toNat < 0x20 → c ≠ d := by
        rintro d hd rfl
        exact hctl hd
      refine ⟨?_, hquote.1, hquote.2, Nat.le_of_not_lt hctl⟩
      rw [if_neg (hne _ (by decide)), if_neg (hne _ (by decide)), if_neg (hne _ (by decide)),
        if_neg (hne _ (by decide)), if_neg (hne _ (by decide)), if_neg (not_or.mpr hquote),
        if_neg hctl]

theorem stringLit_quoteText (s : List UInt8) : ∀ cs : List Char,
    stringLit (utf8 (cs.flatMap quoteChar) ++ s) =
      (stringLit s).map fun r => (utf8 (cs.flatMap quoteChar) ++ r.1, r.2)
  | [] => by cases h : stringLit s <;> simp [h]
  | c :: cs => by
    have hchar : ∀ t, stringLit (utf8 (quoteChar c) ++ t) =
        (stringLit t).map fun r => (utf8 (quoteChar c) ++ r.1, r.2) := by
      intro t
      rcases quoteChar_cases c with h | ⟨h, hplain⟩
      · rw [h]
        exact stringLit_escapeChar c t
      · rw [h]
        exact stringLit_utf8_plain t (by simpa using hplain)
    rw [List.flatMap_cons, utf8_append, List.append_assoc, hchar, stringLit_quoteText s cs,
      Option.map_map]
    simp [Function.comp_def]

theorem units_quoteText : ∀ cs : List Char,
    ∃ us, units (cs.flatMap quoteChar) = some us ∧ List.Forall₂ Spells us cs
  | [] => ⟨[], rfl, .nil⟩
  | c :: cs => by
    obtain ⟨us, hus, hspell⟩ := units_quoteText cs
    have hchar : ∃ u, Spells u c ∧ ∀ s, units (quoteChar c ++ s) = (units s).map (u :: ·) := by
      rcases quoteChar_cases c with h | ⟨h, hplain⟩
      · rw [h]
        exact units_escapeChar c
      · rw [h]
        exact ⟨.inl c, .inl rfl, fun s => units_plain hplain.2.1 s⟩
    obtain ⟨u, hu, hread⟩ := hchar
    exact ⟨u :: us, by rw [List.flatMap_cons, hread, hus, Option.map_some], .cons hu hspell⟩

/-- **A quoted string is read as the string.** -/
theorem quotes_quoteText (s : String) : Quotes (utf8 (quoteText s)) s := by
  constructor
  · intro x
    unfold quoteText
    rw [stringLit_quoteText, stringLit_cons, if_pos rfl]
    simp
  · obtain ⟨us, hus, hspell⟩ := units_quoteText s.toList
    unfold unquote quoteText
    rw [runes_utf8, hus, Option.map_some, joinUnits_spells hspell, String.ofList_toList]

/-! ## Values are read back -/

section

variable (n : NumberToString)

/-- The first byte of a value is no white space and closes no array. -/
theorem stringify_head (v : Value) :
    ∃ b t, stringify n v = b :: t ∧ isSpaceByte b = false ∧ b ≠ byte ']' := by
  cases v with
  | null => exact ⟨byte 'n', _, by rw [stringify]; rfl, by decide, by decide⟩
  | bool b =>
    rw [stringify]
    cases b with
    | false => exact ⟨byte 'f', _, rfl, by decide, by decide⟩
    | true => exact ⟨byte 't', _, rfl, by decide, by decide⟩
  | string s => exact ⟨byte '"', _, by rw [stringify, quote], by decide, by decide⟩
  | number x =>
    rw [stringify]
    cases x with
    | nan => exact ⟨byte 'n', _, rfl, by decide, by decide⟩
    | infinity negative => exact ⟨byte 'n', _, rfl, by decide, by decide⟩
    | finite x =>
      obtain ⟨b, t, hb, hstart⟩ := numberValue_head (n.numberValue_text x)
      exact ⟨b, t, hb, hstart.space, hstart.close⟩
  | array xs => cases xs <;> exact ⟨byte '[', _, by rw [stringify], by decide, by decide⟩
  | object m => cases m <;> exact ⟨byte '\x7b', _, by rw [stringify], by decide, by decide⟩

theorem stringifyItems_eq : ∀ xs : List Value,
    stringifyItems n xs = xs.flatMap fun w => byte ',' :: stringify n w
  | [] => by rw [stringifyItems, List.flatMap_nil]
  | x :: xs => by
    rw [stringifyItems, stringifyItems_eq xs, List.flatMap_cons]
    rfl

theorem stringifyFields_eq : ∀ m : List (String × Value), stringifyFields n m =
    m.flatMap fun kv => byte ',' :: (quote kv.1 ++ byte ':' :: stringify n kv.2)
  | [] => by rw [stringifyFields, List.flatMap_nil]
  | (k, x) :: m => by
    rw [stringifyFields, stringifyFields_eq m, List.flatMap_cons]
    simp

theorem itemsToJVal_eq : ∀ xs : List Value, itemsToJVal n xs = xs.map (Value.toJVal n)
  | [] => by rw [itemsToJVal, List.map_nil]
  | x :: xs => by rw [itemsToJVal, itemsToJVal_eq xs, List.map_cons]

theorem fieldsToJVal_eq : ∀ m : List (String × Value),
    fieldsToJVal n m = m.map fun kv => (kv.1, kv.2.toJVal n)
  | [] => by rw [fieldsToJVal, List.map_nil]
  | (k, x) :: m => by rw [fieldsToJVal, fieldsToJVal_eq m, List.map_cons]

theorem le_itemsDepth : ∀ xs : List Value, ∀ v ∈ xs, v.depth ≤ itemsDepth xs
  | [], _, h => by cases h
  | x :: xs, v, h => by
    rw [itemsDepth]
    rcases List.mem_cons.mp h with rfl | h
    · exact Nat.le_max_left _ _
    · exact Nat.le_trans (le_itemsDepth xs v h) (Nat.le_max_right _ _)

theorem le_fieldsDepth : ∀ m : List (String × Value), ∀ kv ∈ m, kv.2.depth ≤ fieldsDepth m
  | [], _, h => by cases h
  | (k, x) :: m, kv, h => by
    rw [fieldsDepth]
    rcases List.mem_cons.mp h with rfl | h
    · exact Nat.le_max_left _ _
    · exact Nat.le_trans (le_fieldsDepth m kv h) (Nat.le_max_right _ _)

mutual

/-- **A written value is read back**, its numbers by their texts. -/
theorem value_stringify : ∀ (v : Value) (depth : ℕ) (x : List UInt8), v.depth ≤ depth →
    Ends (v.toJVal n).isNum x → value depth (stringify n v ++ x) = some (v.toJVal n, x)
  | .null, depth, x, _, _ => by
    rw [stringify]
    exact value_null depth x
  | .bool b, depth, x, _, _ => by
    rw [stringify]
    exact value_encodeBool b depth x
  | .string s, depth, x, _, _ => by
    rw [stringify, quote, List.cons_append, List.append_assoc, List.singleton_append, Value.toJVal]
    exact value_quoted (quotes_quoteText s) depth x
  | .number (.finite y), depth, x, _, hx => value_number (n.numberValue_text y) depth hx
  | .number .nan, depth, x, _, _ => value_null depth x
  | .number (.infinity _), depth, x, _, _ => value_null depth x
  | .array xs, depth + 1, x, hdepth, _ => by
    have hitem := items_stringify xs
    cases xs with
    | nil =>
      rw [stringify, List.cons_append, List.singleton_append]
      exact value_emptyArray depth x
    | cons v vs =>
      obtain ⟨b, t, hb, hspace, hclose⟩ := stringify_head n v
      have hdepths := le_itemsDepth (v :: vs)
      rw [Value.depth] at hdepth
      have harray := @value_array Value depth (stringify n) (Value.toJVal n) x v vs
        (fun w hw y hy => hitem w hw depth y (by have hw := hdepths w hw; omega) hy) b t hb hspace
        hclose
      rw [stringify, stringifyItems_eq, Value.toJVal, itemsToJVal_eq, List.cons_append,
        List.append_assoc, List.singleton_append]
      exact harray
  | .object m, depth + 1, x, hdepth, _ => by
    have hitem := fields_stringify m
    cases m with
    | nil =>
      rw [stringify, List.cons_append, List.singleton_append]
      exact value_emptyObject depth x
    | cons kv m =>
      have hdepths := le_fieldsDepth (kv :: m)
      rw [Value.depth] at hdepth
      have hobject := @value_object (String × Value) depth (fun kv => stringify n kv.2)
        (fun kv => kv.2.toJVal n) _ _ (fun kv => quotes_quoteText kv.1) x kv m
        (fun kv hkv y hy => hitem kv hkv depth y (by have hkv := hdepths kv hkv; omega) hy)
      rw [Value.toJVal, fieldsToJVal_eq, stringify, stringifyFields_eq]
      simp only [quote, List.cons_append, List.append_assoc, List.nil_append] at hobject ⊢
      exact hobject
  | .array xs, 0, x, hdepth, _ => by
    simp [Value.depth] at hdepth
  | .object m, 0, x, hdepth, _ => by
    simp [Value.depth] at hdepth

theorem items_stringify : ∀ xs : List Value, ∀ v ∈ xs, ∀ (depth : ℕ) (x : List UInt8),
    v.depth ≤ depth → Ends (v.toJVal n).isNum x →
      value depth (stringify n v ++ x) = some (v.toJVal n, x)
  | [], _, h, _, _, _, _ => by cases h
  | v :: vs, w, h, depth, x, hdepth, hx => by
    rcases List.mem_cons.mp h with heq | h
    · rw [heq] at hdepth hx ⊢
      exact value_stringify v depth x hdepth hx
    · exact items_stringify vs w h depth x hdepth hx

theorem fields_stringify : ∀ m : List (String × Value), ∀ kv ∈ m, ∀ (depth : ℕ)
    (x : List UInt8), kv.2.depth ≤ depth → Ends (kv.2.toJVal n).isNum x →
      value depth (stringify n kv.2 ++ x) = some (kv.2.toJVal n, x)
  | [], _, h, _, _, _, _ => by cases h
  | (k, v) :: m, kv, h, depth, x, hdepth, hx => by
    rcases List.mem_cons.mp h with heq | h
    · rw [heq] at hdepth hx ⊢
      exact value_stringify v depth x hdepth hx
    · exact fields_stringify m kv h depth x hdepth hx

end

/-- The first value of a request body is the one that was written. -/
theorem firstValue_stringify {v : Value} (hdepth : v.depth ≤ maxNestingDepth) :
    firstValue (stringify n v) = some (v.toJVal n) := by
  have hread := value_stringify n v maxNestingDepth [] hdepth (by
    intro _ b hb
    cases hb)
  rw [List.append_nil] at hread
  unfold firstValue
  rw [hread, Option.map_some]

end

end Js
