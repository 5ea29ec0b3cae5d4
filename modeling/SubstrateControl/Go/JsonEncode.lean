import Mathlib.Data.Nat.Digits.Lemmas
import SubstrateControl.Go.JsonRead

/-!
# Writing JSON

How `encoding/json` writes a value, with HTML escaping off, and that it is read back.

* `Doc` — a value to be written: strings are bytes, as Go has them.
* `escapeText`, `encode` — a byte that is not UTF-8 is written as `\ufffd`; quotes, backslashes,
  control characters and the two line separators are escaped.
* `Doc.toJVal` — what a document says: its strings by their runes.
* `value_encode`, `parse_encode` — an encoded document is read back as what it says.
-/

set_option autoImplicit false

namespace Go

/-- What the console writes as JSON. -/
inductive Doc where
  | str (s : List UInt8)
  | nat (n : ℕ)
  | bool (b : Bool)
  | arr (xs : List Doc)
  | obj (fields : List (List UInt8 × Doc))
  deriving Repr

/-! ## Strings -/

def hexChar (n : ℕ) : Char := if n < 10 then Char.ofNat ('0'.toNat + n) else Char.ofNat (87 + n)

/-- How a rune is written. -/
def escapeChar (c : Char) : List Char :=
  if c = '"' ∨ c = '\\' then ['\\', c]
  else if c = '\x08' then ['\\', 'b']
  else if c = '\x0c' then ['\\', 'f']
  else if c = '\n' then ['\\', 'n']
  else if c = '\r' then ['\\', 'r']
  else if c = '\t' then ['\\', 't']
  else if c.toNat < 0x20 then ['\\', 'u', '0', '0', hexChar (c.toNat / 16), hexChar (c.toNat % 16)]
  else if c = '\u2028' ∨ c = '\u2029' then ['\\', 'u', '2', '0', '2', hexChar (c.toNat % 16)]
  else [c]

/-- `appendString` between the quotes, behind `skip` bytes of the rune before. -/
def escapeAfter : (skip : ℕ) → List UInt8 → List Char
  | _, [] => []
  | skip + 1, _ :: bs => escapeAfter skip bs
  | 0, b :: bs =>
    (if decodeRune (b :: bs) = (runeError, 1) then ['\\', 'u', 'f', 'f', 'f', 'd']
      else escapeChar (decodeRune (b :: bs)).1) ++
    escapeAfter ((decodeRune (b :: bs)).2 - 1) bs

def escapeText (s : List UInt8) : List Char := escapeAfter 0 s

/-- `appendString`. -/
def encodeString (s : List UInt8) : List UInt8 := byte '"' :: (utf8 (escapeText s) ++ [byte '"'])

/-- `strconv.AppendUint` in base ten. -/
def encodeNat (n : ℕ) : List UInt8 :=
  if n = 0 then [byte '0'] else (Nat.digits 10 n).reverse.map fun d => UInt8.ofNat ('0'.toNat + d)

mutual

/-- `json.Encoder.Encode` without its final newline. -/
def encode : Doc → List UInt8
  | .str s => encodeString s
  | .nat n => encodeNat n
  | .bool b => utf8 (if b then "true" else "false").toList
  | .arr [] => [byte '[', byte ']']
  | .arr (x :: xs) => byte '[' :: (encode x ++ encodeItems xs ++ [byte ']'])
  | .obj [] => [byte '\x7b', byte '\x7d']
  | .obj ((k, x) :: m) =>
    byte '\x7b' :: (encodeString k ++ byte ':' :: (encode x ++ encodeFields m) ++ [byte '\x7d'])

def encodeItems : List Doc → List UInt8
  | [] => []
  | x :: xs => byte ',' :: (encode x ++ encodeItems xs)

def encodeFields : List (List UInt8 × Doc) → List UInt8
  | [] => []
  | (k, x) :: m => byte ',' :: (encodeString k ++ byte ':' :: (encode x ++ encodeFields m))

end

/-- `json.Encoder.Encode`. -/
def encodeLine (d : Doc) : List UInt8 := encode d ++ [byte '\n']

/-- A string as text. -/
def textOf (s : List UInt8) : String := String.ofList (runes s)

mutual

/-- What a document says. -/
def Doc.toJVal : Doc → JVal
  | .str s => .str (textOf s)
  | .nat n => .num n
  | .bool b => .bool b
  | .arr xs => .arr (itemsToJVal xs)
  | .obj m => .obj (fieldsToJVal m)

def itemsToJVal : List Doc → List JVal
  | [] => []
  | x :: xs => x.toJVal :: itemsToJVal xs

def fieldsToJVal : List (List UInt8 × Doc) → List (String × JVal)
  | [] => []
  | (k, x) :: m => (textOf k, x.toJVal) :: fieldsToJVal m

end

mutual

/-- How many arrays and objects stand around another. -/
def Doc.depth : Doc → ℕ
  | .arr xs => itemsDepth xs + 1
  | .obj m => fieldsDepth m + 1
  | _ => 0

def itemsDepth : List Doc → ℕ
  | [] => 0
  | x :: xs => max x.depth (itemsDepth xs)

def fieldsDepth : List (List UInt8 × Doc) → ℕ
  | [] => 0
  | (_, x) :: m => max x.depth (fieldsDepth m)

end

/-! ## Strings are read back -/

theorem hexChar_plain : ∀ n < 16, Plain (hexChar n) := by
  unfold Plain
  decide

theorem hex4_control : ∀ n < 0x20, hex4 '0' '0' (hexChar (n / 16)) (hexChar (n % 16)) = some n := by
  decide

theorem plain_digits {a b c d : Char} (ha : Plain a) (hb : Plain b) (hc : Plain c) (hd : Plain d) :
    ∀ x ∈ [a, b, c, d], Plain x := by
  intro x hx
  simp only [List.mem_cons, List.not_mem_nil, or_false] at hx
  rcases hx with rfl | rfl | rfl | rfl
  · exact ha
  · exact hb
  · exact hc
  · exact hd

/-- A rune is written as itself or as a backslash, a letter and plain characters. -/
theorem escapeChar_cases (c : Char) :
    (escapeChar c = [c] ∧ Plain c) ∨
    ∃ e cs, escapeChar c = '\\' :: e :: cs ∧ e.toNat < 0x80 ∧ ∀ d ∈ cs, Plain d := by
  unfold escapeChar
  split
  · rename_i h
    refine Or.inr ⟨c, [], rfl, ?_, nofun⟩
    rcases h with rfl | rfl <;> decide
  · rename_i hquote
    rw [not_or] at hquote
    split
    · exact Or.inr ⟨'b', [], rfl, by decide, nofun⟩
    split
    · exact Or.inr ⟨'f', [], rfl, by decide, nofun⟩
    split
    · exact Or.inr ⟨'n', [], rfl, by decide, nofun⟩
    split
    · exact Or.inr ⟨'r', [], rfl, by decide, nofun⟩
    split
    · exact Or.inr ⟨'t', [], rfl, by decide, nofun⟩
    split
    · refine Or.inr ⟨'u', _, rfl, by decide, ?_⟩
      have hzero : Plain '0' := hexChar_plain 0 (by omega)
      exact plain_digits hzero hzero (hexChar_plain _ (by omega)) (hexChar_plain _ (by omega))
    split
    · refine Or.inr ⟨'u', _, rfl, by decide, ?_⟩
      have htwo : Plain '2' := hexChar_plain 2 (by omega)
      have hzero : Plain '0' := hexChar_plain 0 (by omega)
      exact plain_digits htwo hzero htwo (hexChar_plain _ (by omega))
    · rename_i hctl _
      exact Or.inl ⟨rfl, hquote.1, hquote.2, Nat.le_of_not_lt hctl⟩

theorem stringLit_escapeChar (c : Char) (s : List UInt8) :
    stringLit (utf8 (escapeChar c) ++ s) =
      (stringLit s).map fun r => (utf8 (escapeChar c) ++ r.1, r.2) := by
  rcases escapeChar_cases c with ⟨h, hc⟩ | ⟨e, cs, h, he, hcs⟩
  · rw [h]
    exact stringLit_utf8_plain s (by simpa using hc)
  · rw [h, show '\\' :: e :: cs = ['\\', e] ++ cs from rfl, utf8_append, List.append_assoc,
      stringLit_backslash he, stringLit_utf8_plain s hcs, Option.map_map]
    simp [Function.comp_def]

theorem stringLit_escapeAfter (s : List UInt8) : ∀ (skip : ℕ) (bs : List UInt8),
    stringLit (utf8 (escapeAfter skip bs) ++ s) =
      (stringLit s).map fun r => (utf8 (escapeAfter skip bs) ++ r.1, r.2)
  | _, [] => by cases h : stringLit s <;> simp [escapeAfter, h]
  | skip + 1, _ :: bs => stringLit_escapeAfter s skip bs
  | 0, b :: bs => by
    have ih := stringLit_escapeAfter s ((decodeRune (b :: bs)).2 - 1) bs
    simp only [escapeAfter, utf8_append, List.append_assoc]
    split
    · have hplain : ∀ d ∈ ['f', 'f', 'f', 'd'], Plain d := by
        simp [Plain]
      rw [show ['\\', 'u', 'f', 'f', 'f', 'd'] = ['\\', 'u'] ++ ['f', 'f', 'f', 'd'] from rfl,
        utf8_append, List.append_assoc, stringLit_backslash (by decide),
        stringLit_utf8_plain _ hplain, ih]
      simp [Function.comp_def]
    · rw [stringLit_escapeChar, ih]
      simp [Function.comp_def]

/-- **A written literal ends at its quote.** -/
theorem stringLit_escapeText (bs x : List UInt8) :
    stringLit (utf8 (escapeText bs) ++ byte '"' :: x) = some (utf8 (escapeText bs), x) := by
  unfold escapeText
  rw [stringLit_escapeAfter, stringLit_cons, if_pos rfl]
  simp

/-- What is written for a rune is read as this rune. -/
theorem units_escapeChar (c : Char) :
    ∃ u, Spells u c ∧ ∀ s, units (escapeChar c ++ s) = (units s).map (u :: ·) := by
  unfold escapeChar
  split
  · rename_i h
    refine ⟨.inl c, Or.inl rfl, fun s => ?_⟩
    rcases h with rfl | rfl <;> rfl
  · rename_i hquote
    rw [not_or] at hquote
    split
    · subst_vars
      exact ⟨_, Or.inl rfl, fun s => rfl⟩
    split
    · subst_vars
      exact ⟨_, Or.inl rfl, fun s => rfl⟩
    split
    · subst_vars
      exact ⟨_, Or.inl rfl, fun s => rfl⟩
    split
    · subst_vars
      exact ⟨_, Or.inl rfl, fun s => rfl⟩
    split
    · subst_vars
      exact ⟨_, Or.inl rfl, fun s => rfl⟩
    split
    · rename_i hctl
      refine ⟨.inr c.toNat, Or.inr rfl, fun s => ?_⟩
      simp only [List.cons_append, List.nil_append, units, hex4_control _ hctl]
    split
    · rename_i hline
      refine ⟨.inr c.toNat, Or.inr rfl, fun s => ?_⟩
      rcases hline with rfl | rfl <;> rfl
    · exact ⟨.inl c, Or.inl rfl, fun s => units_plain hquote.2 s⟩

/-- **The units of a written string spell its runes.** -/
theorem units_escapeAfter : ∀ (skip : ℕ) (bs : List UInt8),
    ∃ us, units (escapeAfter skip bs) = some us ∧ List.Forall₂ Spells us (runesAfter skip bs)
  | _, [] => ⟨[], by simp [escapeAfter, units], by simp [runesAfter]⟩
  | skip + 1, _ :: bs => units_escapeAfter skip bs
  | 0, b :: bs => by
    obtain ⟨us, hus, hspell⟩ := units_escapeAfter ((decodeRune (b :: bs)).2 - 1) bs
    simp only [escapeAfter, runesAfter]
    split
    · rename_i hinvalid
      refine ⟨.inr 0xfffd :: us, ?_, List.Forall₂.cons (Or.inr ?_) hspell⟩
      · simp only [List.cons_append, List.nil_append, units, hus]
        rfl
      · rw [hinvalid]
        rfl
    · obtain ⟨u, hu, hread⟩ := units_escapeChar (decodeRune (b :: bs)).1
      exact ⟨u :: us, by rw [hread, hus, Option.map_some], List.Forall₂.cons hu hspell⟩

/-- **A written string is unquoted to its runes.** -/
theorem unquote_escapeText (bs : List UInt8) :
    unquote (utf8 (escapeText bs)) = some (textOf bs) := by
  obtain ⟨us, hus, hspell⟩ := units_escapeAfter 0 bs
  unfold unquote escapeText
  rw [runes_utf8, hus, Option.map_some, joinUnits_spells hspell]
  rfl

/-! ## Numbers are read back -/

theorem digitByte_spec : ∀ d < 10, isDigitByte (UInt8.ofNat ('0'.toNat + d)) = true ∧
    (UInt8.ofNat ('0'.toNat + d)).toNat - '0'.toNat = d := by
  decide

theorem isDigitByte_encodeNat (n : ℕ) : ∀ b ∈ encodeNat n, isDigitByte b = true := by
  intro b hb
  unfold encodeNat at hb
  split at hb
  · rw [List.mem_singleton] at hb
    subst hb
    decide
  · obtain ⟨d, hd, rfl⟩ := List.mem_map.mp hb
    exact (digitByte_spec d (Nat.digits_lt_base (by decide) (List.mem_reverse.mp hd))).1

theorem encodeNat_ne_nil (n : ℕ) : encodeNat n ≠ [] := by
  unfold encodeNat
  split
  · simp
  · rename_i h
    rw [ne_eq, List.map_eq_nil_iff, List.reverse_eq_nil_iff]
    exact Nat.digits_ne_nil_iff_ne_zero.mpr h

theorem natOfDigits_reverse : ∀ ds : List ℕ, (∀ d ∈ ds, d < 10) →
    natOfDigits (ds.reverse.map fun d => UInt8.ofNat ('0'.toNat + d)) = Nat.ofDigits 10 ds
  | [], _ => rfl
  | d :: ds, h => by
    have ih := natOfDigits_reverse ds fun e he => h e (by simp [he])
    have hd := (digitByte_spec d (h d (by simp))).2
    unfold natOfDigits at ih ⊢
    rw [List.reverse_cons, List.map_append, List.foldl_append, ih, Nat.ofDigits_cons]
    simp only [List.map_cons, List.map_nil, List.foldl_cons, List.foldl_nil, hd]
    omega

/-- The digits of a number spell it. -/
theorem natOfDigits_encodeNat (n : ℕ) : natOfDigits (encodeNat n) = n := by
  unfold encodeNat
  split
  · subst_vars
    rfl
  · rw [natOfDigits_reverse _ fun d hd => Nat.digits_lt_base (by decide) hd, Nat.ofDigits_digits]

/-- No number but zero starts with a zero. -/
theorem encodeNat_head (n : ℕ) (h : (encodeNat n).head? = some (byte '0')) :
    (encodeNat n).length = 1 := by
  unfold encodeNat at h ⊢
  split at h
  · rw [if_pos (by assumption)]
    rfl
  · rename_i hn
    have hne : Nat.digits 10 n ≠ [] := Nat.digits_ne_nil_iff_ne_zero.mpr hn
    rw [List.head?_map, List.head?_reverse, List.getLast?_eq_some_getLast hne, Option.map_some,
      Option.some.injEq] at h
    have hlast := Nat.getLast_digit_ne_zero 10 hn
    have hlt := Nat.digits_lt_base (b := 10) (by decide) (List.getLast_mem hne)
    have hd := (digitByte_spec _ hlt).2
    rw [h] at hd
    exact absurd hd.symm hlast

/-- **A written number is read as this number.** -/
theorem numberValue_encodeNat (n : ℕ) : numberValue (encodeNat n) = some (n : ℚ) := by
  have hdigits := isDigitByte_encodeNat n
  have htake : (encodeNat n).takeWhile isDigitByte = encodeNat n :=
    List.takeWhile_eq_self_iff.mpr hdigits
  have hdrop : (encodeNat n).dropWhile isDigitByte = [] := List.dropWhile_eq_nil_iff.mpr hdigits
  have hunsigned : unsignedValue (encodeNat n) = some (n : ℚ) := by
    have hhead : ¬ ((encodeNat n).head? = some (byte '0') ∧ (encodeNat n).length ≠ 1) := by
      rintro ⟨h0, hlen⟩
      exact hlen (encodeNat_head n h0)
    unfold unsignedValue digits
    rw [htake, if_neg (encodeNat_ne_nil n), hdrop]
    simp only
    rw [if_neg hhead]
    simp [fraction, exponent, scale10, natOfDigits_encodeNat]
  obtain ⟨b, s, hb⟩ := List.exists_cons_of_ne_nil (encodeNat_ne_nil n)
  have hsign : b ≠ byte '-' := by
    rintro rfl
    have hbad := hdigits (byte '-') (by simp [hb])
    revert hbad
    decide
  rw [hb] at hunsigned ⊢
  rw [numberValue, if_neg hsign, hunsigned]

/-! ## Documents are read back -/

theorem quotes_escapeText (s : List UInt8) : Quotes (utf8 (escapeText s)) (textOf s) :=
  ⟨stringLit_escapeText s, unquote_escapeText s⟩

theorem value_encodeBool (b : Bool) (depth : ℕ) (x : List UInt8) :
    value depth (encode (.bool b) ++ x) = some (.bool b, x) := by
  cases b with
  | true =>
    have hscalar : scalar (encode (.bool true) ++ x) = some (.bool true, x) := by
      show literal "true" (.bool true) (utf8 "true".toList ++ x) = _
      exact literal_eq_some.mpr ⟨rfl, rfl⟩
    rw [← hscalar]
    exact value_eq_scalar ⟨by decide, by decide, by decide, by decide⟩ depth
  | false =>
    have hscalar : scalar (encode (.bool false) ++ x) = some (.bool false, x) := by
      show literal "false" (.bool false) (utf8 "false".toList ++ x) = _
      exact literal_eq_some.mpr ⟨rfl, rfl⟩
    rw [← hscalar]
    exact value_eq_scalar ⟨by decide, by decide, by decide, by decide⟩ depth

/-- The first byte of a document is no white space and closes no array. -/
theorem encode_head (v : Doc) :
    ∃ b t, encode v = b :: t ∧ isSpaceByte b = false ∧ b ≠ byte ']' := by
  cases v with
  | str s => exact ⟨byte '"', _, by rw [encode, encodeString], by decide, by decide⟩
  | nat n =>
    obtain ⟨b, t, hb, hstart⟩ := numberValue_head (numberValue_encodeNat n)
    exact ⟨b, t, by rw [encode, hb], hstart.space, hstart.close⟩
  | bool b => cases b <;> exact ⟨_, _, by rw [encode]; rfl, by decide, by decide⟩
  | arr xs => cases xs <;> exact ⟨byte '[', _, by rw [encode], by decide, by decide⟩
  | obj m => cases m <;> exact ⟨byte '\x7b', _, by rw [encode], by decide, by decide⟩

theorem encodeItems_eq : ∀ xs : List Doc, encodeItems xs = xs.flatMap fun w => byte ',' :: encode w
  | [] => by rw [encodeItems, List.flatMap_nil]
  | x :: xs => by
    rw [encodeItems, encodeItems_eq xs, List.flatMap_cons]
    rfl

theorem encodeFields_eq : ∀ m : List (List UInt8 × Doc), encodeFields m =
    m.flatMap fun kv => byte ',' :: (encodeString kv.1 ++ byte ':' :: encode kv.2)
  | [] => by rw [encodeFields, List.flatMap_nil]
  | (k, x) :: m => by
    rw [encodeFields, encodeFields_eq m, List.flatMap_cons]
    simp

theorem itemsToJVal_eq : ∀ xs : List Doc, itemsToJVal xs = xs.map Doc.toJVal
  | [] => by rw [itemsToJVal, List.map_nil]
  | x :: xs => by rw [itemsToJVal, itemsToJVal_eq xs, List.map_cons]

theorem fieldsToJVal_eq : ∀ m : List (List UInt8 × Doc),
    fieldsToJVal m = m.map fun kv => (textOf kv.1, kv.2.toJVal)
  | [] => by rw [fieldsToJVal, List.map_nil]
  | (k, x) :: m => by rw [fieldsToJVal, fieldsToJVal_eq m, List.map_cons]

theorem le_itemsDepth : ∀ xs : List Doc, ∀ v ∈ xs, v.depth ≤ itemsDepth xs
  | [], _, h => by cases h
  | x :: xs, v, h => by
    rw [itemsDepth]
    rcases List.mem_cons.mp h with rfl | h
    · exact Nat.le_max_left _ _
    · exact Nat.le_trans (le_itemsDepth xs v h) (Nat.le_max_right _ _)

theorem le_fieldsDepth : ∀ m : List (List UInt8 × Doc), ∀ kv ∈ m, kv.2.depth ≤ fieldsDepth m
  | [], _, h => by cases h
  | (k, x) :: m, kv, h => by
    rw [fieldsDepth]
    rcases List.mem_cons.mp h with rfl | h
    · exact Nat.le_max_left _ _
    · exact Nat.le_trans (le_fieldsDepth m kv h) (Nat.le_max_right _ _)

mutual

/-- **A written document is read back as what it says.** -/
theorem value_encode : ∀ (v : Doc) (depth : ℕ) (x : List UInt8), v.depth ≤ depth →
    Ends v.toJVal.isNum x → value depth (encode v ++ x) = some (v.toJVal, x)
  | .str s, depth, x, _, _ => by
    rw [encode, encodeString, List.cons_append, List.append_assoc, List.singleton_append,
      Doc.toJVal]
    exact value_quoted (quotes_escapeText s) depth x
  | .nat n, depth, x, _, hx => by
    rw [encode, Doc.toJVal]
    exact value_number (numberValue_encodeNat n) depth hx
  | .bool b, depth, x, _, _ => value_encodeBool b depth x
  | .arr xs, depth + 1, x, hdepth, _ => by
    have hitem := items_encode xs
    cases xs with
    | nil =>
      rw [encode, List.cons_append, List.singleton_append]
      exact value_emptyArray depth x
    | cons v vs =>
      obtain ⟨b, t, hb, hspace, hclose⟩ := encode_head v
      have hdepths := le_itemsDepth (v :: vs)
      rw [Doc.depth] at hdepth
      have harray := value_array x v vs (fun w hw y hy => hitem w hw depth y
        (by have hw := hdepths w hw; omega) hy) hb hspace hclose
      rw [encode, encodeItems_eq, Doc.toJVal, itemsToJVal_eq, List.cons_append, List.append_assoc,
        List.singleton_append]
      exact harray
  | .obj m, depth + 1, x, hdepth, _ => by
    have hitem := fields_encode m
    cases m with
    | nil =>
      rw [encode, List.cons_append, List.singleton_append]
      exact value_emptyObject depth x
    | cons kv m =>
      have hdepths := le_fieldsDepth (kv :: m)
      rw [Doc.depth] at hdepth
      have hobject := value_object (fun kv => quotes_escapeText kv.1) x kv m
        (fun kv hkv y hy => hitem kv hkv depth y (by have hkv := hdepths kv hkv; omega) hy)
      rw [Doc.toJVal, fieldsToJVal_eq, encode, encodeFields_eq]
      simp only [encodeString, List.cons_append, List.append_assoc, List.nil_append] at hobject ⊢
      exact hobject
  | .arr xs, 0, x, hdepth, _ => by
    simp [Doc.depth] at hdepth
  | .obj m, 0, x, hdepth, _ => by
    simp [Doc.depth] at hdepth

theorem items_encode : ∀ xs : List Doc, ∀ v ∈ xs, ∀ (depth : ℕ) (x : List UInt8),
    v.depth ≤ depth → Ends v.toJVal.isNum x → value depth (encode v ++ x) = some (v.toJVal, x)
  | [], _, h, _, _, _, _ => by cases h
  | v :: vs, w, h, depth, x, hdepth, hx => by
    rcases List.mem_cons.mp h with heq | h
    · rw [heq] at hdepth hx ⊢
      exact value_encode v depth x hdepth hx
    · exact items_encode vs w h depth x hdepth hx

theorem fields_encode : ∀ m : List (List UInt8 × Doc), ∀ kv ∈ m, ∀ (depth : ℕ) (x : List UInt8),
    kv.2.depth ≤ depth → Ends kv.2.toJVal.isNum x →
      value depth (encode kv.2 ++ x) = some (kv.2.toJVal, x)
  | [], _, h, _, _, _, _ => by cases h
  | (k, v) :: m, kv, h, depth, x, hdepth, hx => by
    rcases List.mem_cons.mp h with heq | h
    · rw [heq] at hdepth hx ⊢
      exact value_encode v depth x hdepth hx
    · exact fields_encode m kv h depth x hdepth hx

end

/-- **What the encoder writes parses to what the document says.** -/
theorem parse_encode {d : Doc} (hdepth : d.depth ≤ maxNestingDepth) :
    parse (encodeLine d) = some d.toJVal := by
  unfold parse encodeLine
  rw [value_encode d maxNestingDepth [byte '\n'] hdepth (Ends.cons (by decide) [])]
  rfl

end Go
