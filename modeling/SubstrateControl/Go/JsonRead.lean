import SubstrateControl.Go.JsonText

/-!
# Reading what was written

What the reader makes of the parts of a JSON text, whoever wrote it.

* `Plain`, `stringLit_utf8_plain`, `stringLit_backslash` — what stays within a string literal.
* `Spells`, `joinUnits_spells` — units that stand for the characters of a text.
* `value_number` — a number literal is read as its value.
* `Quotes`, `value_quoted` — a string literal is read as its text.
* `value_array`, `value_object` — parts that are read one by one are read as a whole.
-/

set_option autoImplicit false

namespace Go

/-! ## Strings -/

/-- A character that is written as itself. -/
def Plain (c : Char) : Prop := c ≠ '"' ∧ c ≠ '\\' ∧ 0x20 ≤ c.toNat

theorem stringLit_bytes (s : List UInt8) : ∀ {p : List UInt8},
    (∀ b ∈ p, b ≠ byte '"' ∧ 0x20 ≤ b ∧ b ≠ byte '\\') →
      stringLit (p ++ s) = (stringLit s).map fun r => (p ++ r.1, r.2)
  | [], _ => by cases h : stringLit s <;> simp [h]
  | b :: p, h => by
    obtain ⟨hquote, hctl, hesc⟩ := h b (by simp)
    rw [List.cons_append, stringLit_cons, if_neg hquote, if_neg (UInt8.not_lt.mpr hctl),
      if_neg hesc, stringLit_bytes s fun c hc => h c (by simp [hc]), Option.map_map]
    simp [Function.comp_def]

/-- Different ASCII characters are different bytes. -/
theorem byte_ne {c d : Char} (hc : c.toNat < 0x80) (hd : d.toNat < 0x80) (h : c ≠ d) :
    UInt8.ofNat c.toNat ≠ byte d := by
  intro heq
  have hnat := congrArg UInt8.toNat heq
  simp only [byte] at hnat
  have hval : c.toNat = d.toNat := by
    have h1 : c.toNat % 256 = d.toNat % 256 := hnat
    omega
  exact h (Char.toNat_inj.mp hval)

/-- Bytes of plain characters stay in a literal. -/
theorem stringLit_plain {c : Char} (hc : Plain c) (s : List UInt8) :
    stringLit (String.utf8EncodeChar c ++ s) =
      (stringLit s).map fun r => (String.utf8EncodeChar c ++ r.1, r.2) := by
  apply stringLit_bytes
  intro b hb
  obtain ⟨hquote, hesc, hctl⟩ := hc
  by_cases hascii : c.toNat < 0x80
  · rw [utf8EncodeChar_ascii hascii, List.mem_singleton] at hb
    subst hb
    refine ⟨byte_ne hascii (by decide) hquote, ?_, byte_ne hascii (by decide) hesc⟩
    rw [UInt8.le_iff_toNat_le, UInt8.toNat_ofNat]
    show 32 ≤ c.toNat % 256
    omega
  · have hge := le_of_mem_utf8EncodeChar (Nat.le_of_not_lt hascii) hb
    have hne : ∀ d : Char, byte d < 0x80 → b ≠ byte d := by
      rintro d hd rfl
      exact absurd hd (UInt8.not_lt.mpr hge)
    exact ⟨hne _ (by decide), UInt8.le_trans (by decide) hge, hne _ (by decide)⟩

theorem stringLit_utf8_plain (s : List UInt8) : ∀ {cs : List Char}, (∀ c ∈ cs, Plain c) →
    stringLit (utf8 cs ++ s) = (stringLit s).map fun r => (utf8 cs ++ r.1, r.2)
  | [], _ => by cases h : stringLit s <;> simp [h]
  | c :: cs, h => by
    rw [utf8_cons, List.append_assoc, stringLit_plain (h c (by simp)),
      stringLit_utf8_plain s fun d hd => h d (by simp [hd]), Option.map_map]
    simp [Function.comp_def]

/-- A backslash takes an ASCII character with it. -/
theorem stringLit_backslash {e : Char} (he : e.toNat < 0x80) (s : List UInt8) :
    stringLit (utf8 ['\\', e] ++ s) = (stringLit s).map fun r => (utf8 ['\\', e] ++ r.1, r.2) := by
  have hbytes : utf8 ['\\', e] = [byte '\\', byte e] := by
    rw [utf8_cons, utf8_cons, utf8_nil, utf8EncodeChar_ascii he, utf8EncodeChar_ascii (by decide)]
    rfl
  rw [hbytes, List.cons_append, stringLit_cons, if_neg (by decide), if_neg (by decide), if_pos rfl]
  rfl

/-- A unit that stands for a character: itself, or the code of its escape. -/
def Spells (u : Char ⊕ ℕ) (c : Char) : Prop := u = .inl c ∨ u = .inr c.toNat

theorem units_plain {c : Char} (hc : c ≠ '\\') (s : List Char) :
    units (c :: s) = (units s).map (.inl c :: ·) := by
  rw [units.eq_def]
  split <;> simp_all

theorem isSurrogate_toNat (c : Char) : isSurrogate c.toNat = false := by
  unfold isSurrogate
  have hvalid : c.toNat < 0xd800 ∨ 0xdfff < c.toNat ∧ c.toNat < 0x110000 := c.valid
  simp only [Bool.and_eq_false_iff, decide_eq_false_iff_not]
  omega

/-- Units that spell a text join to it. -/
theorem joinUnits_spells : ∀ {us : List (Char ⊕ ℕ)} {cs : List Char},
    List.Forall₂ Spells us cs → joinUnits us = cs
  | _, _, .nil => rfl
  | u :: us, c :: cs, .cons hu hspell => by
    have ih := joinUnits_spells hspell
    rcases hu with rfl | rfl
    · simp only [joinUnits, ih]
    · have hchar : (if isSurrogate c.toNat = true then runeError else Char.ofNat c.toNat) = c := by
        rw [isSurrogate_toNat, if_neg (by decide), Char.ofNat_toNat]
      cases us with
      | nil =>
        cases hspell
        simp only [joinUnits, hchar]
      | cons v us =>
        cases v with
        | inl d =>
          simp only [joinUnits] at ih
          simp only [joinUnits, hchar, ih]
        | inr m =>
          have hpair : ¬ (c.toNat < 0xdc00 ∧ 0xd800 ≤ c.toNat ∧ 0xdc00 ≤ m ∧ m < 0xe000) := by
            rintro ⟨h1, h2, -, -⟩
            have hsur := isSurrogate_toNat c
            simp only [isSurrogate, Bool.and_eq_false_iff, decide_eq_false_iff_not] at hsur
            omega
          simp only [joinUnits, if_neg hpair, hchar, ih]

/-! ## Number literals -/

theorem digits_bytes {s ds r : List UInt8} (h : digits s = some (ds, r))
    (hr : ∀ b ∈ r, isNumberByte b = true) : ∀ b ∈ s, isNumberByte b = true := by
  intro b hb
  unfold digits at h
  split at h
  · cases h
  · cases h
    rw [← List.takeWhile_append_dropWhile (p := isDigitByte) (l := s), List.mem_append] at hb
    rcases hb with hb | hb
    · simp [isNumberByte, List.mem_takeWhile_imp hb]
    · exact hr b hb

theorem exponent_bytes {s : List UInt8} {e : ℤ} (h : exponent s = some e) :
    ∀ b ∈ s, isNumberByte b = true := by
  unfold exponent at h
  split at h
  · simp
  · rename_i c s
    split at h
    · cases h
    · rename_i hc
      have hc : isNumberByte c = true := by
        rw [Classical.not_and_iff_not_or_not, not_not, not_not] at hc
        rcases hc with rfl | rfl <;> decide
      split at h
      · cases h
      · rename_i sign ds
        have hrest : ∀ b ∈ sign :: ds, isNumberByte b = true := by
          split at h
          · rename_i hsign
            dsimp only at h
            split at h
            · rename_i hdigits
              intro b hb
              rcases List.mem_cons.mp hb with rfl | hb
              · rcases hsign with rfl | rfl <;> decide
              · exact digits_bytes hdigits (by simp) b hb
            · cases h
          · dsimp only at h
            split at h
            · rename_i hdigits
              exact digits_bytes hdigits (by simp)
            · cases h
        intro b hb
        rcases List.mem_cons.mp hb with rfl | hb
        · exact hc
        · exact hrest b hb

theorem fraction_bytes {s frac r : List UInt8} (h : fraction s = some (frac, r))
    (hr : ∀ b ∈ r, isNumberByte b = true) : ∀ b ∈ s, isNumberByte b = true := by
  unfold fraction at h
  split at h
  · simp
  · rename_i p s
    split at h
    · rename_i hp
      subst hp
      intro b hb
      rcases List.mem_cons.mp hb with rfl | hb
      · decide
      · exact digits_bytes h hr b hb
    · cases h
      exact hr

theorem unsignedValue_bytes {s : List UInt8} {q : ℚ} (h : unsignedValue s = some q) :
    ∀ b ∈ s, isNumberByte b = true := by
  unfold unsignedValue at h
  split at h
  · cases h
  · rename_i int r hint
    split at h
    · cases h
    · split at h
      · cases h
      · rename_i frac r' hfrac
        obtain ⟨e, he, -⟩ := Option.map_eq_some_iff.mp h
        exact digits_bytes hint (fraction_bytes hfrac (exponent_bytes he))

/-- A number literal holds no other bytes than those of numbers. -/
theorem numberValue_bytes {s : List UInt8} {q : ℚ} (h : numberValue s = some q) :
    ∀ b ∈ s, isNumberByte b = true := by
  unfold numberValue at h
  split at h
  · simp
  · rename_i c s
    split at h
    · rename_i hc
      subst hc
      obtain ⟨q', hq', -⟩ := Option.map_eq_some_iff.mp h
      intro b hb
      rcases List.mem_cons.mp hb with rfl | hb
      · decide
      · exact unsignedValue_bytes hq' b hb
    · exact unsignedValue_bytes h

/-- **A number literal is read as its value**, where nothing follows that could belong to it. -/
theorem scalar_number {s : List UInt8} {q : ℚ} (h : numberValue s = some q) {x : List UInt8}
    (hx : Ends true x) : scalar (s ++ x) = some (.num q, x) := by
  have hbytes := numberValue_bytes h
  obtain ⟨htake, hdrop⟩ := span_append hbytes (hx rfl)
  cases s with
  | nil => cases h
  | cons b s =>
    have hb := hbytes b (by simp)
    have hne : ∀ c : UInt8, isNumberByte c = false → b ≠ c := by
      rintro c hc rfl
      rw [hb] at hc
      cases hc
    rw [List.cons_append] at htake hdrop ⊢
    simp only [scalar, if_neg (hne _ (show isNumberByte (byte '"') = false by decide)),
      if_neg (hne _ (show isNumberByte (byte 't') = false by decide)),
      if_neg (hne _ (show isNumberByte (byte 'f') = false by decide)),
      if_neg (hne _ (show isNumberByte (byte 'n') = false by decide)), htake, hdrop, h,
      Option.map_some]

/-! ## Literals -/

/-- The bytes between two quotes, which are read as `t`. -/
def Quotes (lit : List UInt8) (t : String) : Prop :=
  (∀ x, stringLit (lit ++ byte '"' :: x) = some (lit, x)) ∧ unquote lit = some t

theorem scalar_quoted {lit : List UInt8} {t : String} (h : Quotes lit t) (x : List UInt8) :
    scalar (byte '"' :: (lit ++ byte '"' :: x)) = some (.str t, x) := by
  simp only [scalar, if_true, h.1, h.2, Option.map_some]

/-- A member is read where its value is. -/
theorem member_quoted {item : List UInt8 → Option (JVal × List UInt8)} {lit : List UInt8}
    {name : String} (hname : Quotes lit name) {text x : List UInt8} {v : JVal}
    (h : item text = some (v, x)) :
    member item (byte '"' :: (lit ++ byte '"' :: byte ':' :: text)) = some ((name, v), x) := by
  simp only [member, skipSpace_cons (show isSpaceByte (byte '"') = false by decide),
    skipSpace_cons (show isSpaceByte (byte ':') = false by decide), ne_eq, not_true_eq_false,
    if_false, hname.1, hname.2, if_true, h, Option.map_some]

/-- A first byte of a value that is neither an array nor an object. -/
structure StartsScalar (b : UInt8) : Prop where
  space : isSpaceByte b = false
  array : b ≠ byte '['
  object : b ≠ byte '\x7b'
  close : b ≠ byte ']'

theorem startsScalar_of_number {b : UInt8} (h : isNumberByte b = true) : StartsScalar b := by
  have hne : ∀ c, isNumberByte c = false → b ≠ c := by
    rintro c hc rfl
    rw [h] at hc
    cases hc
  refine ⟨?_, hne _ (by decide), hne _ (by decide), hne _ (by decide)⟩
  by_contra hspace
  have hno := isNumberByte_of_space (by simpa using hspace)
  rw [h] at hno
  cases hno

theorem startsScalar_quote : StartsScalar (byte '"') :=
  ⟨by decide, by decide, by decide, by decide⟩

/-- A number literal starts like a scalar. -/
theorem numberValue_head {s : List UInt8} {q : ℚ} (h : numberValue s = some q) :
    ∃ b t, s = b :: t ∧ StartsScalar b := by
  cases s with
  | nil => cases h
  | cons b t => exact ⟨b, t, rfl, startsScalar_of_number (numberValue_bytes h b (by simp))⟩

/-- A value that opens no bracket is a scalar. -/
theorem value_eq_scalar {b : UInt8} {t : List UInt8} (hb : StartsScalar b) :
    ∀ depth, value depth (b :: t) = scalar (b :: t)
  | 0 => by rw [value, skipSpace_cons hb.space]
  | depth + 1 => by
    rw [value, skipSpace_cons hb.space, compound, if_neg hb.array, if_neg hb.object]

theorem value_quoted {lit : List UInt8} {t : String} (h : Quotes lit t) (depth : ℕ)
    (x : List UInt8) : value depth (byte '"' :: (lit ++ byte '"' :: x)) = some (.str t, x) := by
  rw [value_eq_scalar startsScalar_quote, scalar_quoted h]

theorem value_number {s : List UInt8} {q : ℚ} (h : numberValue s = some q) (depth : ℕ)
    {x : List UInt8} (hx : Ends true x) : value depth (s ++ x) = some (.num q, x) := by
  obtain ⟨b, t, rfl, hb⟩ := numberValue_head h
  rw [← scalar_number h hx, List.cons_append, value_eq_scalar hb]

theorem value_null (depth : ℕ) (x : List UInt8) :
    value depth (utf8 "null".toList ++ x) = some (.null, x) := by
  have hscalar : scalar (utf8 "null".toList ++ x) = some (.null, x) := by
    show literal "null" .null (utf8 "null".toList ++ x) = _
    exact literal_eq_some.mpr ⟨rfl, rfl⟩
  rw [← hscalar]
  exact value_eq_scalar ⟨by decide, by decide, by decide, by decide⟩ depth

/-! ## Items between brackets -/

/-- A byte that closes a list of items. -/
structure Closes (close : UInt8) : Prop where
  space : isSpaceByte close = false
  number : isNumberByte close = false
  comma : close ≠ byte ','

theorem closes_array : Closes (byte ']') := ⟨by decide, by decide, by decide⟩

theorem closes_object : Closes (byte '\x7d') := ⟨by decide, by decide, by decide⟩

section

variable {α β : Type} {close : UInt8} {item : List UInt8 → Option (α × List UInt8)}
  {enc : β → List UInt8} {val : β → α} {num : α → Bool}

/-- Items that are read one by one are read as a list. -/
theorem items_joined (hclose : Closes close) (x : List UInt8) : ∀ (v : β) (vs : List β) (k : ℕ),
      (∀ w ∈ v :: vs, ∀ y, Ends (num (val w)) y → item (enc w ++ y) = some (val w, y)) →
      vs.length < k →
      items close item k (enc v ++ ((vs.flatMap fun w => byte ',' :: enc w) ++ close :: x)) =
        some (val v :: vs.map val, x)
  | v, [], k + 1, hitem, _ => by
    rw [List.flatMap_nil, List.nil_append, items, hitem v (by simp) _ (Ends.cons hclose.number x)]
    simp only [skipSpace_cons hclose.space, if_neg hclose.comma, if_true, List.map_nil]
  | v, w :: ws, k + 1, hitem, hk => by
    have ih := items_joined hclose x w ws k (fun u hu => hitem u (by simp [hu]))
      (by simpa using hk)
    have hcomma : isSpaceByte (byte ',') = false := by decide
    rw [List.flatMap_cons, List.cons_append, List.cons_append, List.append_assoc, items,
      hitem v (by simp) _ (Ends.cons (by decide) _)]
    simp only [skipSpace_cons hcomma, if_true, ih, Option.map_some, List.map_cons]

/-- The same behind the opening bracket, where no item starts with the closing one. -/
theorem group_joined (hclose : Closes close) (x : List UInt8) (v : β) (vs : List β)
    (hitem : ∀ w ∈ v :: vs, ∀ y, Ends (num (val w)) y → item (enc w ++ y) = some (val w, y))
    {b : UInt8} {t : List UInt8} (hhead : enc v = b :: t) (hb : isSpaceByte b = false)
    (hne : b ≠ close) :
    group close item (enc v ++ (vs.flatMap fun w => byte ',' :: enc w) ++ close :: x) =
      some (val v :: vs.map val, x) := by
  have hlen : ∀ ws : List β, ws.length ≤ (ws.flatMap fun w => byte ',' :: enc w).length := by
    intro ws
    induction ws with
    | nil => exact Nat.le_refl _
    | cons w ws ih =>
      rw [List.flatMap_cons, List.length_append, List.length_cons, List.length_cons]
      omega
  have hskip : ∀ y, skipSpace (enc v ++ y) = b :: (t ++ y) := by
    intro y
    rw [hhead, List.cons_append, skipSpace_cons hb]
  rw [group, List.append_assoc, hskip]
  simp only [if_neg hne]
  apply items_joined hclose x v vs _ hitem
  have hvs := hlen vs
  simp only [List.length_append, List.length_cons]
  omega

end

/-! ## Arrays and objects -/

theorem value_emptyArray (depth : ℕ) (x : List UInt8) :
    value (depth + 1) (byte '[' :: byte ']' :: x) = some (.arr [], x) := rfl

theorem value_emptyObject (depth : ℕ) (x : List UInt8) :
    value (depth + 1) (byte '\x7b' :: byte '\x7d' :: x) = some (.obj [], x) := rfl

section

variable {β : Type} {depth : ℕ} {enc : β → List UInt8} {val : β → JVal}

/-- **Values that are read one by one are read as an array.** -/
theorem value_array (x : List UInt8) (v : β) (vs : List β)
    (hitem : ∀ w ∈ v :: vs, ∀ y, Ends (val w).isNum y →
      value depth (enc w ++ y) = some (val w, y))
    {b : UInt8} {t : List UInt8} (hhead : enc v = b :: t) (hb : isSpaceByte b = false)
    (hne : b ≠ byte ']') :
    value (depth + 1)
        (byte '[' :: (enc v ++ (vs.flatMap fun w => byte ',' :: enc w) ++ byte ']' :: x)) =
      some (.arr (val v :: vs.map val), x) := by
  have hgroup := group_joined closes_array x v vs hitem hhead hb hne
  rw [value, skipSpace_cons (by decide), compound, if_pos rfl, hgroup, Option.map_some]

/-- **Members that are read one by one are read as an object.** -/
theorem value_object {lit : β → List UInt8} {name : β → String}
    (hname : ∀ w, Quotes (lit w) (name w)) (x : List UInt8) (v : β) (vs : List β)
    (hitem : ∀ w ∈ v :: vs, ∀ y, Ends (val w).isNum y →
      value depth (enc w ++ y) = some (val w, y)) :
    let field w := byte '"' :: (lit w ++ byte '"' :: byte ':' :: enc w)
    value (depth + 1)
        (byte '\x7b' :: (field v ++ (vs.flatMap fun w => byte ',' :: field w) ++
          byte '\x7d' :: x)) =
      some (.obj ((name v, val v) :: vs.map fun w => (name w, val w)), x) := by
  intro field
  have hmember : ∀ w ∈ v :: vs, ∀ y, Ends (val w).isNum y →
      member (value depth) (field w ++ y) = some ((name w, val w), y) := by
    intro w hw y hy
    have htext : field w ++ y =
        byte '"' :: (lit w ++ byte '"' :: byte ':' :: (enc w ++ y)) := by
      simp [field]
    rw [htext]
    exact member_quoted (hname w) (hitem w hw y hy)
  have hgroup := @group_joined (String × JVal) β (byte '\x7d') (member (value depth)) field
    (fun w => (name w, val w)) (fun m => m.2.isNum) closes_object x v vs hmember (byte '"') _ rfl
    startsScalar_quote.space (by decide)
  rw [value, skipSpace_cons (by decide), compound, if_neg (by decide), if_pos rfl, hgroup,
    Option.map_some]

end

end Go
