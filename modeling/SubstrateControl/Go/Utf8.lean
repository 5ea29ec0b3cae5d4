import Mathlib.Data.List.Basic

/-!
# Strings as bytes

A Go string is any sequence of bytes; what it spells is read by `unicode/utf8`.

* `decodeRune`, `runes` — `utf8.DecodeRune`, and the runes of a string: a byte that starts no
  encoding is read as U+FFFD.
* `utf8`, `Valid` — the bytes of a text, and the strings that are such bytes.
* `runes_utf8`, `utf8_runes_iff` — a valid string is the bytes of its runes, and no other is.
* `runes_append_ascii`, `valid_append_ascii` — an ASCII byte starts a rune of its own, whatever
  stands before it.
-/

set_option autoImplicit false

namespace Go

/-- `utf8.RuneError`. -/
def runeError : Char := '\ufffd'

/-- `utf8.DecodeRune`: the first rune of a non-empty string and its width. -/
def decodeRune (bs : List UInt8) : Char × ℕ :=
  match bs.toByteArray.utf8DecodeChar? 0 with
  | some c => (c, c.utf8Size)
  | none => (runeError, 1)

/-- The runes behind `skip` bytes of the rune before. -/
def runesAfter : (skip : ℕ) → List UInt8 → List Char
  | _, [] => []
  | skip + 1, _ :: bs => runesAfter skip bs
  | 0, b :: bs => (decodeRune (b :: bs)).1 :: runesAfter ((decodeRune (b :: bs)).2 - 1) bs

/-- The runes of a string, as `range` gives them. -/
def runes (bs : List UInt8) : List Char := runesAfter 0 bs

/-- The bytes of a text. -/
def utf8 (cs : List Char) : List UInt8 := cs.flatMap String.utf8EncodeChar

/-- `utf8.Valid`. -/
def Valid (bs : List UInt8) : Prop := ∃ cs, utf8 cs = bs

@[simp] theorem utf8_nil : utf8 [] = [] := rfl

@[simp] theorem utf8_cons (c : Char) (cs : List Char) :
    utf8 (c :: cs) = String.utf8EncodeChar c ++ utf8 cs := rfl

@[simp] theorem utf8_append (cs ds : List Char) : utf8 (cs ++ ds) = utf8 cs ++ utf8 ds :=
  List.flatMap_append

@[simp] theorem runes_nil : runes [] = [] := rfl

theorem runesAfter_eq_drop : ∀ (skip : ℕ) (bs : List UInt8),
    runesAfter skip bs = runes (bs.drop skip)
  | 0, _ => rfl
  | _ + 1, [] => rfl
  | skip + 1, _ :: bs => runesAfter_eq_drop skip bs

/-! ## One rune -/

theorem decodeRune_some {bs : List UInt8} {c : Char}
    (h : bs.toByteArray.utf8DecodeChar? 0 = some c) : decodeRune bs = (c, c.utf8Size) := by
  unfold decodeRune
  rw [h]

/-- The encoding of a character is read as this character. -/
theorem decodeRune_utf8EncodeChar (c : Char) (bs : List UInt8) :
    decodeRune (String.utf8EncodeChar c ++ bs) = (c, c.utf8Size) := by
  apply decodeRune_some
  rw [List.toByteArray_append]
  exact ByteArray.utf8DecodeChar?_utf8EncodeChar_append

/-- A string that decodes starts with the encoding. -/
theorem exists_of_utf8DecodeChar {bs : List UInt8} {c : Char}
    (h : bs.toByteArray.utf8DecodeChar? 0 = some c) :
    ∃ rest, bs = String.utf8EncodeChar c ++ rest := by
  obtain ⟨l, hl⟩ := ByteArray.exists_of_utf8DecodeChar?_eq_some h
  refine ⟨l.data.toList, ?_⟩
  have hdata := congrArg (fun b => b.data.toList) hl
  simpa using hdata

theorem le_ofNat {n : ℕ} (hle : 0x80 ≤ n) (hlt : n < 0x100) : 0x80 ≤ UInt8.ofNat n := by
  rw [UInt8.le_iff_toNat_le, UInt8.toNat_ofNat]
  show 128 ≤ n % 256
  omega

/-- Every byte of an encoding behind its first is 0x80 or above. -/
theorem le_of_mem_tail_utf8EncodeChar {c : Char} {b : UInt8}
    (h : b ∈ (String.utf8EncodeChar c).tail) : 0x80 ≤ b := by
  unfold String.utf8EncodeChar at h
  simp only at h
  split at h
  · cases h
  · split at h
    · simp only [List.tail_cons, List.mem_singleton] at h
      exact h ▸ le_ofNat (by omega) (by omega)
    · split at h
      · simp only [List.tail_cons, List.mem_cons, List.not_mem_nil, or_false] at h
        rcases h with h | h <;> exact h ▸ le_ofNat (by omega) (by omega)
      · simp only [List.tail_cons, List.mem_cons, List.not_mem_nil, or_false] at h
        rcases h with h | h | h <;> exact h ▸ le_ofNat (by omega) (by omega)

/-- An ASCII character is its own byte. -/
theorem utf8EncodeChar_ascii {c : Char} (h : c.toNat < 0x80) :
    String.utf8EncodeChar c = [UInt8.ofNat c.toNat] := by
  unfold String.utf8EncodeChar
  simp only
  rw [if_pos (show c.val.toNat ≤ 0x7f by exact Nat.le_of_lt_succ h)]
  rfl

/-- The bytes of any other character are 0x80 or above. -/
theorem le_of_mem_utf8EncodeChar {c : Char} (hc : 0x80 ≤ c.toNat) {b : UInt8}
    (h : b ∈ String.utf8EncodeChar c) : 0x80 ≤ b := by
  have hc : 0x80 ≤ c.val.toNat := hc
  unfold String.utf8EncodeChar at h
  simp only at h
  split at h
  · omega
  · split at h
    · simp only [List.mem_cons, List.not_mem_nil, or_false] at h
      rcases h with h | h <;> exact h ▸ le_ofNat (by omega) (by omega)
    · split at h
      · simp only [List.mem_cons, List.not_mem_nil, or_false] at h
        rcases h with h | h | h <;> exact h ▸ le_ofNat (by omega) (by omega)
      · simp only [List.mem_cons, List.not_mem_nil, or_false] at h
        rcases h with h | h | h | h <;> exact h ▸ le_ofNat (by omega) (by omega)

/-- **An ASCII byte starts a rune of its own**: what stands before it decodes the same without
it. -/
theorem decodeRune_append_ascii {a : List UInt8} (ha : a ≠ []) {b : UInt8} (hb : b < 0x80)
    (rest : List UInt8) :
    decodeRune (a ++ b :: rest) = decodeRune a ∧ (decodeRune a).2 ≤ a.length := by
  cases hdec : a.toByteArray.utf8DecodeChar? 0 with
  | some c =>
    obtain ⟨a', rfl⟩ := exists_of_utf8DecodeChar hdec
    rw [List.append_assoc, decodeRune_utf8EncodeChar, decodeRune_utf8EncodeChar]
    simp
  | none =>
    have hlen : 1 ≤ a.length := List.length_pos_iff.mpr ha
    have hnone : (a ++ b :: rest).toByteArray.utf8DecodeChar? 0 = none := by
      cases hlong : (a ++ b :: rest).toByteArray.utf8DecodeChar? 0 with
      | none => rfl
      | some c =>
        obtain ⟨l, hl⟩ := exists_of_utf8DecodeChar hlong
        rcases List.append_eq_append_iff.mp hl with ⟨m, hm, hrest⟩ | ⟨m, rfl, -⟩
        · -- where the encoding runs past `a`, `b` would be one of its later bytes
          cases m with
          | nil =>
            rw [List.append_nil] at hm
            rw [← hm, ← List.append_nil (String.utf8EncodeChar c), List.toByteArray_append,
              ByteArray.utf8DecodeChar?_utf8EncodeChar_append] at hdec
            cases hdec
          | cons d m =>
            obtain ⟨rfl, -⟩ := List.cons.inj hrest
            obtain ⟨x, a', rfl⟩ := List.exists_cons_of_ne_nil ha
            have hge := le_of_mem_tail_utf8EncodeChar (c := c) (b := b) (by simp [hm])
            exact absurd hb (UInt8.not_lt.mpr hge)
        · rw [List.toByteArray_append, ByteArray.utf8DecodeChar?_utf8EncodeChar_append] at hdec
          cases hdec
    unfold decodeRune
    rw [hnone, hdec]
    exact ⟨rfl, hlen⟩

/-! ## The runes of a string -/

/-- **The runes of a text's bytes are the text.** -/
@[simp] theorem runes_utf8 (cs : List Char) : runes (utf8 cs) = cs := by
  induction cs with
  | nil => rfl
  | cons c cs ih =>
    have hne : String.utf8EncodeChar c ≠ [] := by
      intro h
      have hlen := String.length_utf8EncodeChar c
      rw [h] at hlen
      exact absurd hlen.symm (Nat.ne_of_gt c.utf8Size_pos)
    obtain ⟨b, bs, hbs⟩ := List.exists_cons_of_ne_nil hne
    have hdec := decodeRune_utf8EncodeChar c (utf8 cs)
    have hlen : bs.length + 1 = c.utf8Size := by
      rw [← String.length_utf8EncodeChar, hbs, List.length_cons]
    rw [utf8_cons, hbs, List.cons_append] at *
    unfold runes runesAfter
    rw [hdec, runesAfter_eq_drop, ← hlen, Nat.add_sub_cancel, List.drop_left, ih]

/-- **A string is the bytes of its runes exactly when it is valid.** -/
theorem utf8_runes_iff (bs : List UInt8) : utf8 (runes bs) = bs ↔ Valid bs := by
  constructor
  · exact fun h => ⟨runes bs, h⟩
  · rintro ⟨cs, rfl⟩
    rw [runes_utf8]

theorem runes_append_ascii_of_length_le {b : UInt8} (hb : b < 0x80) (rest : List UInt8) :
    ∀ (n : ℕ) (a : List UInt8), a.length ≤ n → runes (a ++ b :: rest) = runes a ++ runes (b :: rest)
  | _, [], _ => rfl
  | n + 1, x :: a, hn => by
    obtain ⟨hdec, hwidth⟩ := decodeRune_append_ascii (a := x :: a) (by simp) hb rest
    simp only [List.length_cons] at hn hwidth
    have hdrop : ∀ k, k ≤ a.length → (a ++ b :: rest).drop k = a.drop k ++ b :: rest :=
      fun k hk => List.drop_append_of_le_length hk
    have ih := runes_append_ascii_of_length_le hb rest n (a.drop ((decodeRune (x :: a)).2 - 1))
      (by rw [List.length_drop]; omega)
    rw [List.cons_append] at hdec ⊢
    show _ :: runesAfter _ (a ++ b :: rest) = _ :: runesAfter _ a ++ _
    rw [hdec, runesAfter_eq_drop, runesAfter_eq_drop, hdrop _ (by omega), ih]
    rfl

/-- **Runes do not cross an ASCII byte.** -/
theorem runes_append_ascii (a : List UInt8) {b : UInt8} (hb : b < 0x80) (rest : List UInt8) :
    runes (a ++ b :: rest) = runes a ++ runes (b :: rest) :=
  runes_append_ascii_of_length_le hb rest a.length a (Nat.le_refl _)

/-- Validity is decided on the left of an ASCII byte and from it on. -/
theorem valid_append_ascii (a : List UInt8) {b : UInt8} (hb : b < 0x80) {rest : List UInt8}
    (hrest : Valid (b :: rest)) : Valid (a ++ b :: rest) ↔ Valid a := by
  rw [← utf8_runes_iff, ← utf8_runes_iff, runes_append_ascii a hb, utf8_append,
    (utf8_runes_iff _).mpr hrest, List.append_left_inj]

end Go
