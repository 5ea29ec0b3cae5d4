import SubstrateControl.Go.Strings
import SubstrateControl.Go.Utf8

/-!
# Cutting and trimming strings by their bytes

* `isPrefix_of_utf8` — of texts whose bytes continue each other, the texts do.
* `valid_take_iff` — a text cut behind `n` bytes is a text exactly when the next byte starts a
  character.
* `decodeLastRune`, `trimSpaceBytes` — `utf8.DecodeLastRune` and `strings.TrimSpace`, on any bytes;
  `trimSpaceBytes_utf8` says what is trimmed of a text.
-/

set_option autoImplicit false

namespace Go

/-! ## Cuts -/

theorem length_utf8EncodeChar_pos (c : Char) : 0 < (String.utf8EncodeChar c).length := by
  rw [String.length_utf8EncodeChar]
  exact c.utf8Size_pos

/-- Texts whose bytes start alike start with the same character. -/
theorem utf8EncodeChar_append_inj {c d : Char} {a b : List UInt8}
    (h : String.utf8EncodeChar c ++ a = String.utf8EncodeChar d ++ b) : c = d ∧ a = b := by
  have hdec : decodeRune (String.utf8EncodeChar c ++ a) =
      decodeRune (String.utf8EncodeChar d ++ b) := by
    rw [h]
  rw [decodeRune_utf8EncodeChar, decodeRune_utf8EncodeChar] at hdec
  have hcd : c = d := congrArg Prod.fst hdec
  subst hcd
  exact ⟨rfl, List.append_cancel_left h⟩

theorem runes_eq_nil {bs : List UInt8} : runes bs = [] ↔ bs = [] := by
  cases bs with
  | nil => exact iff_of_true rfl rfl
  | cons b bs => exact iff_of_false (fun h => by cases h) (fun h => by cases h)

theorem isPrefix_of_utf8 : ∀ {ds cs : List Char}, utf8 ds <+: utf8 cs → ds <+: cs
  | [], cs, _ => List.nil_prefix
  | d :: ds, [], h => by
    have hlen := h.length_le
    have hpos := length_utf8EncodeChar_pos d
    rw [utf8_cons, List.length_append, utf8_nil, List.length_nil] at hlen
    omega
  | d :: ds, c :: cs, h => by
    obtain ⟨rest, hrest⟩ := h
    rw [utf8_cons, utf8_cons, List.append_assoc] at hrest
    obtain ⟨rfl, htail⟩ := utf8EncodeChar_append_inj hrest
    exact (List.prefix_cons_inj d).mpr (isPrefix_of_utf8 ⟨rest, htail⟩)

/-- A byte of a text starts a character exactly when the characters before it end there. -/
theorem isUTF8FirstByte_getElem_utf8 : ∀ (cs : List Char) (n : ℕ) (h : n < (utf8 cs).length),
    (utf8 cs)[n].IsUTF8FirstByte ↔ ∃ k, (utf8 cs).take n = utf8 (cs.take k)
  | [], n, h => absurd h (Nat.not_lt_zero n)
  | c :: cs, n, h => by
    have hpos := length_utf8EncodeChar_pos c
    simp only [utf8_cons, List.length_append] at h ⊢
    by_cases hn : n < (String.utf8EncodeChar c).length
    · rw [List.getElem_append_left hn, UInt8.isUTF8FirstByte_getElem_utf8EncodeChar]
      constructor
      · rintro rfl
        exact ⟨0, rfl⟩
      · rintro ⟨k, hk⟩
        have hlen := congrArg List.length hk
        rw [List.length_take, List.length_append] at hlen
        cases k with
        | zero =>
          rw [List.take_zero, utf8_nil, List.length_nil] at hlen
          omega
        | succ k =>
          rw [List.take_succ_cons, utf8_cons, List.length_append] at hlen
          omega
    · replace hn := Nat.le_of_not_lt hn
      have ih := isUTF8FirstByte_getElem_utf8 cs (n - (String.utf8EncodeChar c).length) (by omega)
      rw [List.getElem_append_right hn, ih]
      have htake : (String.utf8EncodeChar c ++ utf8 cs).take n = String.utf8EncodeChar c ++
          (utf8 cs).take (n - (String.utf8EncodeChar c).length) := by
        rw [List.take_append, List.take_of_length_le hn]
      rw [htake]
      constructor
      · rintro ⟨k, hk⟩
        exact ⟨k + 1, by rw [hk, List.take_succ_cons, utf8_cons]⟩
      · rintro ⟨k, hk⟩
        cases k with
        | zero =>
          have hlen := congrArg List.length hk
          rw [List.length_append, List.take_zero, utf8_nil, List.length_nil] at hlen
          omega
        | succ k =>
          rw [List.take_succ_cons, utf8_cons] at hk
          exact ⟨k, List.append_cancel_left hk⟩

/-- **A text cut behind `n` bytes is a text exactly when the next byte starts a character.** -/
theorem valid_take_iff {bs : List UInt8} (hvalid : Valid bs) {n : ℕ} (h : n < bs.length) :
    Valid (bs.take n) ↔ bs[n].IsUTF8FirstByte := by
  obtain ⟨cs, rfl⟩ := hvalid
  rw [isUTF8FirstByte_getElem_utf8 cs n h]
  constructor
  · rintro ⟨ds, hds⟩
    have hpre : ds <+: cs := isPrefix_of_utf8 (hds ▸ List.take_prefix n (utf8 cs))
    exact ⟨ds.length, by rw [← List.prefix_iff_eq_take.mp hpre, hds]⟩
  · rintro ⟨k, hk⟩
    exact ⟨cs.take k, hk.symm⟩

/-! ## Trimming -/

/-- The character whose encoding is the last `k` bytes. -/
def runeOfWidth (bs : List UInt8) (k : ℕ) : Option Char :=
  if bs.length < k then none
  else
    match (bs.drop (bs.length - k)).toByteArray.utf8DecodeChar? 0 with
    | some c => if c.utf8Size = k then some c else none
    | none => none

/-- `utf8.DecodeLastRune`: the last rune of a non-empty string and its width. -/
def decodeLastRune (bs : List UInt8) : Char × ℕ :=
  match [1, 2, 3, 4].findSome? fun k => (runeOfWidth bs k).map fun c => (c, k) with
  | some rune => rune
  | none => (runeError, 1)

/-- `strings.TrimLeftFunc` for white space; a string of `fuel` bytes has no more runes. -/
def trimLeftBytes : (fuel : ℕ) → List UInt8 → List UInt8
  | 0, bs => bs
  | fuel + 1, bs =>
    if isSpace (decodeRune bs).1 then trimLeftBytes fuel (bs.drop (decodeRune bs).2) else bs

/-- `strings.TrimRightFunc` for white space. -/
def trimRightBytes : (fuel : ℕ) → List UInt8 → List UInt8
  | 0, bs => bs
  | fuel + 1, bs =>
    if isSpace (decodeLastRune bs).1 then
      trimRightBytes fuel (bs.take (bs.length - (decodeLastRune bs).2))
    else bs

/-- `strings.TrimSpace`. -/
def trimSpaceBytes (bs : List UInt8) : List UInt8 :=
  let rest := trimLeftBytes bs.length bs
  trimRightBytes rest.length rest

theorem length_le_length_utf8 (cs : List Char) : cs.length ≤ (utf8 cs).length := by
  induction cs with
  | nil => exact Nat.le_refl 0
  | cons c cs ih =>
    have hpos := length_utf8EncodeChar_pos c
    rw [utf8_cons, List.length_append, List.length_cons]
    omega

/-- No end of an encoding but the whole encodes a character. -/
theorem runeOfWidth_short (bs : List UInt8) {c : Char} {k : ℕ} (hk : k < c.utf8Size) :
    runeOfWidth (bs ++ String.utf8EncodeChar c) k = none := by
  have hlen := String.length_utf8EncodeChar c
  have hdrop : (bs ++ String.utf8EncodeChar c).drop ((bs ++ String.utf8EncodeChar c).length - k) =
      (String.utf8EncodeChar c).drop (c.utf8Size - k) := by
    rw [List.length_append, hlen, List.drop_append, List.drop_of_length_le (by omega),
      List.nil_append]
    congr 1
    omega
  unfold runeOfWidth
  rw [hdrop]
  split
  · rfl
  · generalize hend : (String.utf8EncodeChar c).drop (c.utf8Size - k) = last
    cases hdec : last.toByteArray.utf8DecodeChar? 0 with
    | none => rfl
    | some d =>
      -- what decodes starts with a first byte, which the encoding has at its beginning only
      subst hend
      have hfirst := ByteArray.isUTF8FirstByte_of_isSome_utf8DecodeChar? (by rw [hdec]; rfl)
      simp only [List.getElem_toByteArray, List.getElem_drop,
        UInt8.isUTF8FirstByte_getElem_utf8EncodeChar] at hfirst
      omega

theorem runeOfWidth_self (bs : List UInt8) (c : Char) :
    runeOfWidth (bs ++ String.utf8EncodeChar c) c.utf8Size = some c := by
  have hlen := String.length_utf8EncodeChar c
  have hdrop : (bs ++ String.utf8EncodeChar c).drop
      ((bs ++ String.utf8EncodeChar c).length - c.utf8Size) = String.utf8EncodeChar c := by
    rw [List.length_append, hlen, Nat.add_sub_cancel, List.drop_left]
  have hdec : (String.utf8EncodeChar c).toByteArray.utf8DecodeChar? 0 = some c := by
    have happend := @ByteArray.utf8DecodeChar?_utf8EncodeChar_append ByteArray.empty c
    simpa using happend
  unfold runeOfWidth
  rw [if_neg (by rw [List.length_append]; omega), hdrop, hdec]
  exact if_pos rfl

/-- The last rune of a text is its last character. -/
theorem decodeLastRune_utf8EncodeChar (bs : List UInt8) (c : Char) :
    decodeLastRune (bs ++ String.utf8EncodeChar c) = (c, c.utf8Size) := by
  have hself := runeOfWidth_self bs c
  have hshort := fun k => @runeOfWidth_short bs c k
  have hpos := c.utf8Size_pos
  have hle := c.utf8Size_le_four
  unfold decodeLastRune
  generalize c.utf8Size = n at *
  obtain rfl | rfl | rfl | rfl : n = 1 ∨ n = 2 ∨ n = 3 ∨ n = 4 := by omega
  · simp [List.findSome?, hself]
  · simp [List.findSome?, hself, hshort 1]
  · simp [List.findSome?, hself, hshort 1, hshort 2]
  · simp [List.findSome?, hself, hshort 1, hshort 2, hshort 3]

theorem trimLeftBytes_utf8 : ∀ (cs : List Char) (fuel : ℕ), cs.length ≤ fuel →
    trimLeftBytes fuel (utf8 cs) = utf8 (cs.dropWhile isSpace)
  | [], 0, _ => rfl
  | [], fuel + 1, _ => by
    have hdec : decodeRune (utf8 []) = (runeError, 1) := rfl
    rw [trimLeftBytes, hdec]
    rfl
  | c :: cs, fuel + 1, h => by
    rw [trimLeftBytes, utf8_cons, decodeRune_utf8EncodeChar, List.dropWhile_cons]
    cases hspace : isSpace c with
    | true =>
      simp only [if_true, ← String.length_utf8EncodeChar, List.drop_left]
      exact trimLeftBytes_utf8 cs fuel (Nat.le_of_succ_le_succ h)
    | false => rfl

theorem trimRightBytes_utf8 (cs : List Char) : ∀ fuel, cs.length ≤ fuel →
    trimRightBytes fuel (utf8 cs) = utf8 (cs.rdropWhile isSpace) := by
  induction cs using List.reverseRecOn with
  | nil =>
    intro fuel _
    cases fuel with
    | zero => rfl
    | succ fuel =>
      have hdec : decodeLastRune (utf8 []) = (runeError, 1) := rfl
      rw [trimRightBytes, hdec]
      rfl
  | append_singleton cs c ih =>
    intro fuel h
    rw [List.length_append] at h
    cases fuel with
    | zero => exact absurd h (by simp)
    | succ fuel =>
      have hlast : utf8 (cs ++ [c]) = utf8 cs ++ String.utf8EncodeChar c := by simp
      rw [trimRightBytes, hlast, decodeLastRune_utf8EncodeChar, List.rdropWhile_concat]
      cases hspace : isSpace c with
      | true =>
        simp only [if_true, ← String.length_utf8EncodeChar, List.length_append,
          Nat.add_sub_cancel, List.take_left]
        exact ih fuel (Nat.le_of_succ_le_succ h)
      | false => simp [hlast]

/-- **What is trimmed of a text is the white space at its ends.** -/
theorem trimSpaceBytes_utf8 (cs : List Char) :
    trimSpaceBytes (utf8 cs) = utf8 ((cs.dropWhile isSpace).rdropWhile isSpace) := by
  unfold trimSpaceBytes
  simp only [trimLeftBytes_utf8 cs _ (length_le_length_utf8 cs)]
  exact trimRightBytes_utf8 _ _ (length_le_length_utf8 _)

theorem Valid.trimSpaceBytes {bs : List UInt8} (h : Valid bs) : Valid (trimSpaceBytes bs) := by
  obtain ⟨cs, rfl⟩ := h
  exact ⟨_, (trimSpaceBytes_utf8 cs).symm⟩

end Go
