import Mathlib.Data.List.Basic

/-!
# Base64

The standard alphabet with padding, as most libraries read it: line breaks may stand anywhere, and
the bits behind the last byte are not looked at.

* `encode`, `decode` — between bytes and their text.
* `sextet_letter` — a letter is read as the number it is written for.
* `decode_wrapped` — what is written is read back, wherever line breaks stand in it.
-/

set_option autoImplicit false

namespace Kit

namespace Base64

/-- `=`. -/
def pad : UInt8 := 0x3D

/-- The letter of a number below 64. -/
def letter (n : ℕ) : UInt8 :=
  if n < 26 then UInt8.ofNat (0x41 + n)
  else if n < 52 then UInt8.ofNat (0x61 + (n - 26))
  else if n < 62 then UInt8.ofNat (0x30 + (n - 52))
  else if n = 62 then 0x2B
  else 0x2F

/-- The number a letter stands for. -/
def sextet (b : UInt8) : Option ℕ :=
  if 0x41 ≤ b ∧ b ≤ 0x5A then some (b.toNat - 0x41)
  else if 0x61 ≤ b ∧ b ≤ 0x7A then some (b.toNat - 0x61 + 26)
  else if 0x30 ≤ b ∧ b ≤ 0x39 then some (b.toNat - 0x30 + 52)
  else if b = 0x2B then some 62
  else if b = 0x2F then some 63
  else none

/-- The text of some bytes, without line breaks. -/
def encode : List UInt8 → List UInt8
  | [] => []
  | [a] => [letter (a.toNat / 4), letter (a.toNat % 4 * 16), pad, pad]
  | [a, b] =>
    [letter (a.toNat / 4), letter (a.toNat % 4 * 16 + b.toNat / 16), letter (b.toNat % 16 * 4), pad]
  | a :: b :: c :: bs =>
    letter (a.toNat / 4) :: letter (a.toNat % 4 * 16 + b.toNat / 16) ::
      letter (b.toNat % 16 * 4 + c.toNat / 64) :: letter (c.toNat % 64) :: encode bs

/-- The byte that four or two bits begin and the next number ends. -/
def byteOf (high low : ℕ) : UInt8 := UInt8.ofNat (high + low)

/-- A text without line breaks, four letters at a time. -/
def quanta : List UInt8 → Option (List UInt8)
  | [] => some []
  | a :: b :: c :: d :: s =>
    match sextet a, sextet b, sextet c, sextet d with
    | some w, some x, some y, some z =>
      (quanta s).map fun bs =>
        byteOf (w * 4) (x / 16) :: byteOf (x % 16 * 16) (y / 4) :: byteOf (y % 4 * 64) z :: bs
    | some w, some x, some y, none =>
      if d = pad ∧ s = [] then some [byteOf (w * 4) (x / 16), byteOf (x % 16 * 16) (y / 4)]
      else none
    | some w, some x, none, none =>
      if c = pad ∧ d = pad ∧ s = [] then some [byteOf (w * 4) (x / 16)] else none
    | _, _, _, _ => none
  | _ => none

def isLineBreak (b : UInt8) : Bool := b == 0x0A || b == 0x0D

/-- The bytes of a text. -/
def decode (s : List UInt8) : Option (List UInt8) := quanta (s.filter fun b => !isLineBreak b)

/-! ## Letters -/

/-- **A letter is read as the number it is written for**, and is no line break. -/
theorem sextet_letter {n : ℕ} (h : n < 64) :
    sextet (letter n) = some n ∧ isLineBreak (letter n) = false := by
  have hall : ∀ n < 64, sextet (letter n) = some n ∧ isLineBreak (letter n) = false := by
    decide +kernel
  exact hall n h

theorem letter_lt (n : ℕ) : letter n < 0x80 := by
  have hall : ∀ n < 64, letter n < 0x80 := by decide +kernel
  by_cases h : n < 64
  · exact hall n h
  · have hlast : letter n = 0x2F := by
      unfold letter
      split_ifs <;> first | omega | rfl
    rw [hlast]
    decide

theorem sextet_pad : sextet pad = none := by decide

theorem isLineBreak_pad : isLineBreak pad = false := by decide

/-- A byte from its parts. -/
theorem byteOf_eq {b : UInt8} {high low : ℕ} (h : high + low = b.toNat) : byteOf high low = b := by
  rw [byteOf, h, UInt8.ofNat_toNat]

/-! ## Texts -/

/-- What is written has no line breaks. -/
theorem filter_encode : ∀ bs : List UInt8, (encode bs).filter (fun b => !isLineBreak b) = encode bs
  | [] => rfl
  | [a] => by
    have ha := a.toNat_lt
    have h0 := (sextet_letter (n := a.toNat / 4) (by omega)).2
    have h1 := (sextet_letter (n := a.toNat % 4 * 16) (by omega)).2
    simp [encode, h0, h1, isLineBreak_pad]
  | [a, b] => by
    have ha := a.toNat_lt
    have hb := b.toNat_lt
    have h0 := (sextet_letter (n := a.toNat / 4) (by omega)).2
    have h1 := (sextet_letter (n := a.toNat % 4 * 16 + b.toNat / 16) (by omega)).2
    have h2 := (sextet_letter (n := b.toNat % 16 * 4) (by omega)).2
    simp [encode, h0, h1, h2, isLineBreak_pad]
  | a :: b :: c :: bs => by
    have ha := a.toNat_lt
    have hb := b.toNat_lt
    have hc := c.toNat_lt
    have h0 := (sextet_letter (n := a.toNat / 4) (by omega)).2
    have h1 := (sextet_letter (n := a.toNat % 4 * 16 + b.toNat / 16) (by omega)).2
    have h2 := (sextet_letter (n := b.toNat % 16 * 4 + c.toNat / 64) (by omega)).2
    have h3 := (sextet_letter (n := c.toNat % 64) (by omega)).2
    simp [encode, h0, h1, h2, h3, filter_encode bs]

/-- The text is in ASCII. -/
theorem encode_ascii : ∀ bs : List UInt8, ∀ b ∈ encode bs, b < 0x80
  | [] => by simp [encode]
  | [a] => by simp [encode, letter_lt, pad]
  | [a, b] => by simp [encode, letter_lt, pad]
  | a :: b :: c :: bs => by
    have ih := encode_ascii bs
    simpa [encode, letter_lt] using ih

/-- **What is written is read back.** -/
theorem quanta_encode : ∀ bs : List UInt8, quanta (encode bs) = some bs
  | [] => rfl
  | [a] => by
    have ha := a.toNat_lt
    have h0 := (sextet_letter (n := a.toNat / 4) (by omega)).1
    have h1 := (sextet_letter (n := a.toNat % 4 * 16) (by omega)).1
    simp only [encode, quanta, h0, h1, sextet_pad, true_and, if_true]
    rw [byteOf_eq (b := a) (by omega)]
  | [a, b] => by
    have ha := a.toNat_lt
    have hb := b.toNat_lt
    have h0 := (sextet_letter (n := a.toNat / 4) (by omega)).1
    have h1 := (sextet_letter (n := a.toNat % 4 * 16 + b.toNat / 16) (by omega)).1
    have h2 := (sextet_letter (n := b.toNat % 16 * 4) (by omega)).1
    simp only [encode, quanta, h0, h1, h2, sextet_pad, true_and, if_true]
    rw [byteOf_eq (b := a) (by omega), byteOf_eq (b := b) (by omega)]
  | a :: b :: c :: bs => by
    have ha := a.toNat_lt
    have hb := b.toNat_lt
    have hc := c.toNat_lt
    have h0 := (sextet_letter (n := a.toNat / 4) (by omega)).1
    have h1 := (sextet_letter (n := a.toNat % 4 * 16 + b.toNat / 16) (by omega)).1
    have h2 := (sextet_letter (n := b.toNat % 16 * 4 + c.toNat / 64) (by omega)).1
    have h3 := (sextet_letter (n := c.toNat % 64) (by omega)).1
    simp only [encode, quanta, h0, h1, h2, h3, quanta_encode bs, Option.map_some]
    rw [byteOf_eq (b := a) (by omega), byteOf_eq (b := b) (by omega), byteOf_eq (b := c) (by omega)]

/-- **A text is read back, wherever line breaks stand in it.** -/
theorem decode_wrapped {s bs : List UInt8}
    (h : s.filter (fun b => !isLineBreak b) = encode bs) : decode s = some bs := by
  rw [decode, h, quanta_encode]

theorem decode_encode (bs : List UInt8) : decode (encode bs) = some bs :=
  decode_wrapped (filter_encode bs)

end Base64

end Kit
