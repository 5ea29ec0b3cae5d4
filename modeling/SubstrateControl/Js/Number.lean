import SubstrateControl.Go.JsonText
import SubstrateControl.Kit.Float
import Mathlib.Data.List.DropRight

/-!
# Numbers of ECMAScript

* `Float64`, `Number` — the finite values of the 64-bit format, and the values of the Number type;
  the two zeros are one, as nothing here tells them apart.
* `trim` — `String.prototype.trim`; `trim_trim`: it leaves nothing to trim.
* `Literal`, `strNumericLiteral` — what the text of a number stands for, before it is rounded.
* `stringToNumber` — `Number(text)`.
* `stringToNumber_finite_iff` — which texts are which finite numbers.
* `stringToNumber_finite_pos_iff` — which texts are positive finite numbers.
-/

set_option autoImplicit false

namespace Js

open Go Kit.Float

/-- A finite value of the 64-bit format. -/
structure Float64 where
  val : ℚ
  round_val : binary64.round val = some val

/-- The Number type. -/
inductive Number where
  | nan
  | infinity (negative : Bool)
  | finite (x : Float64)

/-- `Number.isNaN`. -/
def Number.isNaN : Number → Bool
  | .nan => true
  | .infinity _ => false
  | .finite _ => false

/-- `x > 0`. -/
def Number.positive : Number → Bool
  | .nan => false
  | .infinity negative => !negative
  | .finite x => 0 < x.val

/-- `Number.isInteger`. -/
def Number.isInteger : Number → Bool
  | .nan => false
  | .infinity _ => false
  | .finite x => x.val.isInt

/-- `x >= n`, for a finite `n`. -/
def Number.atLeast (n : ℚ) : Number → Bool
  | .nan => false
  | .infinity negative => !negative
  | .finite x => n ≤ x.val

/-- The Number value for `q`: the nearest one, an infinity where that overflows. -/
def numberOf (q : ℚ) : Number :=
  match h : binary64.round q with
  | some x => .finite ⟨x, Format.round_round h⟩
  | none => .infinity (q < 0)

/-! ## Texts -/

/-- WhiteSpace and LineTerminator. -/
def isWhiteSpace (c : Char) : Bool :=
  ('\t' ≤ c && c ≤ '\r') || c == ' ' || c == '\u00a0' || c == '\u1680' ||
  ('\u2000' ≤ c && c ≤ '\u200a') || c == '\u2028' || c == '\u2029' || c == '\u202f' ||
  c == '\u205f' || c == '\u3000' || c == '\ufeff'

/-- `String.prototype.trim`. -/
def trim (s : String) : String :=
  String.ofList (((s.toList.dropWhile isWhiteSpace).reverse.dropWhile isWhiteSpace).reverse)

theorem dropWhile_of_isPrefix {p : Char → Bool} {xs ys : List Char} (hys : ys.dropWhile p = ys)
    (hpre : xs <+: ys) : xs.dropWhile p = xs := by
  rw [List.dropWhile_eq_self_iff] at hys ⊢
  intro hpos
  rw [hpre.getElem hpos]
  exact hys (hpos.trans_le hpre.length_le)

/-- A trimmed text has nothing left to trim. -/
theorem trim_trim (s : String) : trim (trim s) = trim s := by
  have hhead : (s.toList.dropWhile isWhiteSpace).dropWhile isWhiteSpace =
      s.toList.dropWhile isWhiteSpace := List.dropWhile_idempotent _ _
  have hpre : ((s.toList.dropWhile isWhiteSpace).reverse.dropWhile isWhiteSpace).reverse <+:
      s.toList.dropWhile isWhiteSpace := by
    rw [← List.reverse_suffix, List.reverse_reverse]
    exact List.dropWhile_suffix _
  unfold trim
  rw [String.toList_ofList, dropWhile_of_isPrefix hhead hpre, List.reverse_reverse,
    List.dropWhile_idempotent]

/-! ## Numeric literals -/

/-- What a numeric literal stands for. -/
inductive Literal where
  | infinity (negative : Bool)
  | value (q : ℚ)
  deriving DecidableEq, Repr

def Literal.neg : Literal → Literal
  | .infinity negative => .infinity !negative
  | .value q => .value (-q)

/-- The number a non-empty run of digits spells. -/
def digitsValue (radix : ℕ) (ds : List Char) : Option ℕ :=
  if ds = [] then none
  else
    ds.foldlM (fun n c => (hexDigit c).bind fun d =>
      if d < radix then some (radix * n + d) else none) 0

/-- NonDecimalIntegerLiteral. -/
def nonDecimalInteger : List Char → Option ℕ
  | '0' :: x :: ds =>
    if x = 'b' ∨ x = 'B' then digitsValue 2 ds
    else if x = 'o' ∨ x = 'O' then digitsValue 8 ds
    else if x = 'x' ∨ x = 'X' then digitsValue 16 ds
    else none
  | _ => none

/-- ExponentPart, which may be missing. -/
def exponentPart : List Char → Option ℤ
  | [] => some 0
  | e :: s =>
    if e ≠ 'e' ∧ e ≠ 'E' then none
    else
      match s with
      | '-' :: ds => (digitsValue 10 ds).map fun n => -(n : ℤ)
      | '+' :: ds => (digitsValue 10 ds).map fun n => (n : ℤ)
      | ds => (digitsValue 10 ds).map fun n => (n : ℤ)

/-- StrUnsignedDecimalLiteral, of digits with or without a point. -/
def unsignedDecimal (s : List Char) : Option ℚ :=
  let int := s.takeWhile Char.isDigit
  let rest := s.dropWhile Char.isDigit
  let frac := match rest with
    | '.' :: r => r.takeWhile Char.isDigit
    | _ => []
  let rest := match rest with
    | '.' :: r => r.dropWhile Char.isDigit
    | r => r
  match digitsValue 10 (int ++ frac), exponentPart rest with
  | some n, some e => some (scale10 n (e - frac.length))
  | _, _ => none

/-- StrUnsignedDecimalLiteral. -/
def strUnsignedDecimal (s : List Char) : Option Literal :=
  if s = "Infinity".toList then some (.infinity false) else (unsignedDecimal s).map .value

/-- StrNumericLiteral; only a decimal one has a sign. -/
def strNumericLiteral (s : List Char) : Option Literal :=
  match nonDecimalInteger s with
  | some n => some (.value n)
  | none =>
    match s with
    | '-' :: s => (strUnsignedDecimal s).map Literal.neg
    | '+' :: s => strUnsignedDecimal s
    | s => strUnsignedDecimal s

/-- The literal of a text, between white space. -/
def literalOf (s : String) : Option Literal := strNumericLiteral (trim s).toList

/-- `Number(text)`. -/
def stringToNumber (s : String) : Number :=
  if trim s = "" then numberOf 0
  else
    match literalOf s with
    | none => .nan
    | some (.infinity negative) => .infinity negative
    | some (.value q) => numberOf q

/-! ## Finite numbers -/

/-- The finite Number values for `q`. -/
theorem numberOf_finite_iff {q : ℚ} {x : Float64} :
    numberOf q = .finite x ↔ binary64.round q = some x.val := by
  unfold numberOf
  constructor
  · intro h
    split at h
    · rename_i y hy
      cases h
      exact hy
    · cases h
  · intro h
    split
    · rename_i y hy
      rw [hy, Option.some.injEq] at h
      subst h
      rfl
    · rename_i hnone
      rw [hnone] at h
      cases h

/-- The finite Number values of a text that is filled in. -/
theorem stringToNumber_finite_iff {s : String} (hs : trim s ≠ "") {x : Float64} :
    stringToNumber s = .finite x ↔
      ∃ q, literalOf s = some (.value q) ∧ binary64.round q = some x.val := by
  unfold stringToNumber
  rw [if_neg hs]
  cases hliteral : literalOf s with
  | none => simp
  | some l =>
    cases l with
    | infinity negative => simp
    | value q => simpa using numberOf_finite_iff
/-! ## Positive numbers -/

theorem numberOf_finite_pos_iff (q : ℚ) : (∃ x, numberOf q = .finite x ∧ 0 < x.val) ↔
    (2 : ℚ) ^ (-1075 : ℤ) < q ∧ q < 2 ^ (1024 : ℤ) - 2 ^ (970 : ℤ) := by
  have hround := Format.round_pos_iff (f := binary64) q
  rw [show ((2 : ℚ) ^ (-1075 : ℤ) < q ∧ q < 2 ^ (1024 : ℤ) - 2 ^ (970 : ℤ)) ↔ _ from hround.symm]
  constructor
  · rintro ⟨x, hx, hpos⟩
    exact ⟨x.val, numberOf_finite_iff.mp hx, hpos⟩
  · rintro ⟨x, hx, hpos⟩
    exact ⟨⟨x, Format.round_round hx⟩, numberOf_finite_iff.mpr hx, hpos⟩

/-- **The texts of positive finite numbers**: literals above half the least positive value and
below what overflows. -/
theorem stringToNumber_finite_pos_iff (s : String) :
    (∃ x, stringToNumber s = .finite x ∧ 0 < x.val) ↔
      ∃ q, literalOf s = some (.value q) ∧
        (2 : ℚ) ^ (-1075 : ℤ) < q ∧ q < 2 ^ (1024 : ℤ) - 2 ^ (970 : ℤ) := by
  unfold stringToNumber
  split
  · rename_i hblank
    have hnone : literalOf s = none := by
      unfold literalOf
      rw [hblank]
      rfl
    rw [numberOf_finite_pos_iff, hnone]
    refine iff_of_false ?_ (by simp)
    rintro ⟨hlo, -⟩
    exact absurd hlo (not_lt.mpr (Format.two_zpow_pos _).le)
  · split
    · rename_i hnone
      simp [hnone]
    · rename_i hinf
      simp [hinf]
    · rename_i q hq
      rw [numberOf_finite_pos_iff, hq]
      simp

end Js
