import Mathlib.Algebra.Order.Field.Rat
import Mathlib.Data.List.TakeWhile
import SubstrateControl.Go.Json
import SubstrateControl.Go.Utf8

/-!
# JSON texts

How `encoding/json` reads the bytes of a JSON text.

* `stringLit`, `unquote` — a string literal is cut out by its quotes and then unquoted; bytes that
  are not UTF-8 and unpaired surrogates become U+FFFD.
* `numberValue` — the exact value of a number literal.
* `value` — one value at a nesting depth of at most `maxNestingDepth`; members of an object stay
  as they are written, repeated names included.
* `parse` — a whole text: one value between white space.
* `Reads`, `value_reads` — a value is read from the bytes up to its last one, whatever follows.
-/

set_option autoImplicit false

namespace Go

/-- The byte of an ASCII character. -/
def byte (c : Char) : UInt8 := UInt8.ofNat c.toNat

/-! ## Tokens -/

def isSpaceByte (b : UInt8) : Bool :=
  b == byte ' ' || b == byte '\t' || b == byte '\r' || b == byte '\n'

def skipSpace (s : List UInt8) : List UInt8 := s.dropWhile isSpaceByte

/-- A string literal behind its opening quote: what stands up to the closing one, and the rest.
A backslash takes the next byte with it. -/
def stringLit : List UInt8 → Option (List UInt8 × List UInt8)
  | [] => none
  | b :: s =>
    if b = byte '"' then some ([], s)
    else if b < 0x20 then none
    else if b = byte '\\' then
      match s with
      | [] => none
      | c :: s => (stringLit s).map fun r => (b :: c :: r.1, r.2)
    else (stringLit s).map fun r => (b :: r.1, r.2)

def hexDigit (c : Char) : Option ℕ :=
  if '0' ≤ c ∧ c ≤ '9' then some (c.toNat - '0'.toNat)
  else if 'a' ≤ c ∧ c ≤ 'f' then some (c.toNat - 'a'.toNat + 10)
  else if 'A' ≤ c ∧ c ≤ 'F' then some (c.toNat - 'A'.toNat + 10)
  else none

/-- `getu4` without the `\u`. -/
def hex4 (a b c d : Char) : Option ℕ :=
  match hexDigit a, hexDigit b, hexDigit c, hexDigit d with
  | some a, some b, some c, some d => some (((a * 16 + b) * 16 + c) * 16 + d)
  | _, _, _, _ => none

/-- The escapes of one letter. -/
def escaped : Char → Option Char
  | '"' => some '"'
  | '\\' => some '\\'
  | '/' => some '/'
  | 'b' => some '\x08'
  | 'f' => some '\x0c'
  | 'n' => some '\n'
  | 'r' => some '\r'
  | 't' => some '\t'
  | _ => none

/-- The characters of a literal, and the code units of its `\u` escapes. -/
def units : List Char → Option (List (Char ⊕ ℕ))
  | [] => some []
  | '\\' :: 'u' :: a :: b :: c :: d :: s =>
    match hex4 a b c d with
    | none => none
    | some n => (units s).map (.inr n :: ·)
  | '\\' :: e :: s =>
    match escaped e with
    | none => none
    | some c => (units s).map (.inl c :: ·)
  | ['\\'] => none
  | c :: s => (units s).map (.inl c :: ·)

/-- `utf16.IsSurrogate`. -/
def isSurrogate (n : ℕ) : Bool := 0xd800 ≤ n && n < 0xe000

/-- Surrogate pairs joined; a surrogate without its other half becomes U+FFFD. -/
def joinUnits : List (Char ⊕ ℕ) → List Char
  | [] => []
  | .inl c :: us => c :: joinUnits us
  | [.inr n] => [if isSurrogate n then runeError else Char.ofNat n]
  | .inr n :: .inl c :: us =>
    (if isSurrogate n then runeError else Char.ofNat n) :: c :: joinUnits us
  | .inr n :: .inr m :: us =>
    if n < 0xdc00 ∧ 0xd800 ≤ n ∧ 0xdc00 ≤ m ∧ m < 0xe000 then
      Char.ofNat ((n - 0xd800) * 0x400 + (m - 0xdc00) + 0x10000) :: joinUnits us
    else (if isSurrogate n then runeError else Char.ofNat n) :: joinUnits (.inr m :: us)

/-- `unquote`: the text of a literal. -/
def unquote (lit : List UInt8) : Option String :=
  (units (runes lit)).map fun us => String.ofList (joinUnits us)

def isDigitByte (b : UInt8) : Bool := byte '0' ≤ b && b ≤ byte '9'

def isNumberByte (b : UInt8) : Bool :=
  isDigitByte b || b == byte '-' || b == byte '+' || b == byte '.' || b == byte 'e' || b == byte 'E'

/-- The number that decimal digits spell. -/
def natOfDigits (ds : List UInt8) : ℕ := ds.foldl (fun n d => 10 * n + (d.toNat - '0'.toNat)) 0

/-- A non-empty run of digits, and the rest. -/
def digits (s : List UInt8) : Option (List UInt8 × List UInt8) :=
  if s.takeWhile isDigitByte = [] then none
  else some (s.takeWhile isDigitByte, s.dropWhile isDigitByte)

/-- The sign and the digits of an exponent. -/
def exponent : List UInt8 → Option ℤ
  | [] => some 0
  | e :: s =>
    if e ≠ byte 'e' ∧ e ≠ byte 'E' then none
    else
      match s with
      | [] => none
      | sign :: ds =>
        let r := if sign = byte '-' ∨ sign = byte '+' then digits ds else digits (sign :: ds)
        match r with
        | some (ds, []) => some (if sign = byte '-' then -(natOfDigits ds) else natOfDigits ds)
        | _ => none

/-- The digits behind a decimal point, and the rest. -/
def fraction : List UInt8 → Option (List UInt8 × List UInt8)
  | [] => some ([], [])
  | p :: s => if p = byte '.' then digits s else some ([], p :: s)

/-- `q * 10 ^ e`. -/
def scale10 (q : ℚ) (e : ℤ) : ℚ :=
  if 0 ≤ e then q * (10 : ℚ) ^ e.toNat else q / (10 : ℚ) ^ (-e).toNat

/-- The value of a number without its sign. -/
def unsignedValue (s : List UInt8) : Option ℚ :=
  match digits s with
  | none => none
  | some (int, s) =>
    if int.head? = some (byte '0') ∧ int.length ≠ 1 then none
    else
      match fraction s with
      | none => none
      | some (frac, s) =>
        (exponent s).map fun e => scale10 (natOfDigits (int ++ frac)) (e - frac.length)

/-- The exact value of a number literal. -/
def numberValue : List UInt8 → Option ℚ
  | [] => none
  | b :: s => if b = byte '-' then (unsignedValue s).map (- ·) else unsignedValue (b :: s)

/-- What follows `word`. -/
def literal (word : String) (v : JVal) (s : List UInt8) : Option (JVal × List UInt8) :=
  let bytes := utf8 word.toList
  if bytes.isPrefixOf s then some (v, s.drop bytes.length) else none

/-- A value that is neither an array nor an object. -/
def scalar : List UInt8 → Option (JVal × List UInt8)
  | [] => none
  | b :: s =>
    if b = byte '"' then
      match stringLit s with
      | none => none
      | some (lit, r) => (unquote lit).map fun t => (.str t, r)
    else if b = byte 't' then literal "true" (.bool true) (b :: s)
    else if b = byte 'f' then literal "false" (.bool false) (b :: s)
    else if b = byte 'n' then literal "null" .null (b :: s)
    else
      (numberValue ((b :: s).takeWhile isNumberByte)).map fun q =>
        (.num q, (b :: s).dropWhile isNumberByte)

/-! ## Values -/

section

variable {α : Type}

/-- At most `k` items with commas between them, up to `close`. -/
def items (close : UInt8) (item : List UInt8 → Option (α × List UInt8)) :
    (k : ℕ) → List UInt8 → Option (List α × List UInt8)
  | 0, _ => none
  | k + 1, s =>
    match item s with
    | none => none
    | some (a, r) =>
      match skipSpace r with
      | [] => none
      | c :: r =>
        if c = byte ',' then (items close item k r).map fun as => (a :: as.1, as.2)
        else if c = close then some ([a], r)
        else none

/-- The items behind an opening bracket; there may be none. -/
def group (close : UInt8) (item : List UInt8 → Option (α × List UInt8)) (s : List UInt8) :
    Option (List α × List UInt8) :=
  match skipSpace s with
  | [] => none
  | c :: r => if c = close then some ([], r) else items close item s.length s

/-- A name, a colon and a value. -/
def member (item : List UInt8 → Option (α × List UInt8)) (s : List UInt8) :
    Option ((String × α) × List UInt8) :=
  match skipSpace s with
  | [] => none
  | b :: s =>
    if b ≠ byte '"' then none
    else
      match stringLit s with
      | none => none
      | some (lit, r) =>
        match unquote lit, skipSpace r with
        | some name, c :: r =>
          if c = byte ':' then (item r).map fun v => ((name, v.1), v.2) else none
        | _, _ => none

end

/-- A value whose parts are read by `inner`. -/
def compound (inner : List UInt8 → Option (JVal × List UInt8)) :
    List UInt8 → Option (JVal × List UInt8)
  | [] => none
  | b :: s =>
    if b = byte '[' then (group (byte ']') inner s).map fun xs => (.arr xs.1, xs.2)
    else if b = byte '\x7b' then
      (group (byte '\x7d') (member inner) s).map fun m => (.obj m.1, m.2)
    else scalar (b :: s)

/-- One value with at most `depth` arrays and objects around another, and what follows it. -/
def value : (depth : ℕ) → List UInt8 → Option (JVal × List UInt8)
  | 0, s => scalar (skipSpace s)
  | depth + 1, s => compound (value depth) (skipSpace s)

/-- `maxNestingDepth`. -/
def maxNestingDepth : ℕ := 10000

/-- The value of a whole text. -/
def parse (s : List UInt8) : Option JVal :=
  match value maxNestingDepth s with
  | none => none
  | some (v, r) => if skipSpace r = [] then some v else none

/-! ## What a reader consumes -/

def JVal.isNum : JVal → Bool
  | .num _ => true
  | _ => false

/-- Where a number ends no byte of a number follows. -/
def Ends (num : Bool) (x : List UInt8) : Prop :=
  num = true → ∀ b, x.head? = some b → isNumberByte b = false

/-- A reader takes what it reads up to a last byte, which is no white space, and would read the same
from these bytes before any other rest at which it can end. -/
def Reads {α : Type} (num : α → Bool) (f : List UInt8 → Option (α × List UInt8)) : Prop :=
  ∀ s a r, f s = some (a, r) → ∃ p b, s = p ++ b :: r ∧ isSpaceByte b = false ∧ Ends (num a) r ∧
    ∀ x, Ends (num a) x → f (p ++ b :: x) = some (a, x)

theorem Ends.cons {num : Bool} {c : UInt8} (h : isNumberByte c = false) (x : List UInt8) :
    Ends num (c :: x) := by
  intro _ b hb
  cases hb
  exact h

theorem ends_false (x : List UInt8) : Ends false x := nofun

/-- White space, and what stands behind it. -/
theorem skipSpace_spec (s : List UInt8) :
    ∃ ws, s = ws ++ skipSpace s ∧ ∀ b ∈ ws, isSpaceByte b = true :=
  ⟨s.takeWhile isSpaceByte, List.takeWhile_append_dropWhile.symm,
    fun _ hb => (List.mem_takeWhile_imp hb)⟩

theorem skipSpace_append {ws : List UInt8} (h : ∀ b ∈ ws, isSpaceByte b = true) (s : List UInt8) :
    skipSpace (ws ++ s) = skipSpace s :=
  List.dropWhile_append_of_pos h

theorem skipSpace_eq_nil {s : List UInt8} : skipSpace s = [] ↔ ∀ b ∈ s, isSpaceByte b = true :=
  List.dropWhile_eq_nil_iff

theorem skipSpace_cons {c : UInt8} (h : isSpaceByte c = false) (s : List UInt8) :
    skipSpace (c :: s) = c :: s := by
  simp [skipSpace, h]

theorem skipSpace_head {s r : List UInt8} {c : UInt8} (h : skipSpace s = c :: r) :
    isSpaceByte c = false := by
  have hne : s.dropWhile isSpaceByte ≠ [] := by
    rw [show s.dropWhile isSpaceByte = c :: r from h]
    simp
  have hhead := List.head_dropWhile_not isSpaceByte hne
  simp only [show s.dropWhile isSpaceByte = c :: r from h, List.head_cons] at hhead
  exact hhead

/-- Up to a byte that is no white space, the rest does not matter to `skipSpace`. -/
theorem skipSpace_first {b c : UInt8} (hb : isSpaceByte b = false) {r r1 : List UInt8} :
    ∀ {p : List UInt8}, skipSpace (p ++ b :: r) = c :: r1 →
      ∀ x, ∃ y, skipSpace (p ++ b :: x) = c :: y
  | [], h, x => by
    rw [List.nil_append, skipSpace_cons hb] at h
    exact ⟨x, by rw [List.nil_append, skipSpace_cons hb, (List.cons.inj h).1]⟩
  | d :: p, h, x => by
    cases hd : isSpaceByte d with
    | true =>
      have hskip : ∀ s, skipSpace (d :: s) = skipSpace s := fun s => by simp [skipSpace, hd]
      rw [List.cons_append, hskip] at h
      rw [List.cons_append, hskip]
      exact skipSpace_first hb h x
    | false =>
      rw [List.cons_append, skipSpace_cons hd] at h
      rw [List.cons_append, skipSpace_cons hd]
      exact ⟨p ++ b :: x, by rw [(List.cons.inj h).1]⟩

theorem isNumberByte_of_space {b : UInt8} (h : isSpaceByte b = true) : isNumberByte b = false := by
  simp only [isSpaceByte, Bool.or_eq_true, beq_iff_eq] at h
  rcases h with ((rfl | rfl) | rfl) | rfl <;> decide

/-- White space ends a number, and so does the delimiter behind it. -/
theorem Ends.space {num : Bool} {ws : List UInt8} (h : ∀ b ∈ ws, isSpaceByte b = true) {c : UInt8}
    (hc : isNumberByte c = false) (x : List UInt8) : Ends num (ws ++ c :: x) := by
  cases ws with
  | nil => exact Ends.cons hc x
  | cons b ws => exact Ends.cons (isNumberByte_of_space (h b (by simp))) _

/-- One step of `stringLit`, whatever the rest. -/
theorem stringLit_cons (b : UInt8) (s : List UInt8) :
    stringLit (b :: s) =
      if b = byte '"' then some ([], s)
      else if b < 0x20 then none
      else if b = byte '\\' then
        match s with
        | [] => none
        | c :: s => (stringLit s).map fun r => (b :: c :: r.1, r.2)
      else (stringLit s).map fun r => (b :: r.1, r.2) := by
  rw [stringLit.eq_def]

/-- A string literal ends at its closing quote. -/
theorem stringLit_reads : Reads (fun _ => false) stringLit := by
  intro s
  induction s using stringLit.induct with
  | case1 => intro a r h; cases h
  | case2 s =>
    intro a r h
    rw [stringLit_cons, if_pos rfl] at h
    cases h
    exact ⟨[], byte '"', rfl, by decide, ends_false _, fun x _ => by
      rw [List.nil_append, stringLit_cons, if_pos rfl]⟩
  | case3 b s hb hctl =>
    intro a r h
    rw [stringLit_cons, if_neg hb, if_pos hctl] at h
    cases h
  | case4 hb hctl =>
    intro a r h
    rw [stringLit_cons, if_neg hb, if_neg hctl, if_pos rfl] at h
    cases h
  | case5 c s hb hctl ih =>
    intro a r h
    rw [stringLit_cons, if_neg hb, if_neg hctl, if_pos rfl] at h
    obtain ⟨⟨a', r'⟩, hlit, heq⟩ := Option.map_eq_some_iff.mp h
    cases heq
    obtain ⟨p, e, rfl, he, hends, hread⟩ := ih a' r' hlit
    refine ⟨byte '\\' :: c :: p, e, rfl, he, hends, fun x hx => ?_⟩
    rw [List.cons_append, stringLit_cons, if_neg hb, if_neg hctl, if_pos rfl]
    simp only [List.cons_append, hread x hx, Option.map_some]
  | case6 b s hb hctl hesc ih =>
    intro a r h
    rw [stringLit_cons, if_neg hb, if_neg hctl, if_neg hesc] at h
    obtain ⟨⟨a', r'⟩, hlit, heq⟩ := Option.map_eq_some_iff.mp h
    cases heq
    obtain ⟨p, e, rfl, he, hends, hread⟩ := ih a' r' hlit
    refine ⟨b :: p, e, rfl, he, hends, fun x hx => ?_⟩
    rw [List.cons_append, stringLit_cons, if_neg hb, if_neg hctl, if_neg hesc, hread x hx,
      Option.map_some]

theorem literal_eq_some {word : String} {v a : JVal} {s r : List UInt8} :
    literal word v s = some (a, r) ↔ a = v ∧ s = utf8 word.toList ++ r := by
  simp only [literal]
  constructor
  · intro h
    split at h
    · rename_i hpre
      obtain ⟨t, rfl⟩ := List.isPrefixOf_iff_prefix.mp hpre
      rw [List.drop_left] at h
      cases h
      exact ⟨rfl, rfl⟩
    · cases h
  · rintro ⟨rfl, rfl⟩
    rw [if_pos (List.isPrefixOf_iff_prefix.mpr (List.prefix_append _ _)), List.drop_left]

/-- A word that `scalar` knows ends with its last letter. -/
theorem word_reads (word : String) (v : JVal) {first e : UInt8} {p : List UInt8}
    (hv : v.isNum = false) (hword : utf8 word.toList = first :: (p ++ [e]))
    (he : isSpaceByte e = false) (hscalar : ∀ s, scalar (first :: s) = literal word v (first :: s))
    {s : List UInt8} {a : JVal} {r : List UInt8} (h : scalar (first :: s) = some (a, r)) :
    ∃ p b, first :: s = p ++ b :: r ∧ isSpaceByte b = false ∧ Ends a.isNum r ∧
      ∀ x, Ends a.isNum x → scalar (p ++ b :: x) = some (a, x) := by
  rw [hscalar] at h
  obtain ⟨rfl, hs⟩ := literal_eq_some.mp h
  rw [hword] at hs
  refine ⟨first :: p, e, by simpa using hs, he, by rw [hv]; exact ends_false _, fun x _ => ?_⟩
  rw [List.cons_append, hscalar]
  exact literal_eq_some.mpr ⟨rfl, by simp [hword]⟩

/-- A run of bytes ends where one follows that does not belong to it. -/
theorem span_append {p : UInt8 → Bool} {s x : List UInt8} (hs : ∀ b ∈ s, p b = true)
    (hx : ∀ b, x.head? = some b → p b = false) :
    (s ++ x).takeWhile p = s ∧ (s ++ x).dropWhile p = x := by
  rw [List.takeWhile_append_of_pos hs, List.dropWhile_append_of_pos hs]
  cases x with
  | nil => simp
  | cons b x => simp [hx b rfl]

/-- A number is read from all its bytes. -/
theorem number_reads {s : List UInt8} {q : ℚ}
    (h : numberValue (s.takeWhile isNumberByte) = some q) :
    ∃ p b, s = p ++ b :: s.dropWhile isNumberByte ∧ isSpaceByte b = false ∧
      Ends true (s.dropWhile isNumberByte) ∧ ∀ x, Ends true x →
        (p ++ b :: x).takeWhile isNumberByte = s.takeWhile isNumberByte ∧
        (p ++ b :: x).dropWhile isNumberByte = x := by
  have hsplit : s.takeWhile isNumberByte ++ s.dropWhile isNumberByte = s :=
    List.takeWhile_append_dropWhile
  rcases List.eq_nil_or_concat (s.takeWhile isNumberByte) with hnil | ⟨p, b, hp⟩
  · rw [hnil] at h
    cases h
  · have hp : s.takeWhile isNumberByte = p ++ [b] := by simpa using hp
    have hall : ∀ c ∈ p ++ [b], isNumberByte c = true := fun c hc =>
      List.mem_takeWhile_imp (hp ▸ hc)
    refine ⟨p, b, ?_, ?_, ?_, fun x hx => ?_⟩
    · rw [hp] at hsplit
      simpa using hsplit.symm
    · by_contra hspace
      have hb := hall b (by simp)
      rw [isNumberByte_of_space (by simpa using hspace)] at hb
      cases hb
    · intro _ c hc
      have hne : s.dropWhile isNumberByte ≠ [] := by
        intro hnil
        rw [hnil] at hc
        cases hc
      have hhead := List.head_dropWhile_not isNumberByte hne
      rw [List.head?_eq_some_head hne] at hc
      exact Option.some.inj hc ▸ hhead
    · rw [show p ++ b :: x = (p ++ [b]) ++ x by simp, hp]
      exact span_append hall (hx rfl)

/-- A literal or number is read from its own bytes. -/
theorem scalar_reads : Reads JVal.isNum scalar := by
  intro s a r h
  cases s with
  | nil => cases h
  | cons b s =>
    by_cases hq : b = byte '"'
    · subst hq
      simp only [scalar, if_true] at h
      split at h
      · cases h
      · rename_i lit r' hlit
        obtain ⟨t, ht, heq⟩ := Option.map_eq_some_iff.mp h
        cases heq
        obtain ⟨p, e, rfl, he, -, hread⟩ := stringLit_reads s lit r hlit
        refine ⟨byte '"' :: p, e, rfl, he, ends_false _, fun x _ => ?_⟩
        simp only [List.cons_append, scalar, if_true, hread x (ends_false _), ht, Option.map_some]
    · by_cases ht : b = byte 't'
      · subst ht
        exact word_reads "true" (.bool true) (p := [byte 'r', byte 'u']) (e := byte 'e') rfl
          (by decide) (by decide) (fun s => by simp only [scalar, if_neg hq, if_true]) h
      · by_cases hf : b = byte 'f'
        · subst hf
          exact word_reads "false" (.bool false) (p := [byte 'a', byte 'l', byte 's'])
            (e := byte 'e') rfl (by decide) (by decide)
            (fun s => by simp only [scalar, if_neg hq, if_neg ht, if_true]) h
        · by_cases hn : b = byte 'n'
          · subst hn
            exact word_reads "null" .null (p := [byte 'u', byte 'l']) (e := byte 'l') rfl
              (by decide) (by decide)
              (fun s => by simp only [scalar, if_neg hq, if_neg ht, if_neg hf, if_true]) h
          · have hscalar : ∀ s, scalar (b :: s) =
                (numberValue ((b :: s).takeWhile isNumberByte)).map fun q =>
                  (.num q, (b :: s).dropWhile isNumberByte) := by
              intro s
              simp only [scalar, if_neg hq, if_neg ht, if_neg hf, if_neg hn]
            rw [hscalar] at h
            obtain ⟨q, hval, heq⟩ := Option.map_eq_some_iff.mp h
            cases heq
            obtain ⟨p, e, hs, he, hends, hread⟩ := number_reads hval
            refine ⟨p, e, hs, he, hends, fun x hx => ?_⟩
            obtain ⟨htake, hdrop⟩ := hread x hx
            obtain ⟨y, hy⟩ : ∃ y, p ++ e :: x = b :: y := by
              cases p with
              | nil => exact ⟨x, by rw [(List.cons.inj hs).1]; rfl⟩
              | cons c p => exact ⟨p ++ e :: x, by rw [(List.cons.inj hs).1]; rfl⟩
            rw [hy, hscalar, ← hy, htake, hdrop, hval, Option.map_some]

section

variable {α : Type} {num : α → Bool} {item : List UInt8 → Option (α × List UInt8)} {close : UInt8}

/-- **A list of items ends at its closing bracket**, and there are no more items than bytes. -/
theorem items_reads (hitem : Reads num item) (hspace : isSpaceByte close = false)
    (hnum : isNumberByte close = false) :
    ∀ (k : ℕ) (s : List UInt8) (as : List α) (r : List UInt8), items close item k s = some (as, r) →
      ∃ p, s = p ++ close :: r ∧
        ∀ x k', p.length < k' → items close item k' (p ++ close :: x) = some (as, x) := by
  intro k
  induction k with
  | zero => intro s as r h; cases h
  | succ k ih =>
    intro s as r h
    simp only [items] at h
    split at h
    · cases h
    · rename_i a r1 hitem1
      obtain ⟨p1, b1, rfl, hb1, -, hread1⟩ := hitem s a r1 hitem1
      split at h
      · cases h
      · rename_i c r2 hskip
        obtain ⟨ws, hws, hspaces⟩ := skipSpace_spec r1
        rw [hskip] at hws
        subst hws
        split at h
        · -- another item follows
          rename_i hcomma
          obtain ⟨⟨as', r'⟩, hrest, heq⟩ := Option.map_eq_some_iff.mp h
          cases heq
          obtain ⟨p2, rfl, hread2⟩ := ih r2 as' r' hrest
          refine ⟨p1 ++ b1 :: (ws ++ c :: p2), by simp, fun x k' hk' => ?_⟩
          simp only [List.length_append, List.length_cons] at hk'
          obtain ⟨k', rfl⟩ : ∃ n, k' = n + 1 := ⟨k' - 1, by omega⟩
          have hfirst := hread1 (ws ++ c :: (p2 ++ close :: x))
            (Ends.space hspaces (by rw [hcomma]; decide) _)
          have htext : p1 ++ b1 :: (ws ++ c :: p2) ++ close :: x =
              p1 ++ b1 :: (ws ++ c :: (p2 ++ close :: x)) := by simp
          rw [htext, items, hfirst]
          simp only
          rw [skipSpace_append hspaces, skipSpace_cons (skipSpace_head hskip)]
          simp only [if_pos hcomma, hread2 x k' (by omega), Option.map_some]
        · split at h
          · rename_i hcomma hclose
            subst hclose
            cases h
            refine ⟨p1 ++ b1 :: ws, by simp, fun x k' hk' => ?_⟩
            obtain ⟨k', rfl⟩ : ∃ n, k' = n + 1 := ⟨k' - 1, by omega⟩
            have hfirst := hread1 (ws ++ c :: x) (Ends.space hspaces hnum _)
            have htext : p1 ++ b1 :: ws ++ c :: x = p1 ++ b1 :: (ws ++ c :: x) := by simp
            rw [htext, items, hfirst]
            simp only
            rw [skipSpace_append hspaces, skipSpace_cons hspace]
            simp only [if_neg hcomma, if_true]
          · cases h

/-- A group of items ends at its closing bracket. -/
theorem group_reads (hitem : Reads num item) (hspace : isSpaceByte close = false)
    (hnum : isNumberByte close = false) : Reads (fun _ => false) (group close item) := by
  intro s as r h
  obtain ⟨ws, hws, hspaces⟩ := skipSpace_spec s
  simp only [group] at h
  split at h
  · cases h
  · rename_i c r1 hskip
    split at h
    · rename_i hclose
      subst hclose
      cases h
      rw [hskip] at hws
      refine ⟨ws, c, hws, hspace, ends_false _, fun x _ => ?_⟩
      simp only [group, skipSpace_append hspaces, skipSpace_cons hspace, if_true]
    · rename_i hclose
      obtain ⟨p, rfl, hread⟩ := items_reads hitem hspace hnum s.length s as r h
      refine ⟨p, close, rfl, hspace, ends_false _, fun x _ => ?_⟩
      obtain ⟨y, hy⟩ := skipSpace_first hspace hskip x
      simp only [group, hy, if_neg hclose]
      exact hread x _ (by simp)

/-- A member ends where its value does. -/
theorem member_reads (hitem : Reads num item) :
    Reads (fun m : String × α => num m.2) (member item) := by
  intro s m r h
  obtain ⟨ws, hws, hspaces⟩ := skipSpace_spec s
  simp only [member] at h
  split at h
  · cases h
  · rename_i b s1 hskip
    split at h
    · cases h
    · rename_i hquote
      have hquote : b = byte '"' := by simpa using hquote
      subst hquote
      rw [hskip] at hws
      split at h
      · cases h
      · rename_i lit r1 hlit
        split at h
        · rename_i name c r2 hname hskip1
          split at h
          · rename_i hcolon
            subst hcolon
            obtain ⟨⟨v, r'⟩, hv, heq⟩ := Option.map_eq_some_iff.mp h
            cases heq
            obtain ⟨p1, b1, rfl, -, -, hread1⟩ := stringLit_reads s1 lit r1 hlit
            obtain ⟨ws1, hws1, hspaces1⟩ := skipSpace_spec r1
            rw [hskip1] at hws1
            subst hws1
            obtain ⟨p2, b2, rfl, hb2, hends, hread2⟩ := hitem r2 v r' hv
            refine ⟨ws ++ byte '"' :: (p1 ++ b1 :: (ws1 ++ byte ':' :: p2)), b2, ?_, hb2, hends,
              fun x hx => ?_⟩
            · rw [hws]
              simp
            · have htext : ws ++ byte '"' :: (p1 ++ b1 :: (ws1 ++ byte ':' :: p2)) ++ b2 :: x =
                  ws ++ byte '"' :: (p1 ++ b1 :: (ws1 ++ byte ':' :: (p2 ++ b2 :: x))) := by simp
              rw [htext]
              simp only [member, skipSpace_append hspaces, skipSpace_cons (s := p1 ++ _)
                (show isSpaceByte (byte '"') = false by decide), ne_eq, not_true_eq_false, if_false,
                hread1 _ (ends_false _), hname, skipSpace_append hspaces1,
                skipSpace_cons (skipSpace_head hskip1), if_true, hread2 x hx, Option.map_some]
          · cases h
        · cases h

end

theorem compound_reads {inner : List UInt8 → Option (JVal × List UInt8)}
    (hinner : Reads JVal.isNum inner) : Reads JVal.isNum (compound inner) := by
  intro s v r h
  cases s with
  | nil => cases h
  | cons b s =>
    simp only [compound] at h
    split at h
    · rename_i hb
      subst hb
      obtain ⟨⟨xs, r'⟩, hxs, heq⟩ := Option.map_eq_some_iff.mp h
      cases heq
      obtain ⟨p, e, rfl, he, -, hread⟩ := group_reads hinner (by decide) (by decide) s xs r' hxs
      refine ⟨byte '[' :: p, e, rfl, he, ends_false _, fun x _ => ?_⟩
      simp only [List.cons_append, compound, if_true, hread x (ends_false _), Option.map_some]
    · rename_i hb
      split at h
      · rename_i hb2
        subst hb2
        obtain ⟨⟨m, r'⟩, hm, heq⟩ := Option.map_eq_some_iff.mp h
        cases heq
        obtain ⟨p, e, rfl, he, -, hread⟩ :=
          group_reads (member_reads hinner) (by decide) (by decide) s m r' hm
        refine ⟨byte '\x7b' :: p, e, rfl, he, ends_false _, fun x _ => ?_⟩
        simp only [List.cons_append, compound, if_neg hb, if_true, hread x (ends_false _),
          Option.map_some]
      · rename_i hb2
        obtain ⟨p, e, hs, he, hends, hread⟩ := scalar_reads (b :: s) v r h
        refine ⟨p, e, hs, he, hends, fun x hx => ?_⟩
        rw [← hread x hx]
        cases p with
        | nil =>
          obtain ⟨rfl, -⟩ := List.cons.inj hs
          simp only [List.nil_append, compound, if_neg hb, if_neg hb2]
        | cons c p =>
          obtain ⟨rfl, -⟩ := List.cons.inj hs
          simp only [List.cons_append, compound, if_neg hb, if_neg hb2]

/-- White space before a value does not matter. -/
theorem Reads.skip {α : Type} {num : α → Bool} {f : List UInt8 → Option (α × List UInt8)}
    (hf : Reads num f) : Reads num fun s => f (skipSpace s) := by
  intro s a r h
  obtain ⟨ws, hws, hspaces⟩ := skipSpace_spec s
  obtain ⟨p, b, hs, hb, hends, hread⟩ := hf _ a r h
  refine ⟨ws ++ p, b, by rw [List.append_assoc, ← hs]; exact hws, hb, hends, fun x hx => ?_⟩
  have hskip : skipSpace (p ++ b :: x) = p ++ b :: x := by
    cases p with
    | nil => exact skipSpace_cons hb x
    | cons c p => exact skipSpace_cons (skipSpace_head hs) _
  simp only [List.append_assoc, skipSpace_append hspaces, hskip]
  exact hread x hx

/-- **A value ends with its last byte.** -/
theorem value_reads : ∀ depth, Reads JVal.isNum (value depth)
  | 0 => scalar_reads.skip
  | depth + 1 => (compound_reads (value_reads depth)).skip

end Go
