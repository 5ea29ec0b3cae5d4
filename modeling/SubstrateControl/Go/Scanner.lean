import Mathlib.Data.List.Basic

/-!
# Lines of a stream

Model of `bufio.Scanner` with the split function `bufio.ScanLines`, over a reader that gives a
stream of bytes piece by piece.

* `lines` — the lines of a text, without their newlines; what stands behind the last newline is a
  line too, unless it is empty.
* `scanLines` — the split function, and what it gives (`scanLines_spec`).
* `Ended` — texts that end where a line ends: what follows them starts a line of its own.
* `Scanner` — the buffer of a scanner, which may grow up to `maxTokenSize`; `makeRoom`, `fill` and
  `advance` are the steps of `Scan`.
* `makeRoom_eq_none_iff` — the scanner gives up exactly when the buffer is full of one line.
-/

set_option autoImplicit false

namespace Go

def newline : UInt8 := 10

/-- The lines of a text, without their newlines. -/
def lines : List UInt8 → List (List UInt8)
  | [] => []
  | b :: bs =>
    if b = newline then [] :: lines bs
    else
      match lines bs with
      | [] => [[b]]
      | line :: rest => (b :: line) :: rest

/-- `dropCR`. -/
def dropCR (data : List UInt8) : List UInt8 :=
  if data.getLast? = some 13 then data.dropLast else data

/-- `bufio.ScanLines`: how far to advance, and the token. -/
def scanLines (data : List UInt8) (atEOF : Bool) : Option (ℕ × List UInt8) :=
  if atEOF = true ∧ data = [] then none
  else
    match data.idxOf? newline with
    | some i => some (i + 1, dropCR (data.take i))
    | none => if atEOF then some (data.length, dropCR data) else none

/-! ## Lines -/

theorem lines_line {line : List UInt8} (hline : newline ∉ line) (rest : List UInt8) :
    lines (line ++ newline :: rest) = line :: lines rest := by
  induction line with
  | nil => simp [lines]
  | cons b line ih =>
    obtain ⟨hb, htail⟩ := not_or.mp (List.mem_cons.not.mp hline)
    rw [List.cons_append, lines, if_neg (Ne.symm hb), ih htail]

theorem lines_last {line : List UInt8} (hline : newline ∉ line) (hne : line ≠ []) :
    lines line = [line] := by
  induction line with
  | nil => exact absurd rfl hne
  | cons b line ih =>
    obtain ⟨hb, htail⟩ := not_or.mp (List.mem_cons.not.mp hline)
    rw [lines, if_neg (Ne.symm hb)]
    by_cases hempty : line = []
    · subst hempty
      rfl
    · rw [ih htail hempty]

/-- **Induction on the lines of a text**, from its last line backwards. -/
@[elab_as_elim]
theorem lines_induction {motive : List UInt8 → Prop}
    (last : ∀ line, newline ∉ line → motive line)
    (line : ∀ line rest, newline ∉ line → motive rest → motive (line ++ newline :: rest))
    (bs : List UInt8) : motive bs := by
  induction h : bs.length using Nat.strongRecOn generalizing bs with
  | ind n ih =>
    by_cases hmem : newline ∈ bs
    · obtain ⟨first, rest, rfl, hfirst⟩ := List.eq_append_cons_of_mem hmem
      apply line first rest hfirst
      apply ih rest.length _ rest rfl
      simp only [List.length_append, List.length_cons] at h
      omega
    · exact last bs hmem

/-- A piece without a newline is the beginning of a line. -/
theorem exists_mem_lines {piece : List UInt8} (hpiece : newline ∉ piece) (hne : piece ≠ [])
    (rest : List UInt8) : ∃ line ∈ lines (piece ++ rest), piece <+: line := by
  by_cases hmem : newline ∈ rest
  · obtain ⟨more, tail, rfl, hmore⟩ := List.eq_append_cons_of_mem hmem
    have hline : newline ∉ piece ++ more := by simp [hpiece, hmore]
    refine ⟨piece ++ more, ?_, List.prefix_append _ _⟩
    rw [← List.append_assoc, lines_line hline]
    exact List.mem_cons_self
  · refine ⟨piece ++ rest, ?_, List.prefix_append _ _⟩
    rw [lines_last (by simp [hpiece, hmem]) (by simp [hne])]
    exact List.mem_cons_self

/-- **Lines only grow** when a text is continued. -/
theorem mem_lines_append {bs line : List UInt8} (hline : line ∈ lines bs) (rest : List UInt8) :
    ∃ line' ∈ lines (bs ++ rest), line <+: line' := by
  induction bs using lines_induction with
  | last bs hbs =>
    have hne : bs ≠ [] := by
      rintro rfl
      cases hline
    rw [lines_last hbs hne, List.mem_singleton] at hline
    subst hline
    exact exists_mem_lines hbs hne rest
  | line first tail hfirst ih =>
    rw [lines_line hfirst, List.mem_cons] at hline
    rw [List.append_assoc, List.cons_append, lines_line hfirst]
    rcases hline with rfl | htail
    · exact ⟨line, List.mem_cons_self, List.prefix_rfl⟩
    · obtain ⟨line', hmem, hpre⟩ := ih htail
      exact ⟨line', List.mem_cons_of_mem _ hmem, hpre⟩

/-- What follows `bs` starts a line of its own. -/
def Ended (bs : List UInt8) : Prop := ∀ rest, lines (bs ++ rest) = lines bs ++ lines rest

theorem Ended.nil : Ended [] := fun _ => rfl

theorem Ended.lines_append {bs line : List UInt8} (h : Ended bs) (hline : newline ∉ line) :
    lines (bs ++ (line ++ [newline])) = lines bs ++ [line] := by
  rw [h, lines_line hline]
  rfl

theorem Ended.append {bs line : List UInt8} (h : Ended bs) (hline : newline ∉ line) :
    Ended (bs ++ (line ++ [newline])) := by
  intro rest
  have hassoc : line ++ [newline] ++ rest = line ++ newline :: rest := by simp
  rw [h.lines_append hline, List.append_assoc, hassoc, h, lines_line hline]
  simp

/-! ## The split function -/

/-- What `scanLines` gives: a line, the last line at the end of the stream, or a request for more
data. -/
inductive ScanLines (data : List UInt8) (atEOF : Bool) : Option (ℕ × List UInt8) → Prop where
  | line (line rest : List UInt8) (hline : newline ∉ line)
      (hdata : data = line ++ newline :: rest) :
      ScanLines data atEOF (some (line.length + 1, dropCR line))
  | last (hline : newline ∉ data) (hne : data ≠ []) (heof : atEOF = true) :
      ScanLines data atEOF (some (data.length, dropCR data))
  | more (hline : newline ∉ data) (hmore : atEOF = true → data = []) : ScanLines data atEOF none

theorem idxOf?_newline {line : List UInt8} (hline : newline ∉ line) (rest : List UInt8) :
    (line ++ newline :: rest).idxOf? newline = some line.length := by
  induction line with
  | nil => simp [List.idxOf?_cons]
  | cons b line ih =>
    obtain ⟨hb, htail⟩ := not_or.mp (List.mem_cons.not.mp hline)
    rw [List.cons_append, List.idxOf?_cons, ih htail]
    simp [Ne.symm hb]

theorem scanLines_spec (data : List UInt8) (atEOF : Bool) :
    ScanLines data atEOF (scanLines data atEOF) := by
  unfold scanLines
  by_cases hmem : newline ∈ data
  · obtain ⟨line, rest, rfl, hline⟩ := List.eq_append_cons_of_mem hmem
    rw [if_neg (by simp), idxOf?_newline hline]
    show ScanLines _ _ (some (line.length + 1, dropCR ((line ++ newline :: rest).take line.length)))
    rw [List.take_left]
    exact .line line rest hline rfl
  · by_cases hend : atEOF = true ∧ data = []
    · rw [if_pos hend]
      exact .more hmem fun _ => hend.2
    · rw [if_neg hend, List.idxOf?_eq_none_iff.mpr hmem]
      show ScanLines data atEOF (if atEOF then some (data.length, dropCR data) else none)
      cases atEOF with
      | true => exact .last hmem (fun hempty => hend ⟨rfl, hempty⟩) rfl
      | false => exact .more hmem (fun h => by cases h)

/-- A token starts with `p` exactly when its line does, where `p` ends in something else than a
carriage return. -/
theorem isPrefixOf_dropCR {p : List UInt8} (hp : p.getLast? ≠ some 13) (line : List UInt8) :
    p.isPrefixOf (dropCR line) = p.isPrefixOf line := by
  unfold dropCR
  split
  · rename_i hcr
    obtain ⟨text, rfl⟩ := List.getLast?_eq_some_iff.mp hcr
    rw [List.dropLast_concat, Bool.eq_iff_iff, List.isPrefixOf_iff_prefix,
      List.isPrefixOf_iff_prefix]
    constructor
    · exact fun h => h.trans (List.prefix_append _ _)
    · intro h
      rcases List.prefix_concat_iff.mp h with rfl | hpre
      · exact absurd (List.getLast?_concat) hp
      · exact hpre
  · rfl

/-! ## The scanner -/

/-- `bufio.startBufSize`. -/
def startBufSize : ℕ := 4096

/-- A scanner between two steps of `Scan`. -/
@[ext]
structure Scanner (maxTokenSize : ℕ) where
  /-- `buf[start:end]`. -/
  data : List UInt8 := []
  start : ℕ := 0
  /-- `len(buf)`. -/
  size : ℕ := 0
  /-- The reader has returned an error, or the end of the stream. -/
  err : Bool := false
  fits : start + data.length ≤ size ∧ size ≤ maxTokenSize := by simp
  deriving DecidableEq, Repr

namespace Scanner

variable {maxTokenSize : ℕ}

/-- The data is moved to the beginning of the buffer, where there is much or needed room. -/
def shift (s : Scanner maxTokenSize) : Scanner maxTokenSize :=
  if 0 < s.start ∧ (s.start + s.data.length = s.size ∨ s.size / 2 < s.start) then
    { s with start := 0, fits := by have := s.fits; omega }
  else s

/-- Room is made for a read, unless the buffer is full and may not grow. -/
def makeRoom (s : Scanner maxTokenSize) : Option (Scanner maxTokenSize) :=
  if s.shift.start + s.shift.data.length = s.shift.size then
    if maxTokenSize ≤ s.shift.size then none
    else
      some { s.shift with
        start := 0
        size := min (if s.shift.size = 0 then startBufSize else s.shift.size * 2) maxTokenSize
        fits := by
          have := s.shift.fits
          unfold startBufSize
          split <;> omega }
  else some s.shift

/-- `len(buf) - end`. -/
def room (s : Scanner maxTokenSize) : ℕ := s.size - (s.start + s.data.length)

/-- A read of `n + 1` bytes, or of as many as there is room for. -/
def count (s : Scanner maxTokenSize) (n : ℕ) : ℕ := min (n + 1) s.room

/-- What `input` has of a read arrives in the buffer. -/
def fill (s : Scanner maxTokenSize) (input : List UInt8) (n : ℕ) : Scanner maxTokenSize :=
  { s with
    data := s.data ++ input.take (s.count n)
    fits := by
      have := s.fits
      have hcount : s.count n ≤ s.size - (s.start + s.data.length) := Nat.min_le_right _ _
      rw [List.length_append, List.length_take]
      omega }

def fail (s : Scanner maxTokenSize) : Scanner maxTokenSize := { s with err := true }

def advance (s : Scanner maxTokenSize) (n : ℕ) : Scanner maxTokenSize :=
  { s with
    data := s.data.drop n
    start := s.start + min n s.data.length
    fits := by
      have := s.fits
      rw [List.length_drop]
      omega }

@[simp] theorem shift_data (s : Scanner maxTokenSize) : s.shift.data = s.data := by
  unfold shift
  split <;> rfl

@[simp] theorem shift_err (s : Scanner maxTokenSize) : s.shift.err = s.err := by
  unfold shift
  split <;> rfl

@[simp] theorem fill_data (s : Scanner maxTokenSize) (input : List UInt8) (n : ℕ) :
    (s.fill input n).data = s.data ++ input.take (s.count n) := rfl

@[simp] theorem fill_err (s : Scanner maxTokenSize) (input : List UInt8) (n : ℕ) :
    (s.fill input n).err = s.err := rfl

@[simp] theorem fail_data (s : Scanner maxTokenSize) : s.fail.data = s.data := rfl

@[simp] theorem fail_err (s : Scanner maxTokenSize) : s.fail.err = true := rfl

@[simp] theorem advance_data (s : Scanner maxTokenSize) (n : ℕ) :
    (s.advance n).data = s.data.drop n := rfl

@[simp] theorem advance_err (s : Scanner maxTokenSize) (n : ℕ) : (s.advance n).err = s.err := rfl

theorem length_le (s : Scanner maxTokenSize) : s.data.length ≤ maxTokenSize := by
  have := s.fits
  omega

/-- **The scanner gives up exactly when the buffer is full** at its greatest length. -/
theorem makeRoom_eq_none_iff (s : Scanner maxTokenSize) :
    s.makeRoom = none ↔ s.data.length = maxTokenSize := by
  have hfits := s.fits
  have hshift : s.shift.start + s.data.length = s.shift.size ∧ maxTokenSize ≤ s.shift.size ↔
      s.data.length = maxTokenSize := by
    unfold shift
    split
    · show 0 + s.data.length = s.size ∧ maxTokenSize ≤ s.size ↔ _
      omega
    · omega
  rw [← hshift]
  unfold makeRoom
  rw [shift_data]
  split
  · rename_i hfull
    split <;> simp_all
  · rename_i hroom
    simp [hroom]

/-- Where the scanner goes on, the data is as it was, and there is room behind it. -/
theorem makeRoom_spec {s s' : Scanner maxTokenSize} (h : s.makeRoom = some s') :
    s'.data = s.data ∧ s'.err = s.err ∧ 0 < s'.room := by
  have hfits := s.shift.fits
  unfold makeRoom at h
  split at h
  · rename_i hfull
    split at h
    · cases h
    · rename_i hmax
      cases h
      refine ⟨s.shift_data, s.shift_err, ?_⟩
      show 0 < min (if s.shift.size = 0 then startBufSize else s.shift.size * 2) maxTokenSize -
        (0 + s.shift.data.length)
      unfold startBufSize
      split <;> omega
  · rename_i hroom
    cases h
    refine ⟨s.shift_data, s.shift_err, ?_⟩
    unfold room
    omega

end Scanner

end Go
