import SubstrateControl.Go.Scanner
import SubstrateControl.Pforward.Readiness

/-!
# The child's stdout

What `runOnce` (`internal/pforward/pforward.go`) and its goroutine have of the child's stdout, in
bytes: the pipe that `cmd.StdoutPipe` made, with the child writing at one end and a scanner reading
at the other, and `cmd.Wait`, which closes the read end once the child has exited.

* `Stdout` — the pipe, the scanner and the history of both; `write`, `exit`, `wait`, `scan`.
* `Stdout.Scans` — what one step of `scanner.Scan()` can do (`scan_scans`).
* `Stdout.Consistent` — every byte written stands in one place: handed out, in the buffer, in the
  pipe, or lost with it.
* `Scans.handed_out` — the lines handed out are the lines written, in their order; the last one may
  be cut short.
-/

set_option autoImplicit false

namespace Pforward

structure Stdout where
  /-- History: what the child has written. -/
  written : List UInt8 := []
  /-- Written and not yet read. -/
  pipe : List UInt8 := []
  exited : Bool := false
  /-- The read end is closed. -/
  closed : Bool := false
  /-- History: what was in the pipe when its read end was closed. -/
  lost : List UInt8 := []
  scanner : Go.Scanner maxScanTokenSize := {}
  /-- History: what the scanner has advanced over. -/
  scanned : List UInt8 := []
  deriving DecidableEq, Repr

/-- What comes of a step of `scanner.Scan()`: it returns a line, goes on, or returns `false`. -/
inductive Scan where
  | line (text : Line)
  | more
  | stopped
  deriving DecidableEq, Repr

namespace Stdout

/-- `bs` is written to a pipe that holds `capacity` bytes; more than there is room for waits. -/
def write (capacity : ℕ) (o : Stdout) (bs : List UInt8) : Stdout :=
  if o.exited = true ∨ capacity < o.pipe.length + bs.length then o
  else { o with written := o.written ++ bs, pipe := o.pipe ++ bs }

def exit (o : Stdout) : Stdout := { o with exited := true }

/-- `cmd.Wait` sees the exit and closes the read end of the pipe. -/
def wait (o : Stdout) : Stdout :=
  if o.exited = true ∧ o.closed = false then
    { o with closed := true, lost := o.pipe, pipe := [] }
  else o

/-- One pass of the loop in `scanner.Scan()`; a read finds `n + 1` bytes, or what there is. -/
def scan (o : Stdout) (n : ℕ) : Scan × Stdout :=
  match Go.scanLines o.scanner.data o.scanner.err with
  | some (advance, token) =>
    (.line token,
      { o with
        scanner := o.scanner.advance advance
        scanned := o.scanned ++ o.scanner.data.take advance })
  | none =>
    if o.scanner.err then (.stopped, o)
    else
      match o.scanner.makeRoom with
      | none => (.stopped, o)  -- `bufio.ErrTooLong`
      | some s =>
        if o.closed then (.more, { o with scanner := s.fail })
        else if o.pipe = [] then
          -- the end of the stream, or the read blocks
          if o.exited then (.more, { o with scanner := s.fail }) else (.more, o)
        else (.more, { o with scanner := s.fill o.pipe n, pipe := o.pipe.drop (s.count n) })

@[simp] theorem write_scanner (capacity : ℕ) (o : Stdout) (bs : List UInt8) :
    (o.write capacity bs).scanner = o.scanner := by
  unfold write
  split <;> rfl

@[simp] theorem write_scanned (capacity : ℕ) (o : Stdout) (bs : List UInt8) :
    (o.write capacity bs).scanned = o.scanned := by
  unfold write
  split <;> rfl

@[simp] theorem write_closed (capacity : ℕ) (o : Stdout) (bs : List UInt8) :
    (o.write capacity bs).closed = o.closed := by
  unfold write
  split <;> rfl

@[simp] theorem write_lost (capacity : ℕ) (o : Stdout) (bs : List UInt8) :
    (o.write capacity bs).lost = o.lost := by
  unfold write
  split <;> rfl

theorem write_written (capacity : ℕ) (o : Stdout) (bs : List UInt8) :
    ∃ rest, (o.write capacity bs).written = o.written ++ rest := by
  unfold write
  split
  · exact ⟨[], by simp⟩
  · exact ⟨bs, rfl⟩

@[simp] theorem wait_written (o : Stdout) : o.wait.written = o.written := by
  unfold wait
  split <;> rfl

@[simp] theorem wait_scanner (o : Stdout) : o.wait.scanner = o.scanner := by
  unfold wait
  split <;> rfl

@[simp] theorem wait_scanned (o : Stdout) : o.wait.scanned = o.scanned := by
  unfold wait
  split <;> rfl

/-- What a step of `scanner.Scan()` does. -/
inductive Scans (o : Stdout) : Scan → Stdout → Prop where
  | line (line rest : Line) (hline : Go.newline ∉ line)
      (hdata : o.scanner.data = line ++ Go.newline :: rest) :
      Scans o (.line (Go.dropCR line)) { o with
        scanner := o.scanner.advance (line.length + 1)
        scanned := o.scanned ++ (line ++ [Go.newline]) }
  | last (hline : Go.newline ∉ o.scanner.data) (hne : o.scanner.data ≠ [])
      (herr : o.scanner.err = true) :
      Scans o (.line (Go.dropCR o.scanner.data)) { o with
        scanner := o.scanner.advance o.scanner.data.length
        scanned := o.scanned ++ o.scanner.data }
  | finished (hdata : o.scanner.data = []) (herr : o.scanner.err = true) : Scans o .stopped o
  | giveUp (hline : Go.newline ∉ o.scanner.data) (herr : o.scanner.err = false)
      (hlong : o.scanner.data.length = maxScanTokenSize) : Scans o .stopped o
  | ends (s : Go.Scanner maxScanTokenSize) (hline : Go.newline ∉ o.scanner.data)
      (herr : o.scanner.err = false) (hshort : o.scanner.data.length < maxScanTokenSize)
      (hend : o.closed = true ∨ o.exited = true ∧ o.pipe = [])
      (hdata : s.data = o.scanner.data) (hserr : s.err = true) :
      Scans o .more { o with scanner := s }
  | blocks (hline : Go.newline ∉ o.scanner.data) (hshort : o.scanner.data.length < maxScanTokenSize)
      (hpipe : o.pipe = []) (hexited : o.exited = false) : Scans o .more o
  | read (s : Go.Scanner maxScanTokenSize) (k : ℕ) (hline : Go.newline ∉ o.scanner.data)
      (herr : o.scanner.err = false) (hshort : o.scanner.data.length < maxScanTokenSize)
      (hclosed : o.closed = false) (hpipe : o.pipe ≠ []) (hk : 0 < k)
      (hdata : s.data = o.scanner.data ++ o.pipe.take k) (hgoes : s.err = false) :
      Scans o .more { o with scanner := s, pipe := o.pipe.drop k }

theorem scan_scans (o : Stdout) (n : ℕ) : Scans o (o.scan n).1 (o.scan n).2 := by
  have hspec := Go.scanLines_spec o.scanner.data o.scanner.err
  unfold scan
  generalize Go.scanLines o.scanner.data o.scanner.err = split at hspec
  cases hspec with
  | line line rest hline hdata =>
    have htake : o.scanner.data.take (line.length + 1) = line ++ [Go.newline] := by
      rw [hdata, List.append_cons]
      exact List.take_left' (by simp)
    simp only [htake]
    exact .line line rest hline hdata
  | last hline hne heof =>
    simp only [List.take_length]
    exact .last hline hne heof
  | more hline hmore =>
    simp only
    split
    · rename_i herr
      exact .finished (hmore herr) herr
    · rename_i herr
      replace herr : o.scanner.err = false := by simpa using herr
      cases hroom : o.scanner.makeRoom with
      | none => exact .giveUp hline herr (o.scanner.makeRoom_eq_none_iff.mp hroom)
      | some s =>
        obtain ⟨hdata, hserr, hpos⟩ := Go.Scanner.makeRoom_spec hroom
        have hshort : o.scanner.data.length < maxScanTokenSize := by
          have hne : o.scanner.data.length ≠ maxScanTokenSize := fun h => by
            rw [o.scanner.makeRoom_eq_none_iff.mpr h] at hroom
            cases hroom
          have hle := o.scanner.length_le
          omega
        simp only
        split
        · rename_i hclosed
          exact .ends s.fail hline herr hshort (.inl hclosed) hdata rfl
        · rename_i hopen
          split
          · rename_i hpipe
            split
            · rename_i hexited
              exact .ends s.fail hline herr hshort (.inr ⟨hexited, hpipe⟩) hdata rfl
            · rename_i hexited
              exact .blocks hline hshort hpipe (by simpa using hexited)
          · rename_i hpipe
            refine .read (s.fill o.pipe n) (s.count n) hline herr hshort (by simpa using hopen)
              hpipe ?_ ?_ ?_
            · unfold Go.Scanner.count
              omega
            · rw [Go.Scanner.fill_data, hdata]
            · rw [Go.Scanner.fill_err, hserr, herr]

/-- Every byte written stands in one place. -/
structure Consistent (o : Stdout) : Prop where
  written : o.written = o.scanned ++ (o.scanner.data ++ (o.pipe ++ o.lost))
  closed : o.closed = true → o.exited = true ∧ o.pipe = []
  lost : o.closed = false → o.lost = []
  /-- The reader has come to the end of the stream, or to its closing. -/
  err : o.scanner.err = true → o.exited = true ∧ o.pipe = [] ∧
    o.scanner.data.length < maxScanTokenSize
  ended : Go.Ended o.scanned ∨ o.scanner.err = true ∧ o.scanner.data = []
  short : ∀ line ∈ Go.lines o.scanned, tooLong line = false

theorem Consistent.init : Consistent {} where
  written := rfl
  closed h := by cases h
  lost _ := rfl
  err h := by cases h
  ended := .inl .nil
  short line h := by cases h

theorem Consistent.write {o : Stdout} (h : o.Consistent) (capacity : ℕ) (bs : List UInt8) :
    (o.write capacity bs).Consistent := by
  unfold Stdout.write
  split
  · exact h
  · rename_i hroom
    have hexited : o.exited = false := by
      by_contra hexited
      exact hroom (.inl (by simpa using hexited))
    have hopen : o.closed = false := by
      by_contra hclosed
      simp [(h.closed (by simpa using hclosed)).1] at hexited
    refine ⟨?_, ?_, h.lost, ?_, h.ended, h.short⟩
    · show o.written ++ bs = o.scanned ++ (o.scanner.data ++ (o.pipe ++ bs ++ o.lost))
      rw [h.written, h.lost hopen]
      simp
    · intro hclosed
      simp [hopen] at hclosed
    · intro herr
      simp [(h.err herr).1] at hexited

theorem Consistent.exit {o : Stdout} (h : o.Consistent) : o.exit.Consistent :=
  ⟨h.written, fun hclosed => ⟨rfl, (h.closed hclosed).2⟩, h.lost,
    fun herr => ⟨rfl, (h.err herr).2⟩, h.ended, h.short⟩

theorem Consistent.wait {o : Stdout} (h : o.Consistent) : o.wait.Consistent := by
  unfold Stdout.wait
  split
  · rename_i hwait
    refine ⟨?_, fun _ => ⟨hwait.1, rfl⟩, fun hclosed => (by cases hclosed), ?_, h.ended, h.short⟩
    · rw [h.written, h.lost hwait.2]
      simp
    · intro herr
      exact ⟨hwait.1, rfl, (h.err herr).2.2⟩
  · exact h

/-- Only the last line is handed out without its newline, and then there is no more. -/
theorem Consistent.scanned_ended {o : Stdout} (h : o.Consistent)
    (hmore : o.scanner.err = false ∨ o.scanner.data ≠ []) : Go.Ended o.scanned := by
  rcases h.ended with hended | ⟨herr, hempty⟩
  · exact hended
  · simp [herr, hempty] at hmore

/-- A line the scanner hands out, as it was written. -/
theorem Scans.handed_out {o o' : Stdout} {text : Line} (h : o.Consistent)
    (hscan : Scans o (.line text) o') :
    ∃ line, text = Go.dropCR line ∧ tooLong line = false ∧
      Go.lines o'.scanned = Go.lines o.scanned ++ [line] ∧
      ∃ line' ∈ Go.lines o.written, line <+: line' := by
  cases hscan with
  | line line rest hline hdata =>
    have hended := h.scanned_ended (.inr (by simp [hdata]))
    have hlength := o.scanner.length_le
    refine ⟨line, rfl, ?_, hended.lines_append hline, line, ?_, List.prefix_rfl⟩
    · rw [hdata, List.length_append, List.length_cons] at hlength
      simp only [tooLong, decide_eq_false_iff_not]
      omega
    · rw [h.written, hended, hdata, List.append_assoc, List.cons_append, Go.lines_line hline]
      simp
  | last hline hne herr =>
    have hended := h.scanned_ended (.inr hne)
    have hlength := (h.err herr).2.2
    refine ⟨o.scanner.data, rfl, ?_, ?_, ?_⟩
    · simp only [tooLong, decide_eq_false_iff_not]
      omega
    · show Go.lines (o.scanned ++ o.scanner.data) = _
      rw [hended, Go.lines_last hline hne]
    · obtain ⟨line', hmem, hpre⟩ := Go.exists_mem_lines hline hne (o.pipe ++ o.lost)
      refine ⟨line', ?_, hpre⟩
      rw [h.written, hended]
      exact List.mem_append_right _ hmem

theorem Consistent.scans {o o' : Stdout} {result : Scan} (h : o.Consistent)
    (hscan : Scans o result o') : o'.Consistent := by
  have hshort : ∀ text, result = .line text →
      ∀ line ∈ Go.lines o'.scanned, tooLong line = false := by
    rintro text rfl line hline
    obtain ⟨last, -, hlast, hlines, -⟩ := hscan.handed_out h
    rw [hlines, List.mem_append, List.mem_singleton] at hline
    rcases hline with hold | rfl
    · exact h.short line hold
    · exact hlast
  cases hscan with
  | line line rest hline hdata =>
    have hdrop : o.scanner.data.drop (line.length + 1) = rest := by
      rw [hdata, List.append_cons]
      exact List.drop_left' (by simp)
    refine ⟨?_, h.closed, h.lost, ?_, ?_, hshort _ rfl⟩
    · rw [h.written, Go.Scanner.advance_data, hdrop, hdata]
      simp
    · intro herr
      obtain ⟨hexited, hpipe, hlength⟩ := h.err herr
      refine ⟨hexited, hpipe, ?_⟩
      rw [Go.Scanner.advance_data, List.length_drop]
      omega
    · exact .inl ((h.scanned_ended (.inr (by simp [hdata]))).append hline)
  | last hline hne herr =>
    refine ⟨?_, h.closed, h.lost, ?_, .inr ⟨herr, by simp⟩, hshort _ rfl⟩
    · rw [h.written, Go.Scanner.advance_data]
      simp
    · intro _
      obtain ⟨hexited, hpipe, hlength⟩ := h.err herr
      refine ⟨hexited, hpipe, ?_⟩
      rw [Go.Scanner.advance_data, List.length_drop]
      omega
  | finished hdata herr => exact h
  | giveUp hline herr hlong => exact h
  | ends s hline herr hlength hend hdata hserr =>
    have hexited : o.exited = true ∧ o.pipe = [] := hend.elim h.closed id
    refine ⟨?_, h.closed, h.lost, fun _ => ⟨hexited.1, hexited.2, ?_⟩, ?_, h.short⟩
    · rw [h.written, hdata]
    · rw [hdata]
      exact hlength
    · exact .inl (h.scanned_ended (.inl herr))
  | blocks hline hlength hpipe hexited => exact h
  | read s k hline herr hlength hclosed hpipe hk hdata hgoes =>
    refine ⟨?_, ?_, h.lost, ?_, ?_, h.short⟩
    · rw [h.written, hdata]
      simp only [List.append_assoc]
      rw [← List.append_assoc (o.pipe.take k), List.take_append_drop]
    · intro hc
      simp [hclosed] at hc
    · intro hserr
      simp [hgoes] at hserr
    · exact .inl (h.scanned_ended (.inl herr))

theorem Consistent.scan {o : Stdout} (h : o.Consistent) (n : ℕ) : (o.scan n).2.Consistent :=
  h.scans (scan_scans o n)

/-- The scanner gives up where a line that was written does not fit into its buffer. -/
theorem Consistent.exists_tooLong {o : Stdout} (h : o.Consistent)
    (hline : Go.newline ∉ o.scanner.data) (herr : o.scanner.err = false)
    (hlong : o.scanner.data.length = maxScanTokenSize) :
    ∃ line ∈ Go.lines o.written, tooLong line = true := by
  have hne : o.scanner.data ≠ [] := by
    intro hempty
    rw [hempty] at hlong
    cases hlong
  obtain ⟨line, hmem, hpre⟩ := Go.exists_mem_lines hline hne (o.pipe ++ o.lost)
  refine ⟨line, ?_, ?_⟩
  · rw [h.written, h.scanned_ended (.inl herr)]
    exact List.mem_append_right _ hmem
  · have hlength := hpre.length_le
    simp only [tooLong, decide_eq_true_eq]
    omega

end Stdout

/-- The line ends in a colon and not in a carriage return. -/
theorem isReadiness_dropCR (line : Line) : isReadiness (Go.dropCR line) = isReadiness line :=
  Go.isPrefixOf_dropCR (by decide) line

/-- A line that continues a readiness line is one. -/
theorem isReadiness_of_isPrefix {line line' : Line} (h : line <+: line')
    (hline : isReadiness line = true) : isReadiness line' = true :=
  List.isPrefixOf_iff_prefix.mpr ((List.isPrefixOf_iff_prefix.mp hline).trans h)

end Pforward
