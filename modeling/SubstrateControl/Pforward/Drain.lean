import SubstrateControl.Pforward.Stdout

/-!
# The stdout is drained

The goroutine of `runOnce` (`internal/pforward/pforward.go`), which is to keep reading the child's
stdout so that the child never blocks on a full pipe.

* `Drain` — the goroutine's loop over the child's stdout; `step`.
* `Drain.Drains` — whatever its reads return, the goroutine leaves the loop at the end of the
  stream only, with everything handed out; it empties the pipe by itself; and each readiness line it
  comes to marks the attempt ready.
* `Drain.Keeps` — no line written is too long for the scanner, and no output was in the pipe when
  its read end was closed; `drains_iff_keeps`.
* `stdout_drained_iff` — the stdout is drained all along a run exactly when the child writes no line
  that is too long and `cmd.Wait` closes an empty pipe.
-/

set_option autoImplicit false

namespace Pforward

open Kit

structure Drain where
  stdout : Stdout := {}
  /-- The goroutine is in its loop. -/
  scanning : Bool := true
  /-- `attemptReady` is closed. -/
  attemptReady : Bool := false
  deriving DecidableEq, Repr

inductive DrainEvent where
  | write (bs : List UInt8)
  | exit
  | wait
  | scan (n : ℕ)
  deriving DecidableEq, Repr

namespace Drain

/-- The goroutine takes a step of `scanner.Scan()`, and handles the line it returns. -/
def scan (d : Drain) (n : ℕ) : Drain :=
  if d.scanning then
    match d.stdout.scan n with
    | (.line text, o) => { d with stdout := o, attemptReady := d.attemptReady || isReadiness text }
    | (.more, o) => { d with stdout := o }
    | (.stopped, o) => { d with stdout := o, scanning := false }
  else d

def step (capacity : ℕ) (d : Drain) : DrainEvent → Drain
  | .write bs => { d with stdout := d.stdout.write capacity bs }
  | .exit => { d with stdout := d.stdout.exit }
  | .wait => { d with stdout := d.stdout.wait }
  | .scan n => d.scan n

/-- Steps of the goroutine alone. -/
def after (d : Drain) (ns : List ℕ) : Drain := Machine.run scan d ns

/-- The goroutine has nothing to read and no line to hand out. -/
def Idle (d : Drain) : Prop := d.stdout.pipe = [] ∧ Go.newline ∉ d.stdout.scanner.data

/-- How many steps the goroutine may need to be idle. -/
def rank (d : Drain) : ℕ := 2 * d.stdout.pipe.length + d.stdout.scanner.data.length

/-- The goroutine drains the pipe, whatever its reads return. -/
structure Drains (d : Drain) : Prop where
  atEnd : ∀ ns, (d.after ns).scanning = false →
    (d.after ns).stdout.exited = true ∧ (d.after ns).stdout.scanned = (d.after ns).stdout.written
  empties : ∀ ns, d.rank < ns.length → (d.after ns).Idle
  marks : ∀ ns, ∀ line ∈ Go.lines (d.after ns).stdout.scanned, isReadiness line = true →
    (d.after ns).attemptReady = true

/-- Every line that was written fits into the scanner's buffer, and nothing was lost. -/
def Keeps (d : Drain) : Prop :=
  (∀ line ∈ Go.lines d.stdout.written, tooLong line = false) ∧ d.stdout.lost = []

/-- `cmd.Wait` does not close a pipe that holds output. -/
def ClosesEmpty (d : Drain) : DrainEvent → Prop
  | .wait => d.stdout.exited = true → d.stdout.closed = false → d.stdout.pipe = []
  | _ => True

/-- What holds in every state. -/
structure Consistent (d : Drain) : Prop where
  stdout : d.stdout.Consistent
  ready : d.attemptReady = (Go.lines d.stdout.scanned).any isReadiness
  stopped : d.scanning = false → Go.newline ∉ d.stdout.scanner.data ∧
    (d.stdout.scanner.err = true ∧ d.stdout.scanner.data = [] ∨
      d.stdout.scanner.err = false ∧ d.stdout.scanner.data.length = maxScanTokenSize)

/-! ## One step -/

/-- What a step of the goroutine does. -/
inductive Goes (d : Drain) : Drain → Prop where
  | line (text : Line) (o : Stdout) (hon : d.scanning = true)
      (hscan : d.stdout.Scans (.line text) o) :
      Goes d { d with stdout := o, attemptReady := d.attemptReady || isReadiness text }
  | more (o : Stdout) (hon : d.scanning = true) (hscan : d.stdout.Scans .more o) :
      Goes d { d with stdout := o }
  | stopped (o : Stdout) (hon : d.scanning = true) (hscan : d.stdout.Scans .stopped o) :
      Goes d { d with stdout := o, scanning := false }
  | left (hover : d.scanning = false) : Goes d d

theorem scan_goes (d : Drain) (n : ℕ) : Goes d (d.scan n) := by
  have hscan := d.stdout.scan_scans n
  unfold scan
  split
  · rename_i hon
    generalize d.stdout.scan n = result at hscan
    obtain ⟨result, o⟩ := result
    cases result with
    | line text => exact .line text o hon hscan
    | more => exact .more o hon hscan
    | stopped => exact .stopped o hon hscan
  · rename_i hover
    exact .left (by simpa using hover)

/-- The goroutine leaves the child's side as it is. -/
theorem scan_child (d : Drain) (n : ℕ) : (d.scan n).stdout.written = d.stdout.written ∧
    (d.scan n).stdout.exited = d.stdout.exited ∧ (d.scan n).stdout.closed = d.stdout.closed ∧
    (d.scan n).stdout.lost = d.stdout.lost := by
  have hgoes := d.scan_goes n
  generalize d.scan n = d' at hgoes
  cases hgoes with
  | line text o hon hscan => cases hscan <;> exact ⟨rfl, rfl, rfl, rfl⟩
  | more o hon hscan => cases hscan <;> exact ⟨rfl, rfl, rfl, rfl⟩
  | stopped o hon hscan => cases hscan <;> exact ⟨rfl, rfl, rfl, rfl⟩
  | left hover => exact ⟨rfl, rfl, rfl, rfl⟩

theorem Consistent.init : Consistent {} where
  stdout := .init
  ready := rfl
  stopped h := by cases h

theorem Consistent.scan {d : Drain} (h : d.Consistent) (n : ℕ) : (d.scan n).Consistent := by
  have hgoes := d.scan_goes n
  generalize d.scan n = d' at hgoes
  cases hgoes with
  | line text o hon hscan =>
    obtain ⟨line, rfl, -, hlines, -⟩ := hscan.handed_out h.stdout
    refine ⟨h.stdout.scans hscan, ?_, fun hover => by simp [hon] at hover⟩
    show (d.attemptReady || isReadiness (Go.dropCR line)) = (Go.lines o.scanned).any isReadiness
    rw [hlines, List.any_append, h.ready, isReadiness_dropCR]
    simp
  | more o hon hscan =>
    refine ⟨h.stdout.scans hscan, ?_, fun hover => by simp [hon] at hover⟩
    show d.attemptReady = (Go.lines o.scanned).any isReadiness
    rw [h.ready]
    cases hscan <;> rfl
  | stopped o hon hscan =>
    refine ⟨h.stdout.scans hscan, ?_, ?_⟩
    · show d.attemptReady = (Go.lines o.scanned).any isReadiness
      rw [h.ready]
      cases hscan <;> rfl
    · intro _
      cases hscan with
      | finished hdata herr => exact ⟨by simp [hdata], .inl ⟨herr, hdata⟩⟩
      | giveUp hline herr hlong => exact ⟨hline, .inr ⟨herr, hlong⟩⟩
  | left hover => exact h

theorem Consistent.step {d : Drain} (h : d.Consistent) (capacity : ℕ) (e : DrainEvent) :
    (d.step capacity e).Consistent := by
  cases e with
  | write bs =>
    refine ⟨h.stdout.write capacity bs, ?_, ?_⟩
    · simpa [Drain.step] using h.ready
    · simpa [Drain.step] using h.stopped
  | exit => exact ⟨h.stdout.exit, h.ready, h.stopped⟩
  | wait =>
    refine ⟨h.stdout.wait, ?_, ?_⟩
    · simpa [Drain.step] using h.ready
    · simpa [Drain.step] using h.stopped
  | scan n => exact h.scan n

/-! ## The goroutine alone -/

theorem after_consistent {d : Drain} (h : d.Consistent) (ns : List ℕ) :
    (d.after ns).Consistent := by
  have hstep : ∀ (d : Drain) (n : ℕ), d.Consistent → (d.scan n).Consistent := fun _ n h => h.scan n
  have hrun := Machine.run_invariant hstep ns d h
  exact hrun

theorem after_append (d : Drain) (ns ms : List ℕ) : d.after (ns ++ ms) = (d.after ns).after ms :=
  Machine.run_append d ns ms

theorem after_child (d : Drain) (ns : List ℕ) : (d.after ns).stdout.written = d.stdout.written ∧
    (d.after ns).stdout.exited = d.stdout.exited ∧ (d.after ns).stdout.lost = d.stdout.lost := by
  have hstep : ∀ (d' : Drain) (n : ℕ),
      d'.stdout.written = d.stdout.written ∧ d'.stdout.exited = d.stdout.exited ∧
        d'.stdout.lost = d.stdout.lost →
      (d'.scan n).stdout.written = d.stdout.written ∧ (d'.scan n).stdout.exited = d.stdout.exited ∧
        (d'.scan n).stdout.lost = d.stdout.lost := by
    intro d' n h
    obtain ⟨hwritten, hexited, -, hlost⟩ := d'.scan_child n
    rw [hwritten, hexited, hlost]
    exact h
  have hrun := Machine.run_invariant hstep ns d ⟨rfl, rfl, rfl⟩
  exact hrun

theorem after_keeps (d : Drain) (ns : List ℕ) : (d.after ns).Keeps ↔ d.Keeps := by
  obtain ⟨hwritten, -, hlost⟩ := d.after_child ns
  unfold Keeps
  rw [hwritten, hlost]

/-- A goroutine that has left its loop has come to the end of the stream. -/
theorem Consistent.atEnd {d : Drain} (h : d.Consistent) (hkeeps : d.Keeps)
    (hover : d.scanning = false) :
    d.stdout.exited = true ∧ d.stdout.scanned = d.stdout.written ∧ d.Idle := by
  obtain ⟨hline, ⟨herr, hempty⟩ | ⟨herr, hlong⟩⟩ := h.stopped hover
  · obtain ⟨hexited, hpipe, -⟩ := h.stdout.err herr
    refine ⟨hexited, ?_, hpipe, hline⟩
    rw [h.stdout.written, hempty, hpipe, hkeeps.2]
    simp
  · obtain ⟨line, hmem, hlong⟩ := h.stdout.exists_tooLong hline herr hlong
    rw [hkeeps.1 line hmem] at hlong
    cases hlong

theorem idle_scan {d : Drain} (h : d.Idle) (n : ℕ) : (d.scan n).Idle := by
  have hgoes := d.scan_goes n
  generalize d.scan n = d' at hgoes
  obtain ⟨hpipe, hline⟩ := h
  cases hgoes with
  | line text o hon hscan =>
    cases hscan with
    | line line rest hno hdata => simp [hdata] at hline
    | last hno hne herr => exact ⟨hpipe, by simp⟩
  | more o hon hscan =>
    cases hscan with
    | ends s hno herr hshort hend hdata hserr => exact ⟨hpipe, by rw [hdata]; exact hno⟩
    | blocks hno hshort hempty hexited => exact ⟨hpipe, hline⟩
    | read s k hno herr hshort hclosed hne hk hdata hgoes => exact absurd hpipe hne
  | stopped o hon hscan => cases hscan <;> exact ⟨hpipe, hline⟩
  | left hover => exact ⟨hpipe, hline⟩

theorem rank_scan {d : Drain} (h : d.Consistent) (hkeeps : d.Keeps) (hidle : ¬ d.Idle) (n : ℕ) :
    (d.scan n).rank < d.rank := by
  have hgoes := d.scan_goes n
  generalize d.scan n = d' at hgoes
  unfold rank
  cases hgoes with
  | line text o hon hscan =>
    cases hscan with
    | line line rest hno hdata =>
      show 2 * d.stdout.pipe.length + (d.stdout.scanner.data.drop (line.length + 1)).length < _
      rw [List.length_drop, hdata, List.length_append, List.length_cons]
      omega
    | last hno hne herr => exact absurd ⟨(h.stdout.err herr).2.1, hno⟩ hidle
  | more o hon hscan =>
    cases hscan with
    | ends s hno herr hshort hend hdata hserr =>
      have hpipe := hend.elim (fun hclosed => (h.stdout.closed hclosed).2) And.right
      exact absurd ⟨hpipe, hno⟩ hidle
    | blocks hno hshort hempty hexited => exact absurd ⟨hempty, hno⟩ hidle
    | read s k hno herr hshort hclosed hne hk hdata hgoes =>
      have hpos : 0 < d.stdout.pipe.length := List.length_pos_iff.mpr hne
      rw [hdata, List.length_append, List.length_take, List.length_drop]
      omega
  | stopped o hon hscan =>
    cases hscan with
    | finished hdata herr => exact absurd ⟨(h.stdout.err herr).2.1, by simp [hdata]⟩ hidle
    | giveUp hno herr hlong =>
      obtain ⟨line, hmem, hlong⟩ := h.stdout.exists_tooLong hno herr hlong
      rw [hkeeps.1 line hmem] at hlong
      cases hlong
  | left hover => exact absurd (h.atEnd hkeeps hover).2.2 hidle

theorem drains_of_keeps {d : Drain} (h : d.Consistent) (hkeeps : d.Keeps) : d.Drains where
  atEnd ns hover := by
    obtain ⟨hexited, hscanned, -⟩ :=
      (after_consistent h ns).atEnd ((d.after_keeps ns).mpr hkeeps) hover
    exact ⟨hexited, hscanned⟩
  empties ns hlong := by
    have hkeep : ∀ (d : Drain) (n : ℕ), d.Consistent ∧ d.Keeps →
        (d.scan n).Consistent ∧ (d.scan n).Keeps :=
      fun d n h => ⟨h.1.scan n, (d.after_keeps [n]).mpr h.2⟩
    exact Machine.run_settles hkeep (fun _ n _ hidle => idle_scan hidle n)
      (fun _ n h hidle => rank_scan h.1 h.2 hidle n) ns d ⟨h, hkeeps⟩ hlong
  marks ns line hmem hline := by
    rw [(after_consistent h ns).ready]
    exact List.any_eq_true.mpr ⟨line, hmem, hline⟩

/-- How many steps an idle goroutine may need to leave its loop once the child has exited. -/
def restRank (d : Drain) : ℕ :=
  d.scanning.toNat + (!d.stdout.scanner.err).toNat + d.stdout.scanner.data.length

theorem restRank_scan {d : Drain} (hidle : d.Idle) (hexited : d.stdout.exited = true)
    (hon : d.scanning ≠ false) (n : ℕ) : (d.scan n).restRank < d.restRank := by
  have hgoes := d.scan_goes n
  generalize d.scan n = d' at hgoes
  obtain ⟨hpipe, hline⟩ := hidle
  unfold restRank
  cases hgoes with
  | line text o hscanning hscan =>
    cases hscan with
    | line line rest hno hdata => simp [hdata] at hline
    | last hno hne herr =>
      have hpos : 0 < d.stdout.scanner.data.length := List.length_pos_iff.mpr hne
      simp only [Go.Scanner.advance_err, Go.Scanner.advance_data, List.length_drop]
      omega
  | more o hscanning hscan =>
    cases hscan with
    | ends s hno herr hshort hend hdata hserr =>
      simp only [hdata, hserr, herr, Bool.not_true, Bool.not_false, Bool.toNat_true,
        Bool.toNat_false]
      omega
    | blocks hno hshort hempty hrunning => simp [hexited] at hrunning
    | read s k hno herr hshort hclosed hne hk hdata hgoes => exact absurd hpipe hne
  | stopped o hscanning hscan =>
    have hscanner : o.scanner = d.stdout.scanner := by cases hscan <;> rfl
    rw [hscanner, hscanning]
    simp
  | left hover => exact absurd hover hon

/-- An idle goroutine leaves its loop once the child has exited. -/
theorem over_after {d : Drain} (hidle : d.Idle) (hexited : d.stdout.exited = true) (ns : List ℕ)
    (hlong : d.restRank < ns.length) : (d.after ns).scanning = false := by
  have hkeep : ∀ (d : Drain) (n : ℕ), d.Idle ∧ d.stdout.exited = true →
      (d.scan n).Idle ∧ (d.scan n).stdout.exited = true :=
    fun d n h => ⟨idle_scan h.1 n, by rw [(d.scan_child n).2.1, h.2]⟩
  have hover : ∀ (d : Drain) (n : ℕ), d.Idle ∧ d.stdout.exited = true → d.scanning = false →
      (d.scan n).scanning = false := by
    intro d n _ hover
    unfold scan
    rw [if_neg (by simp [hover])]
    exact hover
  have hrank : ∀ (d : Drain) (n : ℕ), d.Idle ∧ d.stdout.exited = true → ¬ d.scanning = false →
      (d.scan n).restRank < d.restRank := fun d n h hon => restRank_scan h.1 h.2 hon n
  have hrun := Machine.run_settles hkeep hover hrank ns d ⟨hidle, hexited⟩ hlong
  exact hrun

/-- A goroutine whose buffer is full of one line leaves its loop. -/
theorem over_of_full {d : Drain} (hline : Go.newline ∉ d.stdout.scanner.data)
    (herr : d.stdout.scanner.err = false)
    (hfull : d.stdout.scanner.data.length = maxScanTokenSize) :
    (d.after [0]).scanning = false := by
  have hgoes := d.scan_goes 0
  show (d.scan 0).scanning = false
  generalize d.scan 0 = d' at hgoes
  cases hgoes with
  | line text o hon hscan =>
    cases hscan <;> simp_all
  | more o hon hscan => cases hscan <;> omega
  | stopped o hon hscan => rfl
  | left hover => exact hover

/-- Where everything written has been handed out, everything is kept. -/
theorem Consistent.keeps_of_scanned {d : Drain} (h : d.Consistent)
    (hscanned : d.stdout.scanned = d.stdout.written) : d.Keeps := by
  refine ⟨fun line hmem => h.stdout.short line (by rwa [hscanned]), ?_⟩
  have hparts := h.stdout.written
  rw [← hscanned, List.self_eq_append_right] at hparts
  simp only [List.append_eq_nil_iff] at hparts
  exact hparts.2.2

/-- While the child runs, an idle goroutine that stays in its loop has all lines kept: one that does
not fit into the buffer would fill it. -/
theorem Consistent.keeps_of_running {d : Drain} (h : d.Consistent) (hidle : d.Idle)
    (hexited : d.stdout.exited ≠ true) (hon : ∀ ns, (d.after ns).scanning ≠ false) : d.Keeps := by
  have herr : d.stdout.scanner.err = false := by
    rw [← Bool.not_eq_true]
    exact fun herr => hexited (h.stdout.err herr).1
  have hlost : d.stdout.lost = [] := by
    apply h.stdout.lost
    rw [← Bool.not_eq_true]
    exact fun hclosed => hexited (h.stdout.closed hclosed).1
  have hended := h.stdout.scanned_ended (.inl herr)
  refine ⟨fun line hmem => ?_, hlost⟩
  rw [h.stdout.written, hidle.1, hlost, List.append_nil, List.append_nil, hended,
    List.mem_append] at hmem
  rcases hmem with hmem | hmem
  · exact h.stdout.short line hmem
  · have hne : d.stdout.scanner.data ≠ [] := by
      intro hempty
      rw [hempty] at hmem
      cases hmem
    rw [Go.lines_last hidle.2 hne, List.mem_singleton] at hmem
    subst hmem
    rw [← Bool.not_eq_true]
    intro hlong
    have hfull : d.stdout.scanner.data.length = maxScanTokenSize := by
      have hle := d.stdout.scanner.length_le
      simp only [tooLong, decide_eq_true_eq] at hlong
      omega
    exact hon [0] (over_of_full hidle.2 herr hfull)

/-- **The pipe is drained exactly where no output is lost on its way**: no line written is too long
for the scanner, and the pipe was empty when it was closed. -/
theorem drains_iff_keeps {d : Drain} (h : d.Consistent) : d.Drains ↔ d.Keeps := by
  refine ⟨fun hdrains => ?_, drains_of_keeps h⟩
  have hidle : (d.after (List.replicate (d.rank + 1) 0)).Idle := hdrains.empties _ (by simp)
  have hcons := after_consistent h (List.replicate (d.rank + 1) 0)
  have hatEnd := fun ns => hdrains.atEnd (List.replicate (d.rank + 1) 0 ++ ns)
  simp only [after_append] at hatEnd
  rw [← after_keeps d (List.replicate (d.rank + 1) 0)]
  generalize d.after (List.replicate (d.rank + 1) 0) = d' at hidle hcons hatEnd ⊢
  by_cases hexited : d'.stdout.exited = true
  · -- the goroutine comes to the end of the stream, and has everything handed out there
    have hover := over_after hidle hexited (List.replicate (d'.restRank + 1) 0) (by simp)
    rw [← after_keeps d' (List.replicate (d'.restRank + 1) 0)]
    exact (after_consistent hcons _).keeps_of_scanned (hatEnd _ hover).2
  · apply hcons.keeps_of_running hidle hexited
    intro ns hover
    obtain ⟨hend, -⟩ := hatEnd ns hover
    rw [(d'.after_child ns).2.1] at hend
    exact hexited hend

/-! ## Runs -/

/-- What was kept at the end was kept before. -/
theorem keeps_of_step {capacity : ℕ} {d : Drain} (h : d.Consistent) {e : DrainEvent}
    (hkeeps : (d.step capacity e).Keeps) : d.Keeps := by
  cases e with
  | write bs =>
    obtain ⟨hshort, hlost⟩ := hkeeps
    rw [step] at hshort hlost
    refine ⟨fun line hmem => ?_, by simpa using hlost⟩
    obtain ⟨rest, hrest⟩ := d.stdout.write_written capacity bs
    obtain ⟨line', hmem', hpre⟩ := Go.mem_lines_append hmem rest
    have hline' := hshort line' (by rw [hrest]; exact hmem')
    have hle := hpre.length_le
    simp only [tooLong, decide_eq_false_iff_not] at hline' ⊢
    omega
  | exit => exact hkeeps
  | wait =>
    by_cases hwait : d.stdout.exited = true ∧ d.stdout.closed = false
    · rw [step, Stdout.wait, if_pos hwait] at hkeeps
      exact ⟨hkeeps.1, h.stdout.lost hwait.2⟩
    · rw [step, Stdout.wait, if_neg hwait] at hkeeps
      exact hkeeps
  | scan n =>
    obtain ⟨hwritten, -, -, hlost⟩ := d.scan_child n
    rwa [step, Keeps, hwritten, hlost] at hkeeps

/-- Output is lost where the pipe is closed with output in it, and nowhere else. -/
theorem lost_iff (capacity : ℕ) (es : List DrainEvent) :
    (Machine.run (step capacity) {} es).stdout.lost = [] ↔
      Machine.Along ClosesEmpty (step capacity) {} es := by
  have hgood : ∀ (d : Drain) (e : DrainEvent), d.ClosesEmpty e → d.stdout.lost = [] →
      (d.step capacity e).stdout.lost = [] := by
    intro d e hok hlost
    cases e with
    | write bs => simpa [step] using hlost
    | exit => exact hlost
    | wait =>
      by_cases hwait : d.stdout.exited = true ∧ d.stdout.closed = false
      · rw [step, Stdout.wait, if_pos hwait]
        exact hok hwait.1 hwait.2
      · rw [step, Stdout.wait, if_neg hwait]
        exact hlost
    | scan n => rw [step, (d.scan_child n).2.2.2, hlost]
  have hbad : ∀ (d : Drain) (e : DrainEvent), d.stdout.lost = [] → ¬ d.ClosesEmpty e →
      (d.step capacity e).stdout.closed = true ∧ (d.step capacity e).stdout.lost ≠ [] := by
    intro d e _ hno
    cases e with
    | wait =>
      simp only [ClosesEmpty, Classical.not_imp] at hno
      obtain ⟨hexited, hopen, hpipe⟩ := hno
      rw [step, Stdout.wait, if_pos ⟨hexited, hopen⟩]
      exact ⟨rfl, hpipe⟩
    | _ => exact absurd trivial hno
  have hkeep : ∀ (d : Drain) (e : DrainEvent), d.stdout.closed = true ∧ d.stdout.lost ≠ [] →
      (d.step capacity e).stdout.closed = true ∧ (d.step capacity e).stdout.lost ≠ [] := by
    intro d e h
    cases e with
    | write bs => simpa [step] using h
    | exit => exact h
    | wait =>
      rw [step, Stdout.wait, if_neg (by simp [h.1])]
      exact h
    | scan n => rwa [step, (d.scan_child n).2.2.1, (d.scan_child n).2.2.2]
  exact Machine.run_iff_along hgood hbad hkeep (fun _ hlost h => h.2 hlost) es {} rfl

/-- A run drains the pipe all along exactly where everything written is kept. -/
theorem always_drains_iff (capacity : ℕ) (es : List DrainEvent) :
    Machine.Always Drains (step capacity) {} es ↔ (Machine.run (step capacity) {} es).Keeps := by
  have hcons : ∀ (d : Drain) (e : DrainEvent), d.Consistent → (d.step capacity e).Consistent :=
    fun _ e h => h.step capacity e
  have hback : ∀ (d : Drain) (e : DrainEvent), d.Consistent → (d.step capacity e).Drains →
      d.Drains := fun d e h hdrains =>
    (drains_iff_keeps h).mpr (keeps_of_step h ((drains_iff_keeps (h.step capacity e)).mp hdrains))
  rw [Machine.always_iff_run hcons hback es {} .init]
  exact drains_iff_keeps (Machine.run_invariant hcons es {} .init)

theorem not_drains_of_long {line : Line} (hline : Go.newline ∉ line) (hlong : tooLong line = true) :
    ¬ Machine.Always Drains (step line.length) {} [.write line] := by
  intro hdrains
  obtain ⟨hshort, -⟩ := (always_drains_iff _ _).mp hdrains
  have hne : line ≠ [] := by
    rintro rfl
    cases hlong
  have hwritten : (Machine.run (step line.length) {} [.write line]).stdout.written = line := by
    show (Stdout.write line.length {} line).written = line
    rw [Stdout.write, if_neg (by simp)]
    rfl
  have hfits := hshort line (by
    rw [hwritten, Go.lines_last hline hne]
    exact List.mem_cons_self)
  rw [hlong] at hfits
  cases hfits

end Drain

/-- **The child's stdout is drained all along a run** exactly when the child writes no line that
does not fit into the scanner's buffer and `cmd.Wait` closes an empty pipe. -/
theorem stdout_drained_iff (capacity : ℕ) (es : List DrainEvent) :
    Machine.Always Drain.Drains (Drain.step capacity) {} es ↔
      (∀ line ∈ Go.lines (Machine.run (Drain.step capacity) {} es).stdout.written,
        tooLong line = false) ∧
      Machine.Along Drain.ClosesEmpty (Drain.step capacity) {} es := by
  rw [Drain.always_drains_iff, Drain.Keeps, Drain.lost_iff]

/-- kubectl prints one line of 65536 bytes. -/
theorem stdout_drained_counterexample :
    ¬ ∀ (capacity : ℕ) (es : List DrainEvent),
      Machine.Always Drain.Drains (Drain.step capacity) {} es := by
  intro h
  have hline : Go.newline ∉ List.replicate maxScanTokenSize (120 : UInt8) := by
    intro hmem
    have hbyte := List.eq_of_mem_replicate hmem
    revert hbyte
    decide
  apply Drain.not_drains_of_long hline _ (h _ _)
  rw [tooLong, List.length_replicate]
  decide

end Pforward
