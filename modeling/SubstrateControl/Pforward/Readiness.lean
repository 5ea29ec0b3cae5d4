import SubstrateControl.Go.Utf8
import SubstrateControl.Pforward.Supervisor

/-!
# The readiness of an attempt

Model of one call of `runOnce` (`internal/pforward/pforward.go`): kubectl writes lines to a pipe, a
goroutine scans them for the readiness line, and `cmd.Wait` closes the read end of the pipe once
the process has exited, after which `attemptReady` is polled.

* `Attempt` — the pipe, the scanner's buffer and what the three parties have got to; `step`.
* `found` — the scanner comes to a readiness line in the lines it still has to handle.
* `Attempt.Timely` — the scanner keeps up: the readiness line is out of the pipe when it is closed,
  and handled when `attemptReady` is polled.
* `readiness_reported_iff` — `runOnce` reports every readiness line that was written in exactly the
  runs whose steps are timely.
-/

set_option autoImplicit false

namespace Pforward

open Kit

/-- A line of the process's output, in bytes and without its end. -/
abbrev Line := List UInt8

def readinessPrefix : Line := Go.utf8 "Forwarding from 127.0.0.1:".toList

/-- The test for the readiness line. -/
def isReadiness (line : Line) : Bool := readinessPrefix.isPrefixOf line

/-- `bufio.MaxScanTokenSize`. -/
def maxScanTokenSize : ℕ := 64 * 1024

/-- The scanner gives up at a line that does not fit into its buffer. -/
def tooLong (line : Line) : Bool := maxScanTokenSize ≤ line.length

structure Attempt where
  /-- Lines written and not yet read. -/
  pipe : List Line := []
  /-- Lines the scanner has read and the loop has not handled. -/
  buffer : List Line := []
  /-- The goroutine is in its loop. -/
  scanning : Bool := true
  /-- `attemptReady` is closed. -/
  attemptReady : Bool := false
  /-- `m.ready` is closed. -/
  ready : Bool := false
  exited : Bool := false
  /-- `cmd.Wait` has returned. -/
  waited : Bool := false
  /-- What `runOnce` reports. -/
  returned : Option Bool := none
  /-- The process has written a readiness line. -/
  wrote : Bool := false
  deriving DecidableEq, Repr

inductive AttemptEvent where
  | write (line : Line)
  | exit
  /-- The scanner reads `n` lines. -/
  | read (n : ℕ)
  /-- `scanner.Scan()` returns a line, and the body of the loop runs. -/
  | handle
  /-- `scanner.Scan()` finds that there is no more to read. -/
  | finish
  | wait
  | poll
  deriving DecidableEq, Repr

namespace Attempt

def step (a : Attempt) : AttemptEvent → Attempt
  | .write line =>
    if a.exited then a
    else { a with pipe := a.pipe ++ [line], wrote := a.wrote || isReadiness line }
  | .exit => { a with exited := true }
  | .read n =>
    if a.scanning ∧ a.buffer = [] ∧ a.waited = false then
      { a with buffer := a.pipe.take n, pipe := a.pipe.drop n }
    else a
  | .handle =>
    match a.scanning, a.buffer with
    | true, line :: rest =>
      if tooLong line then { a with scanning := false }
      else
        { a with
          buffer := rest
          attemptReady := a.attemptReady || isReadiness line
          ready := a.ready || isReadiness line }
    | _, _ => a
  | .finish =>
    if a.buffer = [] ∧ (a.waited = true ∨ a.exited = true ∧ a.pipe = []) then
      { a with scanning := false }
    else a
  | .wait =>
    if a.exited = true ∧ a.waited = false then { a with waited := true, pipe := [] } else a
  | .poll =>
    if a.waited = true ∧ a.returned = none then { a with returned := some a.attemptReady } else a

end Attempt

/-- The scanner comes to a readiness line in `lines`: one stands there, with no line before it that
the scanner gives up at. -/
def found : List Line → Bool
  | [] => false
  | line :: rest => !tooLong line && (isReadiness line || found rest)

theorem found_append (ls ls' : List Line) :
    found (ls ++ ls') = (found ls || (!ls.any tooLong && found ls')) := by
  induction ls with
  | nil => simp [found]
  | cons line rest ih =>
    rw [List.cons_append, found, found, List.any_cons, ih]
    cases tooLong line <;> cases isReadiness line <;> simp

theorem found_append_left {ls : List Line} (h : found ls = true) (ls' : List Line) :
    found (ls ++ ls') = true := by
  rw [found_append, h, Bool.true_or]

/-- The scanner comes to nothing that is written behind a line it gives up at. -/
theorem found_append_long {ls : List Line} (hlong : ls.any tooLong = true)
    (hfound : found ls = false) (ls' : List Line) : found (ls ++ ls') = false := by
  rw [found_append, hfound, hlong]
  rfl

/-- A readiness line the scanner does not come to has a line before it that it gives up at, or is
such a line. -/
theorem any_tooLong_of_not_found {ls : List Line} {line : Line} (hline : isReadiness line = true)
    (h : found (ls ++ [line]) = false) : (ls ++ [line]).any tooLong = true := by
  rw [found_append, Bool.or_eq_false_iff] at h
  rw [List.any_append, Bool.or_eq_true]
  cases hlong : ls.any tooLong with
  | true => exact .inl rfl
  | false =>
    right
    simpa [hlong, found, hline] using h.2

namespace Attempt

/-- The lines the scanner still has before it. -/
def unhandled (a : Attempt) : List Line := a.buffer ++ a.pipe

/-- A step at which the readiness line is not left behind: it is written where the scanner can get
to it, it is out of the pipe when the pipe is closed, and out of the buffer at the poll. -/
def Timely (a : Attempt) : AttemptEvent → Prop
  | .write line => a.exited = false → isReadiness line = true → a.wrote = false →
      a.scanning = true ∧ found (a.unhandled ++ [line]) = true
  | .wait => a.exited = true → a.waited = false → a.wrote = true → a.attemptReady = false →
      a.scanning = true ∧ found a.buffer = true
  | .poll => a.waited = true → a.returned = none → a.attemptReady = false →
      (a.scanning && found a.buffer) = false
  | _ => True

/-- What holds in every state of an attempt. -/
structure Consistent (a : Attempt) : Prop where
  waited : a.waited = true → a.exited = true ∧ a.pipe = []
  returned : a.returned ≠ none → a.waited = true
  reported : a.returned = some true → a.attemptReady = true
  closed : a.attemptReady = true → a.wrote = true ∧ a.ready = true
  found : found a.unhandled = true → a.wrote = true

/-- The readiness line is not lost: it has been handled, or the scanner is coming to it. -/
def Kept (a : Attempt) : Prop :=
  a.wrote = true → a.returned ≠ some false ∧
    (a.attemptReady = true ∨ a.scanning = true ∧ Pforward.found a.unhandled = true)

/-- The scanner does not come to any line that is still to be written. -/
def Barred (a : Attempt) : Prop :=
  a.scanning = false ∨ a.waited = true ∨ a.unhandled.any tooLong = true

/-- A readiness line was written and is not reported. -/
def Lost (a : Attempt) : Prop :=
  a.wrote = true ∧ (a.returned = some false ∨
    a.attemptReady = false ∧ (a.scanning && Pforward.found a.unhandled) = false ∧ a.Barred)

end Attempt

/-! ## One step -/

namespace Attempt

/-- What a step does, by the party that takes it. -/
inductive Does (a : Attempt) : AttemptEvent → Attempt → Prop where
  | write (line : Line) (hexited : a.exited = false) : Does a (.write line)
      { a with pipe := a.pipe ++ [line], wrote := a.wrote || isReadiness line }
  | exit : Does a .exit { a with exited := true }
  | read (n : ℕ) (hbuffer : a.buffer = []) :
      Does a (.read n) { a with buffer := a.pipe.take n, pipe := a.pipe.drop n }
  | giveUp (line : Line) (rest : List Line) (hbuffer : a.buffer = line :: rest)
      (hlong : tooLong line = true) : Does a .handle { a with scanning := false }
  | handle (line : Line) (rest : List Line) (hscanning : a.scanning = true)
      (hbuffer : a.buffer = line :: rest) (hlong : tooLong line = false) :
      Does a .handle { a with
        buffer := rest
        attemptReady := a.attemptReady || isReadiness line
        ready := a.ready || isReadiness line }
  | finish (hbuffer : a.buffer = []) (hend : a.waited = true ∨ a.exited = true ∧ a.pipe = []) :
      Does a .finish { a with scanning := false }
  | wait (hexited : a.exited = true) (hwaited : a.waited = false) :
      Does a .wait { a with waited := true, pipe := [] }
  | poll (hwaited : a.waited = true) (hreturned : a.returned = none) :
      Does a .poll { a with returned := some a.attemptReady }
  | nothing (e : AttemptEvent) : Does a e a

theorem step_does (a : Attempt) (e : AttemptEvent) : Does a e (a.step e) := by
  cases e with
  | write line =>
    rw [step]
    split
    · exact .nothing _
    · exact .write line (by simp_all)
  | exit => exact .exit
  | read n =>
    rw [step]
    split
    · rename_i h
      exact .read n h.2.1
    · exact .nothing _
  | handle =>
    rw [step]
    split
    · rename_i line rest hscanning hbuffer
      split
      · rename_i hlong
        exact .giveUp line rest hbuffer hlong
      · rename_i hlong
        exact .handle line rest hscanning hbuffer (by simpa using hlong)
    · exact .nothing _
  | finish =>
    rw [step]
    split
    · rename_i h
      exact .finish h.1 h.2
    · exact .nothing _
  | wait =>
    rw [step]
    split
    · rename_i h
      exact .wait h.1 h.2
    · exact .nothing _
  | poll =>
    rw [step]
    split
    · rename_i h
      exact .poll h.1 h.2
    · exact .nothing _

theorem Consistent.init : Consistent {} where
  waited h := by cases h
  returned h := absurd rfl h
  reported h := by cases h
  closed h := by cases h
  found h := by cases h

/-- While the child runs, `cmd.Wait` has not returned. -/
theorem Consistent.not_waited {a : Attempt} (h : a.Consistent) (hexited : a.exited = false) :
    a.waited ≠ true := by
  intro hwaited
  rw [(h.waited hwaited).1] at hexited
  cases hexited

theorem consistent_step (a : Attempt) (e : AttemptEvent) (h : a.Consistent) :
    (a.step e).Consistent := by
  have hdoes := step_does a e
  generalize a.step e = a' at hdoes
  cases hdoes with
  | write line hexited =>
    refine ⟨fun hw => absurd hw (h.not_waited hexited), h.returned, h.reported, ?_, ?_⟩
    · intro hready
      simp [h.closed hready]
    · intro hfound
      unfold unhandled at hfound
      rw [← List.append_assoc, found_append, Bool.or_eq_true] at hfound
      rcases hfound with hfound | hline
      · simp [h.found hfound]
      · simp_all [Pforward.found]
  | exit => exact ⟨fun hw => ⟨rfl, (h.waited hw).2⟩, h.returned, h.reported, h.closed, h.found⟩
  | read n hbuffer =>
    refine ⟨?_, h.returned, h.reported, h.closed, ?_⟩
    · intro hw
      obtain ⟨hexited, hpipe⟩ := h.waited hw
      exact ⟨hexited, by simp [hpipe]⟩
    · intro hfound
      apply h.found
      simpa [unhandled, hbuffer] using hfound
  | giveUp line rest hbuffer hlong =>
    exact ⟨h.waited, h.returned, h.reported, h.closed, h.found⟩
  | handle line rest hscanning hbuffer hlong =>
    have hwrote : isReadiness line = true ∨ Pforward.found (rest ++ a.pipe) = true →
        a.wrote = true := by
      intro hline
      apply h.found
      rw [unhandled, hbuffer, List.cons_append, Pforward.found, hlong]
      simpa using hline
    refine ⟨h.waited, h.returned, ?_, ?_, fun hfound => hwrote (.inr hfound)⟩
    · intro hreturned
      simp [h.reported hreturned]
    · intro hready
      rcases Bool.or_eq_true _ _ |>.mp hready with hold | hnew
      · simp [h.closed hold]
      · simp [hwrote (.inl hnew), hnew]
  | finish hbuffer hend => exact ⟨h.waited, h.returned, h.reported, h.closed, h.found⟩
  | wait hexited hwaited =>
    refine ⟨fun _ => ⟨hexited, rfl⟩, fun _ => rfl, h.reported, h.closed, ?_⟩
    intro hfound
    apply h.found
    rw [unhandled, found_append]
    simp_all [unhandled]
  | poll hwaited hreturned =>
    exact ⟨h.waited, fun _ => hwaited, fun hready => Option.some.inj hready, h.closed, h.found⟩
  | nothing => exact h

/-- A timely step does not lose the readiness line. -/
theorem kept_step (a : Attempt) (e : AttemptEvent) (htimely : a.Timely e)
    (h : a.Consistent ∧ a.Kept) : (a.step e).Consistent ∧ (a.step e).Kept := by
  refine ⟨consistent_step a e h.1, ?_⟩
  obtain ⟨hcons, hkept⟩ := h
  have hdoes := step_does a e
  generalize a.step e = a' at hdoes
  cases hdoes with
  | write line hexited =>
    intro hwrote
    unfold unhandled
    rw [← List.append_assoc]
    by_cases hold : a.wrote = true
    · obtain ⟨hreturned, hready | ⟨hscanning, hfound⟩⟩ := hkept hold
      · exact ⟨hreturned, .inl hready⟩
      · exact ⟨hreturned, .inr ⟨hscanning, found_append_left hfound _⟩⟩
    · have hline : isReadiness line = true := by simpa [hold] using hwrote
      refine ⟨?_, .inr (htimely hexited hline (by simpa using hold))⟩
      intro hreturned
      have hwaited := hcons.returned (fun hnone => by rw [hnone] at hreturned; cases hreturned)
      exact hcons.not_waited hexited hwaited
  | exit => exact hkept
  | read n hbuffer =>
    intro hwrote
    obtain ⟨hreturned, hready | ⟨hscanning, hfound⟩⟩ := hkept hwrote
    · exact ⟨hreturned, .inl hready⟩
    · refine ⟨hreturned, .inr ⟨hscanning, ?_⟩⟩
      simpa [unhandled, hbuffer] using hfound
  | giveUp line rest hbuffer hlong =>
    intro hwrote
    obtain ⟨hreturned, hready | ⟨hscanning, hfound⟩⟩ := hkept hwrote
    · exact ⟨hreturned, .inl hready⟩
    · simp [unhandled, hbuffer, Pforward.found, hlong] at hfound
  | handle line rest hscanning hbuffer hlong =>
    intro hwrote
    obtain ⟨hreturned, hready | ⟨-, hfound⟩⟩ := hkept hwrote
    · exact ⟨hreturned, .inl (by simp [hready])⟩
    · refine ⟨hreturned, ?_⟩
      rw [unhandled, hbuffer, List.cons_append, Pforward.found, hlong] at hfound
      rcases Bool.or_eq_true _ _ |>.mp (by simpa using hfound) with hline | hrest
      · exact .inl (by simp [hline])
      · exact .inr ⟨hscanning, hrest⟩
  | finish hbuffer hend =>
    intro hwrote
    obtain ⟨hreturned, hready | ⟨hscanning, hfound⟩⟩ := hkept hwrote
    · exact ⟨hreturned, .inl hready⟩
    · have hpipe : a.pipe = [] := by
        rcases hend with hwaited | hexited
        · exact (hcons.waited hwaited).2
        · exact hexited.2
      simp [unhandled, hbuffer, hpipe, Pforward.found] at hfound
  | wait hexited hwaited =>
    intro hwrote
    refine ⟨(hkept hwrote).1, ?_⟩
    cases hready : a.attemptReady with
    | true => exact .inl rfl
    | false =>
      obtain ⟨hscanning, hfound⟩ := htimely hexited hwaited hwrote hready
      exact .inr ⟨hscanning, by simpa [unhandled] using hfound⟩
  | poll hwaited hreturned =>
    intro hwrote
    cases hready : a.attemptReady with
    | true => exact ⟨by simp, .inl rfl⟩
    | false =>
      obtain ⟨-, hold | ⟨hscanning, hfound⟩⟩ := hkept hwrote
      · simp [hready] at hold
      · have hdone := htimely hwaited hreturned hready
        simp_all [unhandled, (hcons.waited hwaited).2]
  | nothing => exact hkept

/-- A readiness line that is lost stays lost. -/
theorem lost_step (a : Attempt) (e : AttemptEvent) (h : a.Consistent ∧ a.Lost) :
    (a.step e).Consistent ∧ (a.step e).Lost := by
  refine ⟨consistent_step a e h.1, ?_⟩
  obtain ⟨hcons, hwrote, hlost⟩ := h
  have hdoes := step_does a e
  generalize a.step e = a' at hdoes
  cases hdoes with
  | write line hexited =>
    refine ⟨by simp [hwrote], hlost.imp id fun ⟨hready, hfound, hbarred⟩ => ⟨hready, ?_⟩⟩
    unfold Barred unhandled at *
    rw [← List.append_assoc]
    rcases hbarred with hstopped | hwaited | hlong
    · exact ⟨by simp [hstopped], .inl hstopped⟩
    · exact absurd hwaited (hcons.not_waited hexited)
    · refine ⟨?_, .inr (.inr (by rw [List.any_append, hlong, Bool.true_or]))⟩
      rcases Bool.and_eq_false_iff.mp hfound with hstopped | hnone
      · simp [hstopped]
      · exact Bool.and_eq_false_iff.mpr (.inr (found_append_long hlong hnone _))
  | exit => exact ⟨hwrote, hlost⟩
  | read n hbuffer =>
    refine ⟨hwrote, hlost.imp id fun ⟨hready, hfound, hbarred⟩ => ⟨hready, ?_⟩⟩
    simpa [Barred, unhandled, hbuffer] using And.intro hfound hbarred
  | giveUp line rest hbuffer hlong =>
    exact ⟨hwrote, hlost.imp id fun ⟨hready, _, _⟩ => ⟨hready, rfl, .inl rfl⟩⟩
  | handle line rest hscanning hbuffer hlong =>
    refine ⟨hwrote, hlost.imp id fun ⟨hready, hfound, hbarred⟩ => ?_⟩
    rw [unhandled, hbuffer, List.cons_append, Pforward.found, hlong] at hfound
    unfold Barred at hbarred ⊢
    rw [unhandled, hbuffer, List.cons_append, List.any_cons, hlong] at hbarred
    simp_all [unhandled]
  | finish hbuffer hend =>
    exact ⟨hwrote, hlost.imp id fun ⟨hready, _, _⟩ => ⟨hready, rfl, .inl rfl⟩⟩
  | wait hexited hwaited =>
    refine ⟨hwrote, hlost.imp id fun ⟨hready, hfound, _⟩ => ⟨hready, ?_, .inr (.inl rfl)⟩⟩
    rw [unhandled, found_append] at hfound
    simp_all [unhandled]
  | poll hwaited hreturned =>
    refine ⟨hwrote, .inl ?_⟩
    rcases hlost with hfalse | ⟨hready, -, -⟩
    · rw [hreturned] at hfalse
      cases hfalse
    · rw [hready]
  | nothing => exact ⟨hwrote, hlost⟩

/-- A step that is not timely loses the readiness line. -/
theorem lost_of_not_timely (a : Attempt) (e : AttemptEvent) (h : a.Consistent ∧ a.Kept)
    (htimely : ¬ a.Timely e) : (a.step e).Consistent ∧ (a.step e).Lost := by
  refine ⟨consistent_step a e h.1, ?_⟩
  obtain ⟨hcons, hkept⟩ := h
  cases e with
  | write line =>
    simp only [Timely, Classical.not_imp] at htimely
    obtain ⟨hexited, hline, hnew, hmiss⟩ := htimely
    have hready : a.attemptReady = false := by
      rw [← Bool.not_eq_true]
      intro hready
      simp [(hcons.closed hready).1] at hnew
    have hfound : found a.unhandled = false := by
      rw [← Bool.not_eq_true]
      intro hfound
      simp [hcons.found hfound] at hnew
    rw [step, if_neg (by simp [hexited])]
    refine ⟨by simp [hline], .inr ⟨hready, ?_⟩⟩
    unfold Barred unhandled at *
    rw [← List.append_assoc]
    cases hscanning : a.scanning with
    | false => exact ⟨rfl, .inl rfl⟩
    | true =>
      have hnone : Pforward.found (a.buffer ++ a.pipe ++ [line]) = false := by
        simpa using fun h => hmiss ⟨hscanning, h⟩
      exact ⟨hnone, .inr (.inr (any_tooLong_of_not_found hline hnone))⟩
  | wait =>
    simp only [Timely, Classical.not_imp] at htimely
    obtain ⟨hexited, hwaited, hwrote, hready, hmiss⟩ := htimely
    rw [step, if_pos ⟨hexited, hwaited⟩]
    refine ⟨hwrote, .inr ⟨hready, ?_, .inr (.inl rfl)⟩⟩
    rw [unhandled, List.append_nil, ← Bool.not_eq_true, Bool.and_eq_true]
    exact hmiss
  | poll =>
    simp only [Timely, Classical.not_imp] at htimely
    obtain ⟨hwaited, hreturned, hready, hmiss⟩ := htimely
    rw [step, if_pos ⟨hwaited, hreturned⟩]
    have hfound : Pforward.found a.unhandled = true := by
      rw [unhandled, (hcons.waited hwaited).2, List.append_nil]
      simp_all
    exact ⟨hcons.found hfound, .inl (by rw [hready])⟩
  | _ => exact absurd trivial htimely

theorem not_lost_of_kept (a : Attempt) (h : a.Consistent ∧ a.Kept) : ¬ (a.Consistent ∧ a.Lost) := by
  rintro ⟨-, hwrote, hlost⟩
  obtain ⟨hreturned, hkept⟩ := h.2 hwrote
  rcases hlost with hfalse | ⟨hready, hfound, -⟩
  · exact hreturned hfalse
  · simp_all

end Attempt

/-- After an attempt that is reported so, the loop waits for the initial backoff. -/
def ResetsBackoff (ready : Bool) : Prop :=
  ∀ (m : Manager) (err : AttemptError), m.phase = .finished ready err → m.ctxDone = false →
    (m.step .check).backoff = initialBackoff

theorem resetsBackoff_true : ResetsBackoff true := by
  intro m err hm hdone
  simp [Manager.step, hm, hdone, Manager.retryIn]

/-- **A readiness line that was written is reported in exactly the runs whose steps are timely.** -/
theorem readiness_reported_iff (es : List AttemptEvent) (ready : Bool)
    (hreturned : (Machine.run Attempt.step {} es).returned = some ready) :
    ((Machine.run Attempt.step {} es).wrote = true → ready = true ∧ ResetsBackoff ready) ↔
      Machine.Along Attempt.Timely Attempt.step {} es := by
  rw [← Machine.run_iff_along (fun a e => Attempt.kept_step a e) Attempt.lost_of_not_timely
    (fun a e => Attempt.lost_step a e) Attempt.not_lost_of_kept es {} ⟨.init, fun h => by cases h⟩]
  have hcons := Machine.run_invariant Attempt.consistent_step es {} .init
  constructor
  · intro h
    refine ⟨hcons, fun hwrote => ?_⟩
    obtain ⟨rfl, -⟩ := h hwrote
    exact ⟨by simp [hreturned], .inl (hcons.reported hreturned)⟩
  · rintro ⟨-, hkept⟩ hwrote
    have hready : ready = true := by
      have hne := (hkept hwrote).1
      rw [hreturned] at hne
      simpa using hne
    subst hready
    exact ⟨rfl, resetsBackoff_true⟩

theorem readiness_reported_inTime :
    (Machine.run Attempt.step {} [.write readinessPrefix, .read 1, .handle, .exit, .wait,
      .poll]).returned = some true ∧
    Machine.Along Attempt.Timely Attempt.step {} [.write readinessPrefix, .read 1, .handle, .exit,
      .wait, .poll] := by
  have hreturned : (Machine.run Attempt.step {} [.write readinessPrefix, .read 1, .handle, .exit,
      .wait, .poll]).returned = some true := by decide
  exact ⟨hreturned,
    (readiness_reported_iff _ true hreturned).mp fun _ => ⟨rfl, resetsBackoff_true⟩⟩

/-- kubectl prints the readiness line and exits; the pipe is closed before the line is read. -/
theorem readiness_reported_counterexample :
    ¬ ∀ (es : List AttemptEvent) (ready : Bool),
      (Machine.run Attempt.step {} es).returned = some ready →
      (Machine.run Attempt.step {} es).wrote = true → ready = true ∧ ResetsBackoff ready := by
  intro h
  have hlost := h [.write readinessPrefix, .exit, .wait, .poll] false (by decide) (by decide)
  cases hlost.1

end Pforward
