import Mathlib.Logic.Function.Basic
import SubstrateControl.Pforward.Drain

/-!
# Readiness signalling

`runOnce` and `WaitReady` (`internal/pforward/pforward.go`) as goroutines that run side by side: any
number of attempts, each with a child and a goroutine that drains its stdout, and any number of
callers. The body of the goroutine's loop is taken apart into its accesses to what is shared, and
every order of these is a run.

* `Forward` — an attempt; `Goroutine` — where its goroutine stands.
* `Signals` — the attempts, the mutex and the channel of the manager, and the callers; `step`.
* `Forward.drain`, `attempt_run` — seen on its own, each attempt runs as a `Drain` does.
* `Signals.Safe` — the invariant: who is between `m.mu.Lock()` and `m.mu.Unlock()` holds the mutex,
  and who is about to close a channel finds it open.
* `readiness_signalling_safe` — no channel is closed twice, a closed channel stays closed, and
  `WaitReady` returns nil only after some child has printed the readiness line.
-/

set_option autoImplicit false

namespace Pforward

open Kit

/-- Where the goroutine of an attempt stands. -/
inductive Goroutine where
  | unstarted
  /-- At `scanner.Scan()`. -/
  | scan
  /-- At the `select` on `attemptReady`. -/
  | checkAttempt
  /-- At `close(attemptReady)`. -/
  | closeAttempt
  /-- At `m.mu.Lock()`. -/
  | lock
  /-- At the `select` on `m.ready`. -/
  | checkReady
  /-- At `close(m.ready)`. -/
  | closeReady
  /-- At `m.mu.Unlock()`. -/
  | unlock
  | returned
  deriving DecidableEq, Repr

namespace Goroutine

/-- A readiness line has been returned, and `attemptReady` not closed for it. -/
def pending : Goroutine → Bool
  | checkAttempt | closeAttempt => true
  | _ => false

/-- `attemptReady` has been closed, and the body not left. -/
def announces : Goroutine → Bool
  | lock | checkReady | closeReady | unlock => true
  | _ => false

/-- Between `m.mu.Lock()` and `m.mu.Unlock()`. -/
def locked : Goroutine → Bool
  | checkReady | closeReady | unlock => true
  | _ => false

end Goroutine

/-- One call of `runOnce`. -/
structure Forward where
  stdout : Stdout := {}
  goroutine : Goroutine := .unstarted
  /-- `attemptReady` is closed. -/
  attemptReady : Bool := false
  /-- What `runOnce` reports. -/
  wasReady : Option Bool := none
  deriving DecidableEq, Repr

/-- The attempt as its goroutine alone has it: a line it has been returned is handled. -/
def Forward.drain (a : Forward) : Drain where
  stdout := a.stdout
  scanning := a.goroutine ≠ .returned
  attemptReady := a.attemptReady || a.goroutine.pending

/-- What holds of an attempt, with `m.ready` closed or not, and its goroutine holding the mutex or
not. -/
structure Forward.Fits (a : Forward) (ready : Bool) (holds : Prop) : Prop where
  mutex : a.goroutine.locked = true ↔ holds
  /-- Only its own goroutine closes `attemptReady`. -/
  own : a.goroutine = .closeAttempt → a.attemptReady = false
  announced : a.goroutine.announces = true → a.attemptReady = true
  unclosed : a.goroutine = .closeReady → ready = false

/-- A step that neither takes nor gives back the mutex. -/
theorem Forward.Fits.moves {a a' : Forward} {ready : Bool} {holds : Prop} (h : a.Fits ready holds)
    (hlocked : a'.goroutine.locked = a.goroutine.locked)
    (hown : a'.goroutine = .closeAttempt → a'.attemptReady = false)
    (hannounced : a'.goroutine.announces = true → a'.attemptReady = true)
    (hunclosed : a'.goroutine = .closeReady → ready = false) : a'.Fits ready holds :=
  ⟨by rw [hlocked]; exact h.mutex, hown, hannounced, hunclosed⟩

/-- A step that leaves the goroutine where it is. -/
theorem Forward.Fits.stays {a a' : Forward} {ready : Bool} {holds : Prop} (h : a.Fits ready holds)
    (hgoroutine : a'.goroutine = a.goroutine) (hready : a'.attemptReady = a.attemptReady) :
    a'.Fits ready holds := by
  apply h.moves <;> rw [hgoroutine]
  · rw [hready]
    exact h.own
  · rw [hready]
    exact h.announced
  · exact h.unclosed

/-- `close`, on a channel that is closed or not; it panics on a closed one. -/
def close (closed : Bool) : Option Bool := if closed then none else some true

theorem close_eq_some {closed closed' : Bool} (h : close closed = some closed') :
    closed = false ∧ closed' = true := by
  cases closed with
  | false => exact ⟨rfl, (Option.some.inj h).symm⟩
  | true => cases h

theorem close_eq_none {closed : Bool} (h : close closed = none) : closed = true := by
  cases closed with
  | false => cases h
  | true => rfl

/-- A call of `WaitReady`, and what it returned. -/
inductive WaitReady where
  | waiting
  | ready
  | contextDone
  deriving DecidableEq, Repr

/-- A manager with its attempts `ι` and the callers `κ` of its methods. -/
structure Signals (ι κ : Type) where
  attempts : ι → Forward := fun _ => {}
  /-- `m.mu`, with the goroutine or the caller that holds it. -/
  mu : Option (ι ⊕ κ) := none
  /-- `m.ready` is closed. -/
  ready : Bool := false
  calls : κ → WaitReady := fun _ => .waiting
  /-- A channel was closed twice. -/
  panicked : Bool := false

inductive SignalEvent (ι κ : Type) where
  /-- `runOnce` starts the child and the goroutine of an attempt. -/
  | start (i : ι)
  | write (i : ι) (bs : List UInt8)
  | exit (i : ι)
  /-- `cmd.Wait` closes the pipe. -/
  | wait (i : ι)
  /-- `runOnce` looks at `attemptReady`. -/
  | poll (i : ι)
  /-- The goroutine of an attempt takes a step; a read finds `n + 1` bytes. -/
  | go (i : ι) (n : ℕ)
  /-- `Start` or `Stop` takes the mutex. -/
  | lock (k : κ)
  | unlock (k : κ)
  /-- `WaitReady` takes the branch of `m.ready`. -/
  | ready (k : κ)
  /-- `WaitReady` takes the branch of its context. -/
  | contextDone (k : κ)

namespace Signals

variable {ι κ : Type} [DecidableEq ι]

def set (s : Signals ι κ) (i : ι) (a : Forward) : Signals ι κ :=
  { s with attempts := Function.update s.attempts i a }

@[simp] theorem set_self (s : Signals ι κ) (i : ι) (a : Forward) : (s.set i a).attempts i = a := by
  simp [set]

theorem set_of_ne (s : Signals ι κ) {i j : ι} (a : Forward) (hj : j ≠ i) :
    (s.set i a).attempts j = s.attempts j := by
  simp [set, hj]

/-- The goroutine of attempt `i` takes a step. -/
def go (s : Signals ι κ) (i : ι) (n : ℕ) : Signals ι κ :=
  let a := s.attempts i
  match a.goroutine with
  | .unstarted => s
  | .scan =>
    match a.stdout.scan n with
    | (.line text, o) =>
      s.set i { a with stdout := o, goroutine := if isReadiness text then .checkAttempt else .scan }
    | (.more, o) => s.set i { a with stdout := o }
    | (.stopped, o) => s.set i { a with stdout := o, goroutine := .returned }
  | .checkAttempt =>
    s.set i { a with goroutine := if a.attemptReady then .scan else .closeAttempt }
  | .closeAttempt =>
    match close a.attemptReady with
    | some closed => s.set i { a with attemptReady := closed, goroutine := .lock }
    | none => { s with panicked := true }
  | .lock =>
    if s.mu = none then { s.set i { a with goroutine := .checkReady } with mu := some (.inl i) }
    else s
  | .checkReady => s.set i { a with goroutine := if s.ready then .unlock else .closeReady }
  | .closeReady =>
    match close s.ready with
    | some closed => { s.set i { a with goroutine := .unlock } with ready := closed }
    | none => { s with panicked := true }
  | .unlock => { s.set i { a with goroutine := .scan } with mu := none }
  | .returned => s

/-- The child of attempt `i`, or `cmd.Wait`, does something to its stdout. -/
def child (s : Signals ι κ) (i : ι) (f : Stdout → Stdout) : Signals ι κ :=
  if (s.attempts i).goroutine = .unstarted then s
  else s.set i { s.attempts i with stdout := f (s.attempts i).stdout }

/-- Attempt `i`, as its goroutine alone has it. -/
def view (i : ι) (s : Signals ι κ) : Drain := (s.attempts i).drain

/-- A change of one attempt that its goroutine alone could make is one of every attempt. -/
theorem set_simulates (capacity : ℕ) (s : Signals ι κ) (i j : ι) (a : Forward)
    (h : ∃ ds, a.drain = Machine.run (Drain.step capacity) (s.view i) ds) :
    ∃ ds, (s.set i a).view j = Machine.run (Drain.step capacity) (s.view j) ds := by
  by_cases hj : j = i
  · subst hj
    rw [view, set_self]
    exact h
  · rw [view, set_of_ne s a hj]
    exact ⟨[], rfl⟩

/-- A change that its goroutine alone does not see. -/
theorem set_silent (capacity : ℕ) (s : Signals ι κ) (i j : ι) {a : Forward}
    (h : a.drain = s.view i) :
    ∃ ds, (s.set i a).view j = Machine.run (Drain.step capacity) (s.view j) ds :=
  set_simulates capacity s i j a ⟨[], h⟩

variable [DecidableEq κ]

/-- A panic ends the program. -/
def step (capacity : ℕ) (s : Signals ι κ) (e : SignalEvent ι κ) : Signals ι κ :=
  if s.panicked then s
  else
    match e with
    | .start i =>
      if (s.attempts i).goroutine = .unstarted then
        s.set i { s.attempts i with goroutine := .scan }
      else s
    | .write i bs => s.child i (Stdout.write capacity · bs)
    | .exit i => s.child i Stdout.exit
    | .wait i => s.child i Stdout.wait
    | .poll i => s.set i { s.attempts i with wasReady := some (s.attempts i).attemptReady }
    | .go i n => s.go i n
    | .lock k => if s.mu = none then { s with mu := some (.inr k) } else s
    | .unlock k => if s.mu = some (.inr k) then { s with mu := none } else s
    | .ready k =>
      if s.calls k = .waiting ∧ s.ready = true then
        { s with calls := Function.update s.calls k .ready }
      else s
    | .contextDone k =>
      if s.calls k = .waiting then { s with calls := Function.update s.calls k .contextDone } else s

/-! ## One step -/

/-- What a step does, by the party that takes it. -/
inductive Steps (capacity : ℕ) (s : Signals ι κ) : Signals ι κ → Prop where
  | start (i : ι) (hat : (s.attempts i).goroutine = .unstarted) :
      Steps capacity s (s.set i { s.attempts i with goroutine := .scan })
  | child (i : ι) (e : DrainEvent) (o : Stdout)
      (hchild : (s.view i).step capacity e = { s.view i with stdout := o }) :
      Steps capacity s (s.set i { s.attempts i with stdout := o })
  | poll (i : ι) :
      Steps capacity s (s.set i { s.attempts i with wasReady := some (s.attempts i).attemptReady })
  | line (i : ι) (n : ℕ) (text : Line) (o : Stdout) (hat : (s.attempts i).goroutine = .scan)
      (hscan : (s.attempts i).stdout.scan n = (.line text, o)) :
      Steps capacity s (s.set i { s.attempts i with
        stdout := o, goroutine := if isReadiness text then .checkAttempt else .scan })
  | more (i : ι) (n : ℕ) (o : Stdout) (hat : (s.attempts i).goroutine = .scan)
      (hscan : (s.attempts i).stdout.scan n = (.more, o)) :
      Steps capacity s (s.set i { s.attempts i with stdout := o })
  | stopped (i : ι) (n : ℕ) (o : Stdout) (hat : (s.attempts i).goroutine = .scan)
      (hscan : (s.attempts i).stdout.scan n = (.stopped, o)) :
      Steps capacity s (s.set i { s.attempts i with stdout := o, goroutine := .returned })
  | checkAttempt (i : ι) (hat : (s.attempts i).goroutine = .checkAttempt) :
      Steps capacity s (s.set i { s.attempts i with
        goroutine := if (s.attempts i).attemptReady then .scan else .closeAttempt })
  | closeAttempt (i : ι) (hat : (s.attempts i).goroutine = .closeAttempt)
      (hopen : (s.attempts i).attemptReady = false) :
      Steps capacity s (s.set i { s.attempts i with attemptReady := true, goroutine := .lock })
  | lock (i : ι) (hat : (s.attempts i).goroutine = .lock) (hfree : s.mu = none) :
      Steps capacity s
        { s.set i { s.attempts i with goroutine := .checkReady } with mu := some (.inl i) }
  | checkReady (i : ι) (hat : (s.attempts i).goroutine = .checkReady) :
      Steps capacity s (s.set i { s.attempts i with
        goroutine := if s.ready then .unlock else .closeReady })
  | closeReady (i : ι) (hat : (s.attempts i).goroutine = .closeReady) (hopen : s.ready = false) :
      Steps capacity s { s.set i { s.attempts i with goroutine := .unlock } with ready := true }
  | unlock (i : ι) (hat : (s.attempts i).goroutine = .unlock) :
      Steps capacity s { s.set i { s.attempts i with goroutine := .scan } with mu := none }
  | panicAttempt (i : ι) (hat : (s.attempts i).goroutine = .closeAttempt)
      (hclosed : (s.attempts i).attemptReady = true) : Steps capacity s { s with panicked := true }
  | panicReady (i : ι) (hat : (s.attempts i).goroutine = .closeReady) (hclosed : s.ready = true) :
      Steps capacity s { s with panicked := true }
  | callLocks (k : κ) (hfree : s.mu = none) : Steps capacity s { s with mu := some (.inr k) }
  | callUnlocks (k : κ) (hheld : s.mu = some (.inr k)) : Steps capacity s { s with mu := none }
  | returns (k : κ) (hready : s.ready = true) :
      Steps capacity s { s with calls := Function.update s.calls k .ready }
  | expires (k : κ) : Steps capacity s { s with calls := Function.update s.calls k .contextDone }
  | nothing : Steps capacity s s

theorem go_steps (capacity : ℕ) (s : Signals ι κ) (i : ι) (n : ℕ) :
    Steps capacity s (s.go i n) := by
  unfold go
  simp only
  split
  · exact .nothing
  · rename_i hat
    split
    · rename_i text o hscan
      exact .line i n text o hat hscan
    · rename_i o hscan
      exact .more i n o hat hscan
    · rename_i o hscan
      exact .stopped i n o hat hscan
  · rename_i hat
    exact .checkAttempt i hat
  · rename_i hat
    split
    · rename_i hclose
      obtain ⟨hopen, rfl⟩ := close_eq_some hclose
      exact .closeAttempt i hat hopen
    · rename_i hclose
      exact .panicAttempt i hat (close_eq_none hclose)
  · rename_i hat
    split
    · rename_i hfree
      exact .lock i hat hfree
    · exact .nothing
  · rename_i hat
    exact .checkReady i hat
  · rename_i hat
    split
    · rename_i hclose
      obtain ⟨hopen, rfl⟩ := close_eq_some hclose
      exact .closeReady i hat hopen
    · rename_i hclose
      exact .panicReady i hat (close_eq_none hclose)
  · rename_i hat
    exact .unlock i hat
  · exact .nothing

theorem child_steps (capacity : ℕ) (s : Signals ι κ) (i : ι) (e : DrainEvent) (f : Stdout → Stdout)
    (h : ∀ d : Drain, d.step capacity e = { d with stdout := f d.stdout }) :
    Steps capacity s (s.child i f) := by
  unfold child
  split
  · exact .nothing
  · exact .child i e _ (h (s.view i))

theorem step_steps (capacity : ℕ) (s : Signals ι κ) (e : SignalEvent ι κ) :
    Steps capacity s (s.step capacity e) := by
  unfold step
  split
  · exact .nothing
  · cases e with
    | start i =>
      simp only
      split
      · rename_i hat
        exact .start i hat
      · exact .nothing
    | write i bs => exact child_steps capacity s i (.write bs) _ fun _ => rfl
    | exit i => exact child_steps capacity s i .exit _ fun _ => rfl
    | wait i => exact child_steps capacity s i .wait _ fun _ => rfl
    | poll i => exact .poll i
    | go i n => exact go_steps capacity s i n
    | lock k =>
      simp only
      split
      · rename_i hfree
        exact .callLocks k hfree
      · exact .nothing
    | unlock k =>
      simp only
      split
      · rename_i hheld
        exact .callUnlocks k hheld
      · exact .nothing
    | ready k =>
      simp only
      split
      · rename_i hready
        exact .returns k hready.2
      · exact .nothing
    | contextDone k =>
      simp only
      split
      · exact .expires k
      · exact .nothing

/-! ## An attempt on its own -/

/-- Each attempt takes the steps of a `Drain`, or none. -/
theorem steps_simulate {capacity : ℕ} {s s' : Signals ι κ} (h : Steps capacity s s') (j : ι) :
    ∃ ds, s'.view j = Machine.run (Drain.step capacity) (s.view j) ds := by
  cases h with
  | start i hat =>
    apply set_silent
    simp [view, Forward.drain, hat, Goroutine.pending]
  | child i e o hchild =>
    refine set_simulates capacity s i j _ ⟨[e], ?_⟩
    rw [Machine.run_cons, hchild]
    rfl
  | poll i => exact set_silent capacity s i j rfl
  | line i n text o hat hscan =>
    refine set_simulates capacity s i j _ ⟨[.scan n], ?_⟩
    cases hline : isReadiness text <;>
      simp [view, Forward.drain, Drain.step, Drain.scan, hat, hscan, hline, Goroutine.pending]
  | more i n o hat hscan =>
    refine set_simulates capacity s i j _ ⟨[.scan n], ?_⟩
    simp [view, Forward.drain, Drain.step, Drain.scan, hat, hscan]
  | stopped i n o hat hscan =>
    refine set_simulates capacity s i j _ ⟨[.scan n], ?_⟩
    simp [view, Forward.drain, Drain.step, Drain.scan, hat, hscan, Goroutine.pending]
  | checkAttempt i hat =>
    apply set_silent
    cases hready : (s.attempts i).attemptReady <;>
      simp [view, Forward.drain, hat, hready, Goroutine.pending]
  | closeAttempt i hat hopen =>
    apply set_silent
    simp [view, Forward.drain, hat, Goroutine.pending]
  | lock i hat hfree =>
    apply set_silent
    simp [view, Forward.drain, hat, Goroutine.pending]
  | checkReady i hat =>
    apply set_silent
    cases hready : s.ready <;> simp [view, Forward.drain, hat, Goroutine.pending]
  | closeReady i hat hopen =>
    apply set_silent
    simp [view, Forward.drain, hat, Goroutine.pending]
  | unlock i hat =>
    apply set_silent
    simp [view, Forward.drain, hat, Goroutine.pending]
  | _ => exact ⟨[], rfl⟩

/-- **Each attempt, seen on its own, runs as a `Drain` does.** -/
theorem attempt_run (capacity : ℕ) (es : List (SignalEvent ι κ)) (i : ι) :
    ∃ ds, view i (Machine.run (step capacity) ({} : Signals ι κ) es) =
      Machine.run (Drain.step capacity) {} ds := by
  have hsim : ∀ (s : Signals ι κ) (e : SignalEvent ι κ), ∃ ds,
      view i (step capacity s e) = Machine.run (Drain.step capacity) (view i s) ds :=
    fun s e => steps_simulate (s.step_steps capacity e) i
  exact Machine.run_simulates hsim es {}

/-! ## The invariant -/

structure Safe (s : Signals ι κ) : Prop where
  running : s.panicked = false
  fits : ∀ i, (s.attempts i).Fits s.ready (s.mu = some (.inl i))
  closed : s.ready = true → ∃ i, (s.attempts i).attemptReady = true
  called : ∀ k, s.calls k = .ready → s.ready = true

omit [DecidableEq ι] [DecidableEq κ] in
theorem Safe.init : Safe ({} : Signals ι κ) where
  running := rfl
  fits i := by constructor <;> simp [Goroutine.locked, Goroutine.announces]
  closed h := by cases h
  called k h := by cases h

omit [DecidableEq κ] in
/-- A change of one attempt, of the mutex and of `m.ready` that keeps the invariant: it fits the
attempt that changes, and the others hold the mutex as before and find `m.ready` as they need it. -/
theorem Safe.update {s : Signals ι κ} (h : s.Safe) (i : ι) {a : Forward} {mu : Option (ι ⊕ κ)}
    {ready : Bool} (hself : a.Fits ready (mu = some (.inl i)))
    (hothers : ∀ j, j ≠ i → (mu = some (.inl j) ↔ s.mu = some (.inl j)))
    (hunclosed : ∀ j, j ≠ i → s.mu = some (.inl j) → s.ready = false → ready = false)
    (hkeeps : (s.attempts i).attemptReady = true → a.attemptReady = true)
    (hready : s.ready = true → ready = true)
    (hcloses : ready = true → s.ready = true ∨ a.attemptReady = true) :
    Safe { s.set i a with mu := mu, ready := ready } where
  running := h.running
  fits j := by
    by_cases hj : j = i
    · subst hj
      simpa using hself
    · have hfits := h.fits j
      show (((s.set i a).attempts j).Fits ready (mu = some (.inl j)))
      rw [set_of_ne s a hj]
      refine ⟨hfits.mutex.trans (hothers j hj).symm, hfits.own, hfits.announced, fun hat => ?_⟩
      apply hunclosed j hj _ (hfits.unclosed hat)
      exact hfits.mutex.mp (by rw [hat]; rfl)
  closed hr := by
    rcases hcloses hr with hold | hnew
    · obtain ⟨j, hj⟩ := h.closed hold
      refine ⟨j, ?_⟩
      show ((s.set i a).attempts j).attemptReady = true
      by_cases hij : j = i
      · subst hij
        rw [set_self]
        exact hkeeps hj
      · rw [set_of_ne s a hij, hj]
    · refine ⟨i, ?_⟩
      show ((s.set i a).attempts i).attemptReady = true
      rw [set_self, hnew]
  called k hk := hready (h.called k hk)

omit [DecidableEq κ] in
/-- A change of one attempt alone. -/
theorem Safe.set {s : Signals ι κ} (h : s.Safe) (i : ι) {a : Forward}
    (hself : a.Fits s.ready (s.mu = some (.inl i)))
    (hkeeps : (s.attempts i).attemptReady = true → a.attemptReady = true) : (s.set i a).Safe :=
  h.update i hself (fun _ _ => Iff.rfl) (fun _ _ _ => id) hkeeps id .inl

omit [DecidableEq ι] [DecidableEq κ] in
/-- A change of the mutex that no attempt has a part in. -/
theorem Safe.setMu {s : Signals ι κ} (h : s.Safe) {mu : Option (ι ⊕ κ)}
    (hattempts : ∀ i, mu = some (.inl i) ↔ s.mu = some (.inl i)) : Safe { s with mu := mu } where
  running := h.running
  fits i :=
    let hfits := h.fits i
    ⟨hfits.mutex.trans (hattempts i).symm, hfits.own, hfits.announced, hfits.unclosed⟩
  closed := h.closed
  called := h.called

/-- **Every step keeps the invariant**; where a goroutine would close a channel twice, it is not
about to. -/
theorem safe_step (capacity : ℕ) (s : Signals ι κ) (e : SignalEvent ι κ) (h : s.Safe) :
    (s.step capacity e).Safe := by
  have hsteps := s.step_steps capacity e
  generalize s.step capacity e = s' at hsteps
  cases hsteps with
  | start i hat =>
    exact h.set i ((h.fits i).moves (by rw [hat]; rfl) (by simp) (by simp [Goroutine.announces])
      (by simp)) id
  | child i e o hchild => exact h.set i ((h.fits i).stays rfl rfl) id
  | poll i => exact h.set i ((h.fits i).stays rfl rfl) id
  | line i n text o hat hscan =>
    refine h.set i ((h.fits i).moves ?_ ?_ ?_ ?_) id <;> cases isReadiness text <;>
      simp [hat, Goroutine.locked, Goroutine.announces]
  | more i n o hat hscan => exact h.set i ((h.fits i).stays rfl rfl) id
  | stopped i n o hat hscan =>
    exact h.set i ((h.fits i).moves (by rw [hat]; rfl) (by simp) (by simp [Goroutine.announces])
      (by simp)) id
  | checkAttempt i hat =>
    refine h.set i ((h.fits i).moves ?_ ?_ ?_ ?_) id <;>
      cases hready : (s.attempts i).attemptReady <;>
      simp [hat, Goroutine.locked, Goroutine.announces]
  | closeAttempt i hat hopen =>
    exact h.set i ((h.fits i).moves (by rw [hat]; rfl) (by simp) (fun _ => rfl) (by simp))
      (fun _ => rfl)
  | lock i hat hfree =>
    have hready := (h.fits i).announced (by rw [hat]; rfl)
    refine h.update i ⟨by simp [Goroutine.locked], by simp, fun _ => hready, by simp⟩ ?_
      (fun _ _ _ => id) id id .inl
    intro j hj
    simp [hfree, Ne.symm hj]
  | checkReady i hat =>
    have hready := (h.fits i).announced (by rw [hat]; rfl)
    refine h.set i ((h.fits i).moves ?_ ?_ (fun _ => hready) ?_) id <;>
      cases hr : s.ready <;> simp [hat, Goroutine.locked]
  | closeReady i hat hopen =>
    have hready := (h.fits i).announced (by rw [hat]; rfl)
    have hheld := (h.fits i).mutex.mp (by rw [hat]; rfl)
    refine h.update i ⟨iff_of_true rfl hheld, by simp, fun _ => hready, by simp⟩
      (fun _ _ => Iff.rfl) ?_ id (fun _ => rfl) (fun _ => .inr hready)
    -- no other attempt holds the mutex, so none is about to close `m.ready`
    intro j hj hother
    rw [hheld] at hother
    exact absurd (Sum.inl.inj (Option.some.inj hother)).symm hj
  | unlock i hat =>
    have hheld := (h.fits i).mutex.mp (by rw [hat]; rfl)
    refine h.update i ⟨by simp [Goroutine.locked], by simp, by simp [Goroutine.announces], by simp⟩
      ?_ (fun _ _ _ => id) id id .inl
    intro j hj
    simp [hheld, Ne.symm hj]
  | panicAttempt i hat hclosed => simp [(h.fits i).own hat] at hclosed
  | panicReady i hat hclosed => simp [(h.fits i).unclosed hat] at hclosed
  | callLocks k hfree => exact h.setMu fun i => by simp [hfree]
  | callUnlocks k hheld => exact h.setMu fun i => by simp [hheld]
  | returns k hready => exact ⟨h.running, h.fits, h.closed, fun _ _ => hready⟩
  | expires k =>
    refine ⟨h.running, h.fits, h.closed, fun k' hk' => ?_⟩
    by_cases hk : k' = k
    · subst hk
      simp at hk'
    · apply h.called k'
      simpa [hk] using hk'
  | nothing => exact h

/-- A channel that is closed stays closed. -/
theorem ready_step (capacity : ℕ) (s : Signals ι κ) (e : SignalEvent ι κ) (h : s.ready = true) :
    (s.step capacity e).ready = true := by
  have hsteps := s.step_steps capacity e
  generalize s.step capacity e = s' at hsteps
  cases hsteps <;> first | exact h | rfl

end Signals

/-- A child whose attempt is announced has printed a readiness line. -/
theorem Drain.Consistent.printed {d : Drain} (h : d.Consistent) (hready : d.attemptReady = true) :
    ∃ line ∈ Go.lines d.stdout.written, isReadiness line = true := by
  rw [h.ready, List.any_eq_true] at hready
  obtain ⟨line, hmem, hline⟩ := hready
  obtain ⟨line', hmem', hpre⟩ := Go.mem_lines_append hmem
    (d.stdout.scanner.data ++ (d.stdout.pipe ++ d.stdout.lost))
  exact ⟨line', by rw [h.stdout.written]; exact hmem', isReadiness_of_isPrefix hpre hline⟩

/-- **Readiness signalling is safe**: in every run no channel is closed twice, the channel of the
manager stays closed once it is, and `WaitReady` returns nil only if the child of some attempt has
printed the readiness line. -/
theorem readiness_signalling_safe {ι κ : Type} [DecidableEq ι] [DecidableEq κ] (capacity : ℕ)
    (es : List (SignalEvent ι κ)) :
    (Machine.run (Signals.step capacity) {} es).panicked = false ∧
    ((Machine.run (Signals.step capacity) {} es).ready = true → ∀ es',
      (Machine.run (Signals.step capacity) {} (es ++ es')).ready = true) ∧
    ∀ k, (Machine.run (Signals.step capacity) {} es).calls k = .ready →
      ∃ i, ∃ line ∈ Go.lines
        ((Machine.run (Signals.step capacity) {} es).attempts i).stdout.written,
        isReadiness line = true := by
  have hsafe := Machine.run_invariant (Signals.safe_step capacity) es {} .init
  refine ⟨hsafe.running, fun hready es' => ?_, fun k hk => ?_⟩
  · rw [Machine.run_append]
    exact Machine.run_invariant (Signals.ready_step capacity) es' _ hready
  · obtain ⟨i, hi⟩ := hsafe.closed (hsafe.called k hk)
    obtain ⟨ds, hds⟩ := Signals.attempt_run capacity es i
    have hstep : ∀ (d : Drain) (e : DrainEvent), d.Consistent → (d.step capacity e).Consistent :=
      fun _ e h => h.step capacity e
    have hcons := Machine.run_invariant hstep ds {} .init
    rw [← hds] at hcons
    refine ⟨i, hcons.printed ?_⟩
    show ((Machine.run (Signals.step capacity) {} es).attempts i).drain.attemptReady = true
    rw [Forward.drain, hi, Bool.true_or]

end Pforward
