import SubstrateControl.Kit.Backoff
import SubstrateControl.Kit.Machine

/-!
# The supervision loop of the port-forward

Model of `Manager` (`internal/pforward/pforward.go`) as seen from its loop: `Start`, `Stop` and
`run`, with what each call of `runOnce` comes to.  `Start` is called once.

* `Manager` — the loop with its backoff, and what it has done: the outcomes of the attempts, the
  retries it announced, the processes it started.
* `step` — the loop takes one step, or its surroundings do: an attempt that runs may end at any
  time, and either branch of a `select` is taken whose channel is ready.
* `Paced` — the invariant: the backoff is the delay due after the next attempt that fails.
* `supervised` — the delays follow the law of capped doubling, and a cancelled loop returns without
  starting another process.
-/

set_option autoImplicit false

namespace Pforward

open Kit

/-- `time.Duration`, in nanoseconds. -/
abbrev Duration := Int64

def initialBackoff : Duration := 500 * 1000000

def maxBackoff : Duration := 10 * 1000000000

/-- The errors of `runOnce`, with what each wraps; `context` is `ctx.Err()`. -/
inductive AttemptError where
  | stdoutPipe (err : String)
  | start (err : String)
  | startContext
  | context
  | exited (err : Option String) (stderr : String)
  deriving DecidableEq, Repr

/-- Where the loop stands. -/
inductive Phase where
  /-- `Start` has not been called. -/
  | idle
  /-- About to start the process of an attempt. -/
  | attempting
  /-- Waiting for the process to exit. -/
  | running
  /-- `runOnce` has returned. -/
  | finished (ready : Bool) (err : AttemptError)
  /-- In the `select` between cancellation and the timer. -/
  | waiting
  | returned
  deriving DecidableEq, Repr

/-- The record logged before a wait; the wait is for `retryIn`. -/
structure Retry where
  error : AttemptError
  retryIn : Duration
  deriving DecidableEq, Repr

structure Manager where
  /-- The context given to `Start` is done. -/
  parentDone : Bool := false
  /-- The function in `cancel` has been called. -/
  cancelled : Bool := false
  /-- `cancel` has been set. -/
  cancel : Bool := false
  phase : Phase := .idle
  backoff : Duration := initialBackoff
  /-- Whether each attempt so far was ready. -/
  outcomes : List Bool := []
  retries : List Retry := []
  /-- The number of processes started. -/
  spawned : ℕ := 0
  deriving DecidableEq, Repr

inductive Event where
  /-- `Start`; only the first call counts. -/
  | start
  | stop
  /-- The context given to `Start` is cancelled, or expires. -/
  | cancelContext
  | pipeFails (err : String)
  /-- `cmd.Start`, with its error when it fails. -/
  | spawn (failure : Option String)
  /-- `cmd.Wait` returns, with its error; `runOnce` has found the attempt ready or not. -/
  | exits (ready : Bool) (err : Option String) (stderr : String)
  /-- The loop looks at what `runOnce` returned. -/
  | check
  /-- The branch of the timer. -/
  | timer
  /-- The branch of the context. -/
  | done
  deriving DecidableEq, Repr

namespace Manager

/-- `ctx.Err() != nil`, for the context of the loop. -/
def ctxDone (m : Manager) : Bool := m.parentDone || m.cancelled

/-- `runOnce` returns. -/
def finish (m : Manager) (ready : Bool) (err : AttemptError) : Manager :=
  { m with phase := .finished ready err, outcomes := m.outcomes ++ [ready] }

/-- The backoff an attempt leaves behind. -/
def retryIn (m : Manager) (ready : Bool) : Duration := if ready then initialBackoff else m.backoff

/-- The backoff doubled, up to the maximum. -/
def doubled (backoff : Duration) : Duration :=
  if backoff * 2 > maxBackoff then maxBackoff else backoff * 2

def step (m : Manager) : Event → Manager
  | .start => if m.phase = .idle then { m with cancel := true, phase := .attempting } else m
  | .stop => if m.cancel then { m with cancelled := true } else m
  | .cancelContext => { m with parentDone := true }
  | .pipeFails err => if m.phase = .attempting then m.finish false (.stdoutPipe err) else m
  | .spawn failure =>
    if m.phase = .attempting then
      if m.ctxDone then m.finish false .startContext
      else
        match failure with
        | some err => m.finish false (.start err)
        | none => { m with phase := .running, spawned := m.spawned + 1 }
    else m
  | .exits ready err stderr =>
    if m.phase = .running then
      m.finish ready (if m.ctxDone then .context else .exited err stderr)
    else m
  | .check =>
    match m.phase with
    | .finished ready err =>
      if m.ctxDone then { m with phase := .returned }
      else
        { m with
          phase := .waiting
          backoff := m.retryIn ready
          retries := m.retries ++ [⟨err, m.retryIn ready⟩] }
    | _ => m
  | .timer =>
    if m.phase = .waiting then { m with phase := .attempting, backoff := doubled m.backoff } else m
  | .done => if m.phase = .waiting ∧ m.ctxDone then { m with phase := .returned } else m

/-- The event takes the loop a step further. -/
def moves (m : Manager) (e : Event) : Bool := (m.step e).phase != m.phase

end Manager

/-- The delay due after the outcomes `os`. -/
def due (os : List Bool) : Int :=
  Backoff.delay initialBackoff.toInt maxBackoff.toInt (Backoff.since os)

theorem due_le (os : List Bool) : due os ≤ 10000000000 := Backoff.delay_le _ _ _

theorem le_due (os : List Bool) : 500000000 ≤ due os :=
  Backoff.le_delay (by decide) (by decide) _

theorem due_of_since_eq_zero {os : List Bool} (h : Backoff.since os = 0) :
    due os = initialBackoff.toInt := by
  rw [due, h]
  exact Backoff.delay_zero (by decide)

/-- Within the bounds the multiplication does not wrap around. -/
theorem mul_two_toInt {b : Duration} (h0 : 0 ≤ b.toInt) (hle : b.toInt ≤ 10000000000) :
    (b * 2).toInt = b.toInt * 2 := by
  rw [Int64.toInt_mul]
  show (b.toInt * 2).bmod (2 ^ 64) = b.toInt * 2
  exact Int.bmod_eq_of_le (by omega) (by omega)

theorem doubled_toInt {b : Duration} {os : List Bool} (hb : b.toInt = due os) (hne : os ≠ []) :
    (Manager.doubled b).toInt = due (os ++ [false]) := by
  have hmul : (b * 2).toInt = b.toInt * 2 :=
    mul_two_toInt (by have := le_due os; omega) (by have := due_le os; omega)
  have hsucc : due (os ++ [false]) = min maxBackoff.toInt (due os * 2) := by
    rw [due, Backoff.since_failure hne]
    exact (Backoff.delay_succ (by decide) _).symm
  rw [hsucc, ← hb, ← hmul, Manager.doubled]
  by_cases hgt : b * 2 > maxBackoff
  · have hlt : maxBackoff.toInt < (b * 2).toInt := Int64.lt_iff_toInt_lt.mp hgt
    rw [if_pos hgt, min_eq_left hlt.le]
  · have hle : (b * 2).toInt ≤ maxBackoff.toInt := by
      rw [← not_lt]
      exact fun hlt => hgt (Int64.lt_iff_toInt_lt.mpr hlt)
    rw [if_neg hgt, min_eq_right hle]

/-! ## The pace of the loop -/

/-- What the backoff stands for where the loop is, and how many retries it has announced. -/
def Manager.PhaseDue (m : Manager) : Prop :=
  match m.phase with
  | .idle | .attempting | .running =>
    m.retries.length = m.outcomes.length ∧ m.backoff.toInt = due (m.outcomes ++ [false])
  | .finished ready _ => ∃ os, m.outcomes = os ++ [ready] ∧ m.retries.length = os.length ∧
      m.backoff.toInt = due (os ++ [false])
  | .waiting => m.outcomes ≠ [] ∧ m.retries.length = m.outcomes.length ∧
      m.backoff.toInt = due m.outcomes
  | .returned => m.retries.length ≤ m.outcomes.length ∧
      m.outcomes.length ≤ m.retries.length + 1 ∧ ∃ os, m.backoff.toInt = due os

structure Paced (m : Manager) : Prop where
  retries : ∀ i r, m.retries[i]? = some r → r.retryIn.toInt = due (m.outcomes.take (i + 1))
  phase : m.PhaseDue

theorem Paced.init : Paced {} where
  retries i r h := by cases h
  phase := ⟨rfl, rfl⟩

/-- One more outcome leaves the delays of the earlier ones alone. -/
theorem Paced.retries_append {m : Manager} (h : Paced m)
    (hlen : m.retries.length = m.outcomes.length) (ready : Bool) (i : ℕ) (r : Retry)
    (hr : m.retries[i]? = some r) :
    r.retryIn.toInt = due ((m.outcomes ++ [ready]).take (i + 1)) := by
  have hi : i < m.retries.length := (List.getElem?_eq_some_iff.mp hr).1
  rw [List.take_append_of_le_length (by omega)]
  exact h.retries i r hr

/-- Up to the end of an attempt the backoff is what its failure will call for. -/
theorem Paced.unfinished {m : Manager} (h : Paced m)
    (hm : m.phase = .idle ∨ m.phase = .attempting ∨ m.phase = .running) :
    m.retries.length = m.outcomes.length ∧ m.backoff.toInt = due (m.outcomes ++ [false]) := by
  have hdue := h.phase
  unfold Manager.PhaseDue at hdue
  rcases hm with hm | hm | hm <;> rw [hm] at hdue <;> exact hdue

theorem Paced.finish {m : Manager} (h : Paced m) (hm : m.phase = .attempting ∨ m.phase = .running)
    (ready : Bool) (err : AttemptError) : Paced (m.finish ready err) := by
  have hphase := h.unfinished (.inr hm)
  exact ⟨fun i r => h.retries_append hphase.1 ready i r, m.outcomes, rfl, hphase⟩

/-- The delay announced is the one due after the outcomes up to this attempt. -/
theorem Paced.check {m : Manager} (h : Paced m) {ready : Bool} {err : AttemptError}
    (hm : m.phase = .finished ready err) :
    Paced { m with
      phase := .waiting
      backoff := m.retryIn ready
      retries := m.retries ++ [⟨err, m.retryIn ready⟩] } := by
  have hdue := h.phase
  unfold Manager.PhaseDue at hdue
  rw [hm] at hdue
  obtain ⟨os, hos, hlen, hback⟩ := hdue
  have hnext : (m.retryIn ready).toInt = due m.outcomes := by
    rw [hos]
    cases ready with
    | true => exact (due_of_since_eq_zero (Backoff.since_success os)).symm
    | false => exact hback
  constructor
  · intro i r hr
    rcases Nat.lt_or_ge i m.retries.length with hi | hi
    · rw [List.getElem?_append_left hi] at hr
      exact h.retries i r hr
    · rw [List.getElem?_append_right hi, List.getElem?_singleton] at hr
      split at hr
      · cases hr
        rw [List.take_of_length_le (by rw [hos]; simp; omega)]
        exact hnext
      · cases hr
  · refine ⟨by simp [hos], ?_, hnext⟩
    simp [hos, hlen]

theorem Paced.timer {m : Manager} (h : Paced m) (hm : m.phase = .waiting) :
    Paced { m with phase := .attempting, backoff := Manager.doubled m.backoff } := by
  have hdue := h.phase
  unfold Manager.PhaseDue at hdue
  rw [hm] at hdue
  obtain ⟨hne, hlen, hback⟩ := hdue
  exact ⟨h.retries, hlen, doubled_toInt hback hne⟩

/-- Whatever the phase, the backoff is the delay due after some outcomes. -/
theorem Paced.exists_due {m : Manager} (h : Paced m) : ∃ os, m.backoff.toInt = due os := by
  have hdue := h.phase
  unfold Manager.PhaseDue at hdue
  split at hdue
  · exact ⟨_, hdue.2⟩
  · exact ⟨_, hdue.2⟩
  · exact ⟨_, hdue.2⟩
  · obtain ⟨os, _, _, hback⟩ := hdue
    exact ⟨_, hback⟩
  · exact ⟨_, hdue.2.2⟩
  · exact hdue.2.2

theorem Paced.aligned {m : Manager} (h : Paced m) :
    m.retries.length ≤ m.outcomes.length ∧ m.outcomes.length ≤ m.retries.length + 1 := by
  have hdue := h.phase
  unfold Manager.PhaseDue at hdue
  split at hdue
  · exact ⟨hdue.1.le, by omega⟩
  · exact ⟨hdue.1.le, by omega⟩
  · exact ⟨hdue.1.le, by omega⟩
  · obtain ⟨os, hos, hlen, _⟩ := hdue
    rw [hos, List.length_append, hlen]
    simp
  · exact ⟨hdue.2.1.le, by omega⟩
  · exact ⟨hdue.1, hdue.2.1⟩

theorem Paced.returned {m : Manager} (h : Paced m) : Paced { m with phase := .returned } :=
  ⟨h.retries, h.aligned.1, h.aligned.2, h.exists_due⟩

/-- Starting the loop or its process leaves the account as it is. -/
theorem Paced.advance {m : Manager} (h : Paced m) (hm : m.phase = .idle ∨ m.phase = .attempting)
    {m' : Manager} (hm' : m'.phase = .attempting ∨ m'.phase = .running)
    (hout : m'.outcomes = m.outcomes) (hret : m'.retries = m.retries)
    (hback : m'.backoff = m.backoff) : Paced m' := by
  have hphase := h.unfinished (hm.imp_right .inl)
  constructor
  · rw [hout, hret]
    exact h.retries
  · unfold Manager.PhaseDue
    rw [hout, hret, hback]
    rcases hm' with hm' | hm' <;> rw [hm'] <;> exact hphase

theorem paced_step (m : Manager) (e : Event) (h : Paced m) : Paced (m.step e) := by
  cases e with
  | start =>
    simp only [Manager.step]
    split
    · rename_i hm
      exact h.advance (.inl hm) (.inl rfl) rfl rfl rfl
    · exact h
  | stop =>
    simp only [Manager.step]
    split
    · exact ⟨h.retries, h.phase⟩
    · exact h
  | cancelContext => exact ⟨h.retries, h.phase⟩
  | pipeFails err =>
    simp only [Manager.step]
    split
    · rename_i hm
      exact h.finish (.inl hm) _ _
    · exact h
  | spawn failure =>
    simp only [Manager.step]
    split
    · rename_i hm
      split
      · exact h.finish (.inl hm) _ _
      · cases failure with
        | some err => exact h.finish (.inl hm) _ _
        | none => exact h.advance (.inr hm) (.inr rfl) rfl rfl rfl
    · exact h
  | exits ready err stderr =>
    simp only [Manager.step]
    split
    · rename_i hm
      exact h.finish (.inr hm) _ _
    · exact h
  | check =>
    simp only [Manager.step]
    split
    · rename_i hm
      split
      · exact h.returned
      · exact h.check hm
    · exact h
  | timer =>
    simp only [Manager.step]
    split
    · rename_i hm
      exact h.timer hm
    · exact h
  | done =>
    simp only [Manager.step]
    split
    · exact h.returned
    · exact h

/-! ## Cancellation -/

/-- How many steps a loop with a done context is from its return, at most. -/
def Phase.rank : Phase → ℕ
  | .idle => 3
  | .waiting => 3
  | .attempting => 2
  | .running => 2
  | .finished _ _ => 1
  | .returned => 0

/-- With its context done, the loop starts no process, and each step it takes brings it nearer to
its return. -/
structure Winding (m m' : Manager) : Prop where
  ctxDone : m'.ctxDone = true
  spawned : m'.spawned = m.spawned
  rank : (m'.phase != m.phase).toNat + m'.phase.rank ≤ m.phase.rank

theorem Winding.of_lt {m m' : Manager} (hdone : m'.ctxDone = true)
    (hspawned : m'.spawned = m.spawned)
    (hlt : m'.phase.rank < m.phase.rank) : Winding m m' := by
  have hone := Bool.toNat_le (m'.phase != m.phase)
  exact ⟨hdone, hspawned, by omega⟩

theorem Winding.of_eq {m m' : Manager} (hdone : m'.ctxDone = true)
    (hspawned : m'.spawned = m.spawned)
    (heq : m'.phase = m.phase) : Winding m m' :=
  ⟨hdone, hspawned, by simp [heq]⟩

theorem winding_step {m : Manager} (h : m.ctxDone = true) (e : Event) : Winding m (m.step e) := by
  have hstay : Winding m m := .of_eq h rfl rfl
  cases e with
  | start =>
    simp only [Manager.step]
    split
    · rename_i hm
      exact .of_lt h rfl (by rw [hm]; show 2 < 3; omega)
    · exact hstay
  | stop =>
    simp only [Manager.step]
    split
    · exact .of_eq (Bool.or_true _) rfl rfl
    · exact hstay
  | cancelContext => exact .of_eq (Bool.true_or _) rfl rfl
  | pipeFails err =>
    simp only [Manager.step]
    split
    · rename_i hm
      exact .of_lt h rfl (by rw [hm]; show 1 < 2; omega)
    · exact hstay
  | spawn failure =>
    simp only [Manager.step]
    split
    · rename_i hm
      -- the command refuses to start
      exact .of_lt h rfl (by rw [hm]; show 1 < 2; omega)
    · exact hstay
  | exits ready err stderr =>
    simp only [Manager.step]
    split
    · rename_i hm
      exact .of_lt h rfl (by rw [hm]; show 1 < 2; omega)
    · exact hstay
  | check =>
    simp only [Manager.step]
    split
    · rename_i hm
      rw [if_pos h]
      exact .of_lt h rfl (by rw [hm]; show 0 < 1; omega)
    · exact hstay
  | timer =>
    -- the timer may win the `select`; the loop then comes to `spawn` once more
    simp only [Manager.step]
    split
    · rename_i hm
      exact .of_lt h rfl (by rw [hm]; show 2 < 3; omega)
    · exact hstay
  | done =>
    simp only [Manager.step]
    split
    · rename_i hm
      exact .of_lt h rfl (by rw [hm.1]; show 0 < 3; omega)
    · exact hstay

/-- Before its return a loop with a done context can always go on. -/
theorem returned_of_stuck {m : Manager} (h : m.ctxDone = true)
    (hstuck : ∀ e, m.moves e = false) : m.phase = .returned := by
  have hsame : ∀ e, (m.step e).phase = m.phase := fun e => by simpa [Manager.moves] using hstuck e
  cases hm : m.phase with
  | idle => simpa [Manager.step, hm] using hsame .start
  | attempting => simpa [Manager.step, hm, h, Manager.finish] using hsame (.spawn none)
  | running => simpa [Manager.step, hm, Manager.finish] using hsame (.exits false none "")
  | finished ready err => simpa [Manager.step, hm, h] using hsame .check
  | waiting => simpa [Manager.step, hm, h] using hsame .done
  | returned => rfl

/-- `e`, after the events `es`, ends the supervision: the context is cancelled, or `Stop` is called
after `Start`. -/
def Ends (es : List Event) : Event → Prop
  | .cancelContext => True
  | .stop => .start ∈ es
  | _ => False

theorem cancel_step {m : Manager} (e : Event) (h : m.cancel = true) : (m.step e).cancel = true := by
  cases e <;> simp only [Manager.step] <;> (repeat' split) <;> first | exact h | rfl

theorem cancel_of_started {m : Manager} (e : Event) (h : m.phase ≠ .idle → m.cancel = true) :
    (m.step e).phase ≠ .idle → (m.step e).cancel = true := by
  intro hne
  by_cases hm : m.phase = .idle
  · cases e with
    | start => rw [Manager.step, if_pos hm]
    | stop => exact absurd (by rw [Manager.step]; split <;> exact hm) hne
    | _ => exact absurd (by simp [Manager.step, hm]) hne
  · exact cancel_step e (h hm)

/-- Once `Start` has been called there is something for `Stop` to call. -/
theorem cancel_run {es : List Event} (h : .start ∈ es) :
    (Machine.run Manager.step {} es).cancel = true := by
  obtain ⟨before, after, rfl⟩ := List.append_of_mem h
  rw [Machine.run_append, Machine.run_cons]
  have hbefore : (Machine.run Manager.step {} before).phase ≠ .idle →
      (Machine.run Manager.step {} before).cancel = true :=
    @Machine.run_invariant _ _ _ (fun m : Manager => m.phase ≠ .idle → m.cancel = true)
      (fun _ e => cancel_of_started e) before {} (fun hne => absurd rfl hne)
  refine @Machine.run_invariant _ _ _ (fun m : Manager => m.cancel = true)
    (fun _ e => cancel_step e) after _ ?_
  simp only [Manager.step]
  split
  · rfl
  · rename_i hm
    exact hbefore hm

theorem ctxDone_of_ends {es : List Event} {e : Event} (h : Ends es e) :
    (Machine.run Manager.step {} (es ++ [e])).ctxDone = true := by
  rw [Machine.run_append, Machine.run_cons, Machine.run_nil]
  cases e with
  | cancelContext => exact Bool.true_or _
  | stop =>
    rw [Manager.step, if_pos (cancel_run h)]
    exact Bool.or_true _
  | _ => exact h.elim

/-! ## The loop -/

/-- A step to the return is taken with the context done only. -/
theorem returned_of_step {m : Manager} (e : Event) (h : (m.step e).phase = .returned) :
    m.phase = .returned ∨ m.ctxDone = true := by
  cases e with
  | start | pipeFails err | exits ready err stderr | timer =>
    simp only [Manager.step] at h
    split at h
    · cases h
    · exact .inl h
  | stop =>
    simp only [Manager.step] at h
    split at h <;> exact .inl h
  | cancelContext => exact .inl h
  | spawn failure =>
    simp only [Manager.step] at h
    split at h
    · split at h
      · cases h
      · cases failure <;> cases h
    · exact .inl h
  | check =>
    simp only [Manager.step] at h
    split at h
    · split at h
      · rename_i hdone
        exact .inr hdone
      · cases h
    · exact .inl h
  | done =>
    simp only [Manager.step] at h
    split at h
    · rename_i hm
      exact .inr hm.2
    · exact .inl h

theorem returned_step (m : Manager) (e : Event) (h : m.phase = .returned → m.ctxDone = true) :
    (m.step e).phase = .returned → (m.step e).ctxDone = true := by
  intro hreturned
  have hdone : m.ctxDone = true := (returned_of_step e hreturned).elim h id
  exact (winding_step hdone e).ctxDone

/-- The delays announced so far, and the bounds of the backoff.  Under a live context every attempt
that has finished has its retry announced, the last one when the loop looks at it; the loop returns
with its context done only. -/
structure KeepsPace (m : Manager) : Prop where
  law : ∀ i r, m.retries[i]? = some r → r.retryIn.toInt =
    min 10000000000 (500000000 * 2 ^ Backoff.since (m.outcomes.take (i + 1)))
  aligned : m.retries.length ≤ m.outcomes.length ∧ m.outcomes.length ≤ m.retries.length + 1
  announced : m.ctxDone = false → m.retries.length = m.outcomes.length ∨
    (∃ ready err, m.phase = .finished ready err) ∧
      (m.step .check).phase = .waiting ∧ (m.step .check).retries.length = m.outcomes.length
  returned : m.phase = .returned → m.ctxDone = true
  bounds : 500000000 ≤ m.backoff.toInt ∧ m.backoff.toInt ≤ 10000000000
  no_overflow : (m.backoff * 2).toInt = m.backoff.toInt * 2

theorem Paced.announced {m : Manager} (h : Paced m)
    (hreturned : m.phase = .returned → m.ctxDone = true) (hlive : m.ctxDone = false) :
    m.retries.length = m.outcomes.length ∨ (∃ ready err, m.phase = .finished ready err) ∧
      (m.step .check).phase = .waiting ∧ (m.step .check).retries.length = m.outcomes.length := by
  have hdue := h.phase
  unfold Manager.PhaseDue at hdue
  cases hm : m.phase with
  | idle | attempting | running =>
    rw [hm] at hdue
    exact .inl hdue.1
  | waiting =>
    rw [hm] at hdue
    exact .inl hdue.2.1
  | finished ready err =>
    rw [hm] at hdue
    obtain ⟨os, hos, hlen, -⟩ := hdue
    right
    refine ⟨⟨ready, err, rfl⟩, ?_⟩
    simp [Manager.step, hm, hlive, hos, hlen]
  | returned =>
    rw [hreturned hm] at hlive
    cases hlive

theorem Paced.keepsPace {m : Manager} (h : Paced m)
    (hreturned : m.phase = .returned → m.ctxDone = true) : KeepsPace m := by
  obtain ⟨os, hos⟩ := h.exists_due
  have hlow := le_due os
  have hhigh := due_le os
  exact ⟨h.retries, h.aligned, h.announced hreturned, hreturned, ⟨by omega, by omega⟩,
    mul_two_toInt (by omega) (by omega)⟩

/-- What a loop in state `m` does under `es`, its context being done: nothing is started, at most
three steps are taken, and where none is left to take it has returned. -/
structure WindsUp (m : Manager) (es : List Event) : Prop where
  spawned : (Machine.run Manager.step m es).spawned = m.spawned
  steps : Machine.count Manager.moves Manager.step m es ≤ 3
  returned : (∀ e, (Machine.run Manager.step m es).moves e = false) →
    (Machine.run Manager.step m es).phase = .returned

theorem windsUp_of_ctxDone {m : Manager} (h : m.ctxDone = true) (es : List Event) :
    WindsUp m es := by
  have hkeep : ∀ (s : Manager) (e : Event), s.ctxDone = true → (s.step e).ctxDone = true :=
    fun _ e hs => (winding_step hs e).ctxDone
  constructor
  · refine (@Machine.run_invariant _ _ _
      (fun s : Manager => s.ctxDone = true ∧ s.spawned = m.spawned) (fun s e hs => ?_) es m
      ⟨h, rfl⟩).2
    have hwind := winding_step hs.1 e
    exact ⟨hwind.ctxDone, hwind.spawned.trans hs.2⟩
  · have hcount := @Machine.count_le_rank _ _ Manager.step (fun s => s.ctxDone = true)
      Manager.moves (fun s => s.phase.rank) hkeep (fun s e hs => (winding_step hs e).rank) es m h
    have hrank : m.phase.rank ≤ 3 := by cases m.phase <;> simp [Phase.rank]
    omega
  · exact returned_of_stuck (Machine.run_invariant hkeep es m h)

/-- **The supervision loop keeps its pace and stops when told**, and not before. -/
theorem supervised :
    (∀ es, KeepsPace (Machine.run Manager.step {} es)) ∧
      ∀ es e, Ends es e → ∀ es', WindsUp (Machine.run Manager.step {} (es ++ [e])) es' := by
  refine ⟨fun es => ?_, fun _ _ hends es' => windsUp_of_ctxDone (ctxDone_of_ends hends) es'⟩
  have hpaced : Paced (Machine.run Manager.step {} es) :=
    Machine.run_invariant paced_step es {} .init
  exact hpaced.keepsPace (@Machine.run_invariant _ _ _
    (fun m : Manager => m.phase = .returned → m.ctxDone = true) returned_step es {} nofun)

-- a failing start, two attempts that are not ready, one that is, and one more failing start
example : (Machine.run Manager.step {} [.start, .spawn (some "not found"), .check, .timer,
    .spawn none, .exits false none "", .check, .timer, .spawn none, .exits false none "", .check,
    .timer, .spawn none, .exits true none "", .check, .timer, .spawn (some "not found"),
    .check]).retries.map (fun r => r.retryIn.toInt) =
      [500000000, 1000000000, 2000000000, 500000000, 1000000000] := by decide

end Pforward
