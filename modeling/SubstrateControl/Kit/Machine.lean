import Mathlib.Data.List.Basic

/-!
# Runs of event-driven machines

* `Machine.run step s es` — the state after a list of events; events that do not apply are the
  step function's business.
* `Machine.Along ok step s es` — every event of the run is `ok` in the state it meets.
* `Machine.Always P step s es` — every state of the run has `P`.
* `run_invariant`, `run_invariant_along` — the induction rules: what one step keeps, a run keeps.
* `Machine.count marked step s es` — how many steps of the run are `marked`; `count_le_rank` bounds
  them where each lowers a rank.
* `Machine.outputs emit step s es` — what the steps of the run emit; `log_eq_outputs`: a log that
  every step extends by what it emits is just that.
* `run_settles` — a rank that every step lowers until the machine is idle bounds the steps to that.
* `run_iff_along`, `always_iff_along` — the rules for a property that is lost, for good or at once,
  with the first step that is not admissible.
* `run_simulates` — where every step is matched by steps of another machine, every run is.
* `always_iff_run` — a property that is lost for good holds all along a run that ends with it.
-/

set_option autoImplicit false

namespace Kit

namespace Machine

variable {σ ε : Type}

/-- The state after `es`. -/
def run (step : σ → ε → σ) (s : σ) (es : List ε) : σ := es.foldl step s

/-- `ok` holds of each event in the state that event meets. -/
def Along (ok : σ → ε → Prop) (step : σ → ε → σ) : σ → List ε → Prop
  | _, [] => True
  | s, e :: es => ok s e ∧ Along ok step (step s e) es

/-- `P` holds in every state of the run. -/
def Always (P : σ → Prop) (step : σ → ε → σ) : σ → List ε → Prop
  | s, [] => P s
  | s, e :: es => P s ∧ Always P step (step s e) es

/-- How many steps of the run are `marked`. -/
def count (marked : σ → ε → Bool) (step : σ → ε → σ) : σ → List ε → ℕ
  | _, [] => 0
  | s, e :: es => (marked s e).toNat + count marked step (step s e) es

/-- What the steps of the run emit. -/
def outputs {ω : Type} (emit : σ → ε → Option ω) (step : σ → ε → σ) : σ → List ε → List ω
  | _, [] => []
  | s, e :: es => (emit s e).toList ++ outputs emit step (step s e) es

variable {step : σ → ε → σ} {ok : σ → ε → Prop} {Inv : σ → Prop}

@[simp] theorem run_nil (s : σ) : run step s [] = s := rfl

@[simp] theorem run_cons (s : σ) (e : ε) (es : List ε) :
    run step s (e :: es) = run step (step s e) es := rfl

theorem run_append (s : σ) (es es' : List ε) :
    run step s (es ++ es') = run step (run step s es) es' := List.foldl_append

/-- **What every step keeps, every run keeps.** -/
theorem run_invariant (hstep : ∀ s e, Inv s → Inv (step s e)) :
    ∀ (es : List ε) (s : σ), Inv s → Inv (run step s es)
  | [], _, h => h
  | e :: es, s, h => run_invariant hstep es (step s e) (hstep s e h)

/-- **What every admissible step keeps, every run of admissible steps keeps.** -/
theorem run_invariant_along (hstep : ∀ s e, ok s e → Inv s → Inv (step s e)) :
    ∀ (es : List ε) (s : σ), Along ok step s es → Inv s → Inv (run step s es)
  | [], _, _, h => h
  | e :: es, s, ⟨he, hes⟩, h => run_invariant_along hstep es (step s e) hes (hstep s e he h)

/-- **A rank that no step raises and every marked step lowers bounds the marked steps.** -/
theorem count_le_rank {marked : σ → ε → Bool} {rank : σ → ℕ}
    (hstep : ∀ s e, Inv s → Inv (step s e))
    (hrank : ∀ s e, Inv s → (marked s e).toNat + rank (step s e) ≤ rank s) :
    ∀ (es : List ε) (s : σ), Inv s → count marked step s es + rank (run step s es) ≤ rank s
  | [], s, _ => by simp [count]
  | e :: es, s, h => by
    have hhead := hrank s e h
    have htail := count_le_rank hstep hrank es (step s e) (hstep s e h)
    rw [count, run_cons]
    omega

/-- **A log that every step extends by what it emits** holds what the run emitted, the newest
first. -/
theorem log_eq_outputs {ω : Type} {emit : σ → ε → Option ω} (log : σ → List ω)
    (hstep : ∀ s e, log (step s e) = (emit s e).toList ++ log s) :
    ∀ (es : List ε) (s : σ),
      log (run step s es) = (outputs emit step s es).reverse ++ log s
  | [], _ => rfl
  | e :: es, s => by
    have hone : (emit s e).toList.reverse = (emit s e).toList := by cases emit s e <;> rfl
    rw [run_cons, log_eq_outputs log hstep es, hstep, outputs, List.reverse_append, hone,
      List.append_assoc]

/-- **A machine is idle after more steps than its rank**, where a step lowers the rank of a state
that is not idle. -/
theorem run_settles {Idle : σ → Prop} {rank : σ → ℕ} (hstep : ∀ s e, Inv s → Inv (step s e))
    (hidle : ∀ s e, Inv s → Idle s → Idle (step s e))
    (hrank : ∀ s e, Inv s → ¬ Idle s → rank (step s e) < rank s) :
    ∀ (es : List ε) (s : σ), Inv s → rank s < es.length → Idle (run step s es)
  | [], s, _, hlong => absurd hlong (Nat.not_lt_zero _)
  | e :: es, s, h, hlong => by
    rw [run_cons]
    by_cases hs : Idle s
    · have hkeep : ∀ s e, Inv s ∧ Idle s → Inv (step s e) ∧ Idle (step s e) :=
        fun s e h => ⟨hstep s e h.1, hidle s e h.1 h.2⟩
      exact (run_invariant hkeep es _ ⟨hstep s e h, hidle s e h hs⟩).2
    · apply run_settles hstep hidle hrank es _ (hstep s e h)
      have hlower := hrank s e h hs
      rw [List.length_cons] at hlong
      omega

/-- **A run is good exactly when all its steps are admissible**, where another step leads to a state
that is bad for good. -/
theorem run_iff_along {Good Bad : σ → Prop} (hgood : ∀ s e, ok s e → Good s → Good (step s e))
    (hbad : ∀ s e, Good s → ¬ ok s e → Bad (step s e)) (hkeep : ∀ s e, Bad s → Bad (step s e))
    (hne : ∀ s, Good s → ¬ Bad s) :
    ∀ (es : List ε) (s : σ), Good s → (Good (run step s es) ↔ Along ok step s es)
  | [], _, h => iff_of_true h trivial
  | e :: es, s, h => by
    rw [run_cons, Along]
    by_cases he : ok s e
    · rw [run_iff_along hgood hbad hkeep hne es (step s e) (hgood s e he h)]
      exact (and_iff_right he).symm
    · have hlast : Bad (run step (step s e) es) := run_invariant hkeep es _ (hbad s e h he)
      exact iff_of_false (fun hrun => hne _ hrun hlast) (fun hall => he hall.1)

/-- **A simulation of steps is one of runs.** -/
theorem run_simulates {τ δ : Type} {step' : τ → δ → τ} {abs : σ → τ}
    (hsim : ∀ s e, ∃ ds, abs (step s e) = run step' (abs s) ds) :
    ∀ (es : List ε) (s : σ), ∃ ds, abs (run step s es) = run step' (abs s) ds
  | [], _ => ⟨[], rfl⟩
  | e :: es, s => by
    obtain ⟨ds, hds⟩ := hsim s e
    obtain ⟨ds', hds'⟩ := run_simulates hsim es (step s e)
    exact ⟨ds ++ ds', by rw [run_cons, hds', hds, run_append]⟩

theorem always_head {P : σ → Prop} : ∀ {es : List ε} {s : σ}, Always P step s es → P s
  | [], _, h => h
  | _ :: _, _, h => h.1

/-- **A property holds all along a run exactly when all its steps are admissible**, where another
step breaks it at once. -/
theorem always_iff_along {P : σ → Prop} (hsafe : ∀ s, Inv s → P s)
    (hstep : ∀ s e, ok s e → Inv s → Inv (step s e))
    (hbreak : ∀ s e, Inv s → ¬ ok s e → ¬ P (step s e)) :
    ∀ (es : List ε) (s : σ), Inv s → (Always P step s es ↔ Along ok step s es)
  | [], s, h => iff_of_true (hsafe s h) trivial
  | e :: es, s, h => by
    rw [Always, Along, and_iff_right (hsafe s h)]
    by_cases he : ok s e
    · rw [always_iff_along hsafe hstep hbreak es (step s e) (hstep s e he h)]
      exact (and_iff_right he).symm
    · exact iff_of_false (fun hrun => hbreak s e h he (always_head hrun)) (fun hall => he hall.1)

/-- **A property that is lost for good holds all along a run exactly when it holds at its end.** -/
theorem always_iff_run {P : σ → Prop} (hstep : ∀ s e, Inv s → Inv (step s e))
    (hlost : ∀ s e, Inv s → P (step s e) → P s) :
    ∀ (es : List ε) (s : σ), Inv s → (Always P step s es ↔ P (run step s es))
  | [], _, _ => Iff.rfl
  | e :: es, s, h => by
    rw [run_cons, Always, always_iff_run hstep hlost es _ (hstep s e h)]
    refine ⟨And.right, fun hlast => ⟨?_, hlast⟩⟩
    have hnext : Always P step (step s e) es :=
      (always_iff_run hstep hlost es _ (hstep s e h)).mpr hlast
    exact hlost s e h (always_head hnext)

end Machine

end Kit
