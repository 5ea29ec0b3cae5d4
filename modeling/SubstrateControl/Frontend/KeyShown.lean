import SubstrateControl.Frontend.GenerateKeyDialog

/-!
# Keys that are shown

A key is returned once, so that it has to be displayed before the dialog lets go of it.

* `Viewed`, `observe` — the dialog with what was displayed of its key, and the keys it let go of
  undisplayed.
* `KeysShown` — no key is lost, and the one in the dialog has been displayed.
* `keys_shown_iff` — it holds after exactly the runs in which keys arrive at an open dialog.
-/

set_option autoImplicit false

namespace Frontend

open Kit

/-- A dialog and what its user has seen. -/
structure Viewed where
  dialog : GenerateKeyDialog := {}
  /-- The key in the dialog was displayed since it arrived. -/
  seen : Bool := false
  /-- The keys that were cleared or replaced without having been displayed. -/
  lost : List GeneratedKey := []
  deriving DecidableEq, Repr

namespace GenerateKeyDialog

/-- The dialog lets go of the key it has: it is reset, or another key arrives. -/
def letsGo (d : GenerateKeyDialog) : DialogEvent → Bool
  | .openDialog => !d.isOpen
  | .succeed id _ => id ∈ d.generateMutation.inFlight
  | .closeDialog => false
  | .edit _ _ _ _ => false
  | .submit => false
  | .fail _ => false

/-- An event through which the key is kept does not open the dialog. -/
theorem step_keeps {d : GenerateKeyDialog} {e : DialogEvent} (h : d.letsGo e = false) :
    (d.step e).generated = d.generated ∧ ((d.step e).isOpen = true → d.isOpen = true) := by
  cases e with
  | openDialog =>
    have hopen : d.isOpen = true := by simpa [letsGo] using h
    simp [step, hopen]
  | closeDialog => simp [step]
  | edit keyAlias duration models maxBudget =>
    simp only [step]
    split
    · exact ⟨rfl, id⟩
    · exact ⟨rfl, id⟩
  | submit =>
    simp only [step]
    split
    · exact ⟨rfl, id⟩
    · exact ⟨rfl, id⟩
  | succeed id key =>
    have hnot : id ∉ d.generateMutation.inFlight := by simpa [letsGo] using h
    simp [step, hnot]
  | fail id => exact ⟨rfl, fun h => h⟩

/-- The key is let go of for none when the dialog opens, or for another one. -/
theorem step_letsGo {d : GenerateKeyDialog} {e : DialogEvent} (h : d.letsGo e = true) :
    (e = .openDialog ∧ (d.step e).generated = none) ∨
    ∃ id key, e = .succeed id key ∧ (d.step e).generated = some key ∧
      (d.step e).isOpen = d.isOpen := by
  cases e with
  | openDialog =>
    have hclosed : d.isOpen = false := by simpa [letsGo] using h
    left
    simp [step, hclosed, reset]
  | succeed id key =>
    have hin : id ∈ d.generateMutation.inFlight := by simpa [letsGo] using h
    right
    exact ⟨id, key, rfl, by simp [step, hin], by simp [step, hin]⟩
  | closeDialog => cases h
  | edit keyAlias duration models maxBudget => cases h
  | submit => cases h
  | fail id => cases h

end GenerateKeyDialog

/-- What an event does, and what is displayed after it. -/
def observe (v : Viewed) (e : DialogEvent) : Viewed :=
  let d := v.dialog.step e
  if v.dialog.letsGo e then
    { dialog := d
      seen := d.keyShown
      lost := if v.seen then v.lost else v.lost ++ v.dialog.generated.toList }
  else { v with dialog := d, seen := v.seen || d.keyShown }

theorem observe_dialog (v : Viewed) (e : DialogEvent) :
    (observe v e).dialog = v.dialog.step e := by
  unfold observe
  simp only
  split <;> rfl

/-- No key is lost, and the one in the dialog has been displayed. -/
def KeysShown (v : Viewed) : Prop :=
  v.lost = [] ∧ (v.dialog.generated.isSome = true → v.seen = true)

/-- A key that arrives finds the dialog open. -/
def arrivesOpen (v : Viewed) : DialogEvent → Bool
  | .succeed id _ => v.dialog.isOpen || id ∉ v.dialog.generateMutation.inFlight
  | .openDialog => true
  | .closeDialog => true
  | .edit _ _ _ _ => true
  | .submit => true
  | .fail _ => true

/-- A key is lost, or waits undisplayed in a closed dialog. -/
def KeyLost (v : Viewed) : Prop :=
  v.lost ≠ [] ∨ (v.dialog.generated.isSome = true ∧ v.seen = false ∧ v.dialog.isOpen = false)

/-! ## One step -/

theorem keysShown_step (v : Viewed) (e : DialogEvent) (he : arrivesOpen v e = true)
    (h : KeysShown v) : KeysShown (observe v e) := by
  obtain ⟨hlost, hseen⟩ := h
  unfold observe
  dsimp only
  split
  · rename_i hgo
    -- what is let go of was displayed, if there was a key at all
    have hlost' : (if v.seen = true then v.lost else v.lost ++ v.dialog.generated.toList) = [] := by
      split
      · exact hlost
      · rename_i hunseen
        cases hkey : v.dialog.generated with
        | none => simp [hlost]
        | some key => exact absurd (hseen (by simp [hkey])) hunseen
    refine ⟨hlost', ?_⟩
    rcases GenerateKeyDialog.step_letsGo hgo with ⟨-, hnone⟩ | ⟨id, key, rfl, hsome, hopen⟩
    · simp [hnone]
    · have hin : id ∈ v.dialog.generateMutation.inFlight := by
        simpa [GenerateKeyDialog.letsGo] using hgo
      have hisOpen : v.dialog.isOpen = true := by simpa [arrivesOpen, hin] using he
      intro _
      simp [GenerateKeyDialog.keyShown, hsome, hopen, hisOpen]
  · rename_i hgo
    obtain ⟨hgen, -⟩ := GenerateKeyDialog.step_keeps (by simpa using hgo)
    refine ⟨hlost, fun hkey => ?_⟩
    rw [hgen] at hkey
    simp [hseen hkey]

theorem keyLost_of_closed {v : Viewed} {e : DialogEvent} (he : ¬ arrivesOpen v e = true) :
    KeyLost (observe v e) := by
  cases e with
  | succeed id key =>
    have hclosed : v.dialog.isOpen = false ∧ id ∈ v.dialog.generateMutation.inFlight := by
      simpa [arrivesOpen] using he
    have hgo : v.dialog.letsGo (.succeed id key) = true := by
      simp [GenerateKeyDialog.letsGo, hclosed.2]
    right
    simp [observe, hgo, GenerateKeyDialog.keyShown, GenerateKeyDialog.step, hclosed]
  | openDialog => exact absurd rfl he
  | closeDialog => exact absurd rfl he
  | edit keyAlias duration models maxBudget => exact absurd rfl he
  | submit => exact absurd rfl he
  | fail id => exact absurd rfl he

/-- A lost key stays lost, and the reset of the next opening takes one that waits. -/
theorem keyLost_step (v : Viewed) (e : DialogEvent) (h : KeyLost v) : KeyLost (observe v e) := by
  unfold observe
  dsimp only
  rcases h with hlost | ⟨hkey, hunseen, hclosed⟩
  · left
    split
    · split
      · exact hlost
      · simp [hlost]
    · exact hlost
  · split
    · left
      obtain ⟨key, hkey⟩ := Option.isSome_iff_exists.mp hkey
      simp [hunseen, hkey]
    · rename_i hgo
      right
      obtain ⟨hgen, hopen⟩ := GenerateKeyDialog.step_keeps (e := e) (by simpa using hgo)
      have hstays : (v.dialog.step e).isOpen = false := by
        by_contra hnow
        have hnow := hopen (by simpa using hnow)
        rw [hclosed] at hnow
        cases hnow
      refine ⟨?_, ?_, hstays⟩
      · rw [hgen]
        exact hkey
      · simp [hunseen, GenerateKeyDialog.keyShown, hstays]

/-! ## Runs -/

/-- **Every key is shown** in a run exactly when each arrives at an open dialog.  In no run is a key
replaced by another. -/
theorem keys_shown_iff (events : List DialogEvent) :
    (KeysShown (Machine.run observe {} events) ↔
      Machine.Along (fun v e => arrivesOpen v e = true) observe {} events) ∧
    (Machine.run observe {} events).dialog.OneRequest := by
  constructor
  · refine Machine.run_iff_along keysShown_step (fun v e _ he => keyLost_of_closed he) keyLost_step
      ?_ events {} ⟨rfl, nofun⟩
    rintro v ⟨hlost, hseen⟩ (hne | ⟨hkey, hunseen, -⟩)
    · exact hne hlost
    · rw [hseen hkey] at hunseen
      cases hunseen
  · refine @Machine.run_invariant _ _ _ (fun v : Viewed => v.dialog.OneRequest) (fun v e h => ?_)
      events {} (.inl rfl)
    rw [observe_dialog]
    exact v.dialog.oneRequest_step e h

/-- A key that arrives while the dialog is closed is cleared by the next opening. -/
theorem keys_shown_counterexample :
    let key : GeneratedKey := ⟨"sk-1", "agent"⟩
    let v := Machine.run observe {} [.openDialog, .edit "agent" "none" "" "", .submit, .closeDialog,
      .succeed 1 key, .openDialog]
    v.lost = [key] ∧ v.dialog.generated = none ∧ ¬ KeysShown v := by
  refine ⟨by decide, by decide, ?_⟩
  rintro ⟨hlost, -⟩
  revert hlost
  decide

end Frontend
