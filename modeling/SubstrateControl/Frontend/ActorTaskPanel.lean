import SubstrateControl.Frontend.Mutation
import SubstrateControl.Js.Number
import SubstrateControl.Kit.Machine

/-!
# The task panel of an actor

Model of `ActorTaskPanel` (`frontend/src/components/ActorTaskPanel.tsx`): requests are sent by the
button, which is disabled while the latest one is pending, and by the Enter key, which is not.

* `ActorTaskPanel` — its state, by the variables of the component; `handleSend`, `step`.
* `TaskView`, `observe` — the panel with the requests that what it holds came from.
* `ShowsLatest` — at most one request is in flight, and what is displayed is of the latest one.
* `shows_latest_iff` — it holds all along exactly the runs that send at a panel without a response,
  nothing being in flight; with one request at a time, what a settled panel displays is the latest
  answer.
-/

set_option autoImplicit false

namespace Frontend

open Js Kit

inductive Method where
  | get
  | post
  deriving DecidableEq, Repr

/-- `ActorProxyRequest`. -/
structure ActorProxyRequest where
  method : Method
  path : String
  body : Option String
  contentType : Option String
  deriving DecidableEq, Repr

/-- `ActorProxyResponse`. -/
structure ActorProxyResponse where
  status : ℕ
  contentType : String
  body : String
  deriving DecidableEq, Repr

/-- The state of the component, with its initial values. -/
structure ActorTaskPanel where
  method : Method := .post
  path : String := "/ask"
  body : String := ""
  response : Option ActorProxyResponse := none
  errorMessage : String := ""
  mutation : Mutation := {}
  deriving DecidableEq, Repr

/-- What happens to the panel. -/
inductive TaskEvent where
  | setMethod (method : Method)
  | setPath (path : String)
  | setBody (body : String)
  /-- A click on the button. -/
  | click
  /-- The Enter key in the path field. -/
  | enter
  | succeed (id : ℕ) (data : ActorProxyResponse)
  /-- A request fails, with the message of an `Error` or with something else. -/
  | fail (id : ℕ) (error : Option String)
  deriving DecidableEq, Repr

namespace ActorTaskPanel

def normalizedPath (path : String) : String :=
  let trimmed := trim path
  if trimmed = "" then "/"
  else if "/".toList.isPrefixOf trimmed.toList then trimmed
  else "/" ++ trimmed

/-- The request `handleSend` sends. -/
def request (p : ActorTaskPanel) : ActorProxyRequest :=
  let withBody := p.method = .post ∧ p.body ≠ ""
  { method := p.method
    path := normalizedPath p.path
    body := if withBody then some p.body else none
    contentType := if withBody then some "text/plain" else none }

def handleSend (p : ActorTaskPanel) : ActorTaskPanel :=
  { p with errorMessage := "", mutation := p.mutation.mutate }

/-- The error message, else the response. -/
def shown (p : ActorTaskPanel) : Option (String ⊕ ActorProxyResponse) :=
  if p.errorMessage ≠ "" then some (.inl p.errorMessage) else p.response.map .inr

def step (p : ActorTaskPanel) : TaskEvent → ActorTaskPanel
  | .setMethod method => { p with method }
  | .setPath path => { p with path }
  | .setBody body => if p.method = .post then { p with body } else p
  | .click => if p.mutation.isPending then p else p.handleSend
  | .enter => p.handleSend
  | .succeed id data =>
    if id ∈ p.mutation.inFlight then
      { p with response := some data, errorMessage := "", mutation := p.mutation.settle id }
    else p
  | .fail id error =>
    if id ∈ p.mutation.inFlight then
      { p with errorMessage := error.getD "Unknown error", mutation := p.mutation.settle id }
    else p

/-- The event sends the request of the panel. -/
def sends (p : ActorTaskPanel) : TaskEvent → Bool
  | .click => !p.mutation.isPending
  | .enter => true
  | .setMethod _ => false
  | .setPath _ => false
  | .setBody _ => false
  | .succeed _ _ => false
  | .fail _ _ => false

end ActorTaskPanel

/-- A panel with the requests it has sent, and which of them its response and its error message
came from. -/
structure TaskView where
  panel : ActorTaskPanel := {}
  sent : List ActorProxyRequest := []
  responseOf : ℕ := 0
  errorOf : ℕ := 0
  deriving DecidableEq, Repr

namespace TaskView

/-- The number of the request whose answer is displayed. -/
def shownOf (v : TaskView) : Option ℕ :=
  if v.panel.errorMessage ≠ "" then some v.errorOf else v.panel.response.map fun _ => v.responseOf

/-- What an event does. -/
def observe (v : TaskView) (e : TaskEvent) : TaskView :=
  { panel := v.panel.step e
    sent := if v.panel.sends e then v.sent ++ [v.panel.request] else v.sent
    responseOf := match e with
      | .succeed id _ => if id ∈ v.panel.mutation.inFlight then id else v.responseOf
      | _ => v.responseOf
    errorOf := match e with
      | .fail id _ => if id ∈ v.panel.mutation.inFlight then id else v.errorOf
      | _ => v.errorOf }

/-- At most one request is in flight, and what is displayed came from the latest one. -/
def ShowsLatest (v : TaskView) : Prop :=
  v.panel.mutation.inFlight.length ≤ 1 ∧ ∀ id, v.shownOf = some id → id = v.sent.length

/-- Nothing is in flight but the latest request. -/
def OneAtATime (v : TaskView) : Prop :=
  v.panel.mutation.calls = v.sent.length ∧
  (v.panel.mutation.inFlight = [] ∨ v.panel.mutation.inFlight = [v.sent.length])

/-- What the panel holds came from the latest request. -/
def HoldsLatest (v : TaskView) : Prop :=
  v.OneAtATime ∧ (v.panel.response.isSome = true → v.responseOf = v.sent.length) ∧
  (v.panel.errorMessage ≠ "" → v.errorOf = v.sent.length)

/-- A request is sent while nothing is in flight. -/
def sendsIdle (v : TaskView) (e : TaskEvent) : Prop :=
  v.panel.sends e = true → v.panel.mutation.inFlight = []

/-- A request is sent while nothing is in flight, and every failure has a message. -/
def sendsInTurn (v : TaskView) (e : TaskEvent) : Prop :=
  v.sendsIdle e ∧ ∀ id, e ≠ .fail id (some "")

/-- A settled panel displays the answer to the latest request. -/
def Settled (v : TaskView) : Prop :=
  v.panel.mutation.inFlight = [] → v.sent ≠ [] → v.shownOf = some v.sent.length

/-- A request is sent while nothing is in flight and the panel holds no response. -/
def sendsAfresh (v : TaskView) (e : TaskEvent) : Prop :=
  v.panel.sends e = true → v.panel.mutation.inFlight = [] ∧ v.panel.response = none

/-! ## One step -/

/-- An event sends a request, is about one that is in flight, or changes nothing but the form. -/
theorem observe_cases (v : TaskView) (e : TaskEvent) :
    (v.panel.sends e = true ∧ v.observe e =
      { v with panel := v.panel.handleSend, sent := v.sent ++ [v.panel.request] }) ∨
    (∃ id data, e = .succeed id data ∧ id ∈ v.panel.mutation.inFlight ∧ v.observe e =
      { v with
        panel := { v.panel with
          response := some data
          errorMessage := ""
          mutation := v.panel.mutation.settle id }
        responseOf := id }) ∨
    (∃ id error, e = .fail id error ∧ id ∈ v.panel.mutation.inFlight ∧ v.observe e =
      { v with
        panel := { v.panel with
          errorMessage := error.getD "Unknown error"
          mutation := v.panel.mutation.settle id }
        errorOf := id }) ∨
    (v.panel.sends e = false ∧ ∃ method path body,
      v.observe e = { v with panel := { v.panel with method, path, body } }) := by
  cases e with
  | setMethod method => exact .inr (.inr (.inr ⟨rfl, method, v.panel.path, v.panel.body, rfl⟩))
  | setPath path => exact .inr (.inr (.inr ⟨rfl, v.panel.method, path, v.panel.body, rfl⟩))
  | setBody body =>
    right; right; right
    by_cases hpost : v.panel.method = .post
    · exact ⟨rfl, v.panel.method, v.panel.path, body, by
        simp [observe, ActorTaskPanel.sends, ActorTaskPanel.step, hpost]⟩
    · exact ⟨rfl, v.panel.method, v.panel.path, v.panel.body, by
        simp [observe, ActorTaskPanel.sends, ActorTaskPanel.step, hpost]⟩
  | click =>
    by_cases hpending : v.panel.mutation.isPending = true
    · right; right; right
      exact ⟨by simp [ActorTaskPanel.sends, hpending], v.panel.method, v.panel.path, v.panel.body,
        by simp [observe, ActorTaskPanel.sends, ActorTaskPanel.step, hpending]⟩
    · left
      simp [observe, ActorTaskPanel.sends, ActorTaskPanel.step, hpending]
  | enter => exact .inl ⟨rfl, rfl⟩
  | succeed id data =>
    by_cases hin : id ∈ v.panel.mutation.inFlight
    · right; left
      exact ⟨id, data, rfl, hin, by simp [observe, ActorTaskPanel.sends, ActorTaskPanel.step, hin]⟩
    · right; right; right
      exact ⟨rfl, v.panel.method, v.panel.path, v.panel.body, by
        simp [observe, ActorTaskPanel.sends, ActorTaskPanel.step, hin]⟩
  | fail id error =>
    by_cases hin : id ∈ v.panel.mutation.inFlight
    · right; right; left
      exact ⟨id, error, rfl, hin, by simp [observe, ActorTaskPanel.sends, ActorTaskPanel.step, hin]⟩
    · right; right; right
      exact ⟨rfl, v.panel.method, v.panel.path, v.panel.body, by
        simp [observe, ActorTaskPanel.sends, ActorTaskPanel.step, hin]⟩

/-- What is settled is the latest request, and nothing is in flight then. -/
theorem OneAtATime.settle {v : TaskView} (h : v.OneAtATime) {id : ℕ}
    (hin : id ∈ v.panel.mutation.inFlight) :
    id = v.sent.length ∧ (v.panel.mutation.settle id).inFlight = [] := by
  rcases h.2 with hnone | hone
  · simp [hnone] at hin
  · rw [hone, List.mem_singleton] at hin
    exact ⟨hin, by simp [hone, hin]⟩

theorem oneAtATime_step (v : TaskView) (e : TaskEvent) (he : v.sendsIdle e) (h : v.OneAtATime) :
    (v.observe e).OneAtATime := by
  rcases v.observe_cases e with ⟨hsend, heq⟩ | ⟨id, data, -, hin, heq⟩ | ⟨id, error, -, hin, heq⟩ |
    ⟨-, method, path, body, heq⟩
  · have hnone := he hsend
    rw [heq]
    exact ⟨by simp [ActorTaskPanel.handleSend, h.1], .inr
      (by simp [ActorTaskPanel.handleSend, hnone, h.1])⟩
  · rw [heq]
    exact ⟨h.1, .inl (h.settle hin).2⟩
  · rw [heq]
    exact ⟨h.1, .inl (h.settle hin).2⟩
  · rw [heq]
    exact h

theorem holdsLatest_step (v : TaskView) (e : TaskEvent) (he : v.sendsAfresh e)
    (h : v.HoldsLatest) : (v.observe e).HoldsLatest := by
  have hone := oneAtATime_step v e (fun hsend => (he hsend).1) h.1
  obtain ⟨hold, hresponse, herror⟩ := h
  refine ⟨hone, ?_⟩
  rcases v.observe_cases e with ⟨hsend, heq⟩ | ⟨id, data, -, hin, heq⟩ | ⟨id, error, -, hin, heq⟩ |
    ⟨-, method, path, body, heq⟩
  · have hnone := (he hsend).2
    rw [heq]
    exact ⟨by simp [ActorTaskPanel.handleSend, hnone], by simp [ActorTaskPanel.handleSend]⟩
  · rw [heq]
    exact ⟨fun _ => (hold.settle hin).1, fun hne => absurd rfl hne⟩
  · rw [heq]
    exact ⟨hresponse, fun _ => (hold.settle hin).1⟩
  · rw [heq]
    exact ⟨hresponse, herror⟩

theorem showsLatest_of_holds (v : TaskView) (h : v.HoldsLatest) : v.ShowsLatest := by
  obtain ⟨⟨-, hflight⟩, hresponse, herror⟩ := h
  constructor
  · rcases hflight with h | h
    · simp [h]
    · simp [h]
  · intro id hid
    unfold shownOf at hid
    split at hid
    · rename_i hmessage
      rw [← herror hmessage]
      exact (Option.some.inj hid).symm
    · obtain ⟨r, hr, rfl⟩ := Option.map_eq_some_iff.mp hid
      exact hresponse (by simp [hr])

/-- A request that is sent too early is the second in flight, or leaves an older response on
display. -/
theorem not_showsLatest_of_send (v : TaskView) (e : TaskEvent) (h : v.HoldsLatest)
    (he : ¬ v.sendsAfresh e) : ¬ (v.observe e).ShowsLatest := by
  obtain ⟨⟨hcalls, hflight⟩, hresponse, -⟩ := h
  unfold sendsAfresh at he
  rw [Classical.not_imp] at he
  obtain ⟨hsend, hearly⟩ := he
  rcases v.observe_cases e with ⟨-, heq⟩ | ⟨id, data, rfl, -, -⟩ | ⟨id, error, rfl, -, -⟩ |
    ⟨hno, -⟩
  · rw [heq]
    rintro ⟨hlen, hshown⟩
    rcases hflight with hnone | hone
    · cases hr : v.panel.response with
      | none => exact hearly ⟨hnone, hr⟩
      | some r =>
        have hlatest := hshown v.responseOf (by simp [shownOf, ActorTaskPanel.handleSend, hr])
        rw [hresponse (by simp [hr])] at hlatest
        simp at hlatest
    · simp [ActorTaskPanel.handleSend, hone] at hlen
  · cases hsend
  · cases hsend
  · rw [hsend] at hno
    cases hno

theorem settled_step (v : TaskView) (e : TaskEvent) (he : v.sendsInTurn e)
    (h : v.OneAtATime ∧ v.Settled) : (v.observe e).OneAtATime ∧ (v.observe e).Settled := by
  refine ⟨oneAtATime_step v e he.1 h.1, ?_⟩
  rcases v.observe_cases e with ⟨hsend, heq⟩ | ⟨id, data, -, hin, heq⟩ |
    ⟨id, error, rfl, hin, heq⟩ | ⟨-, method, path, body, heq⟩
  · rw [heq]
    intro hidle
    simp [ActorTaskPanel.handleSend] at hidle
  · rw [heq]
    intro _ _
    simp [shownOf, (h.1.settle hin).1]
  · have hmessage : error.getD "Unknown error" ≠ "" := by
      cases error with
      | none => decide
      | some message =>
        rintro rfl
        exact he.2 id rfl
    rw [heq]
    intro _ _
    simp only [shownOf, if_pos hmessage, (h.1.settle hin).1]
  · rw [heq]
    exact h.2

/-! ## Runs -/

/-- **The panel shows the latest answer all along a run** exactly when every request of the run is
sent while nothing is in flight and the panel holds no response.  With one request at a time, and
messages in all failures, what a settled panel displays is the answer to its latest request. -/
theorem shows_latest_iff (events : List TaskEvent) :
    (Machine.Always ShowsLatest observe {} events ↔
      Machine.Along sendsAfresh observe {} events) ∧
    (Machine.Along sendsInTurn observe {} events →
      (Machine.run observe {} events).OneAtATime ∧ (Machine.run observe {} events).Settled) := by
  refine ⟨Machine.always_iff_along showsLatest_of_holds holdsLatest_step not_showsLatest_of_send
    events {} ⟨⟨rfl, .inl rfl⟩, nofun, nofun⟩, fun hturn => ?_⟩
  exact Machine.run_invariant_along settled_step events {} hturn
    ⟨⟨rfl, .inl rfl⟩, fun _ hne => absurd rfl hne⟩

/-- Two requests by the Enter key whose responses arrive in the other order. -/
theorem shows_latest_counterexample :
    let v := Machine.run observe {} [.enter, .enter, .succeed 2 ⟨200, "text/plain", "second"⟩,
      .succeed 1 ⟨200, "text/plain", "first"⟩]
    (Machine.run observe {} [.enter, .enter]).panel.mutation.inFlight = [1, 2] ∧
    v.panel.mutation.inFlight = [] ∧ v.sent.length = 2 ∧
    v.panel.shown = some (.inr ⟨200, "text/plain", "first"⟩) ∧ ¬ v.ShowsLatest := by
  refine ⟨by decide, by decide, by decide, by decide, ?_⟩
  rintro ⟨-, hlatest⟩
  exact absurd (hlatest 1 (by decide)) (by decide)

end TaskView

end Frontend
