import SubstrateControl.Api.Actors
import SubstrateControl.Api.K8sObjects
import SubstrateControl.Api.Keys
import SubstrateControl.Api.Models
import SubstrateControl.Api.Secrets

/-!
# Validate before effect, one response

* `MutatingRequest`, `serve` — the requests of the mutating routes and the handler of each.
* `MutatingRequest.rejected` — whether a request does not decode, lacks a required field or needs a
  Kubernetes client that is not there.
* `Guarded` — what a handler may do for a rejected request and for another.
* `serve_guarded` — every handler of a mutating route does that.
* `serve_validates` — hence one response, no call for a rejected request, at most one mutating call,
  and a success exactly for a call that succeeded.
-/

set_option autoImplicit false

namespace Api

open Go Kube

variable {Atespace Actor : Type}

/-! ## Requests -/

/-- A request of a mutating route, with its path values. -/
inductive MutatingRequest where
  | createAtespace (body : DecodedBody CreateAtespaceRequest)
  | deleteAtespace (name : String)
  | createActor (body : DecodedBody CreateActorRequest)
  | updateActor (a : ActorRef) (body : DecodedBody UpdateActorRequest)
  | deleteActor (a : ActorRef)
  | suspendActor (a : ActorRef)
  | pauseActor (a : ActorRef)
  | resumeActor (a : ActorRef) (body : DecodedBody ResumeActorRequest)
  | proxyActor (a : ActorRef) (body : DecodedBody ActorProxyRequest)
  | createActorTemplate (body : DecodedBody CreateK8sObjectRequest)
  | deleteActorTemplate (ns name : String)
  | createWorkerPool (body : DecodedBody CreateK8sObjectRequest)
  | deleteWorkerPool (ns name : String)
  | createSecret (body : DecodedBody CreateSecretRequest)
  | deleteSecret (ns name : String)
  | createGatewayKey (body : DecodedBody GenerateKeyRequestJSON)
  | deleteGatewayKey (key : String)
  | registerGatewayModel (body : DecodedBody RegisterModelRequestJSON)
  | deleteGatewayModel (id : String)

/-- `Server.Handler`, for the mutating routes. -/
def serve (o : Unstructured → MapOrder) (rfc3339 : String → String) (s : Server Atespace Actor) :
    MutatingRequest → Handler Atespace Actor Unit
  | .createAtespace body => handleCreateAtespace s body
  | .deleteAtespace name => handleDeleteAtespace s name
  | .createActor body => handleCreateActor s body
  | .updateActor a body => handleUpdateActor s a body
  | .deleteActor a => handleDeleteActor s a
  | .suspendActor a => handleSuspendActor s a
  | .pauseActor a => handlePauseActor s a
  | .resumeActor a body => handleResumeActor s a body
  | .proxyActor a body => proxyActor s a body
  | .createActorTemplate body =>
    handleCreateK8sObject rfc3339 s actorTemplatesGVR "ActorTemplate" body
  | .deleteActorTemplate ns name => handleDeleteK8sObject s actorTemplatesGVR ns name
  | .createWorkerPool body => handleCreateK8sObject rfc3339 s workerPoolsGVR "WorkerPool" body
  | .deleteWorkerPool ns name => handleDeleteK8sObject s workerPoolsGVR ns name
  | .createSecret body => handleCreateSecret o rfc3339 s body
  | .deleteSecret ns name => handleDeleteSecret s ns name
  | .createGatewayKey body => handleCreateGatewayKey s body
  | .deleteGatewayKey key => handleDeleteGatewayKey s key
  | .registerGatewayModel body => handleRegisterGatewayModel s body
  | .deleteGatewayModel id => handleDeleteGatewayModel s id

/-! ## Rejected requests -/

/-- The body does not decode, or what it decodes to lacks something. -/
def refused {ρ : Type} (zero : ρ) (lacks : ρ → Bool) (body : DecodedBody ρ) : Bool :=
  match decodeBody zero body with
  | .error _ => true
  | .ok req => lacks req

/-- There is no Kubernetes client. -/
def noKube (s : Server Atespace Actor) : Bool :=
  match s.kube with
  | .error _ => true
  | .ok _ => false

/-- An atespace needs a name. -/
def CreateAtespaceRequest.lacks (req : CreateAtespaceRequest) : Bool := decide (req.name = "")

/-- An actor needs an atespace and a name. -/
def CreateActorRequest.lacks (req : CreateActorRequest) : Bool :=
  decide (req.atespace = "" ∨ req.name = "")

/-- A task needs a method that is GET or POST, and a path. -/
def ActorProxyRequest.lacks (req : ActorProxyRequest) : Bool :=
  decide (req.method ≠ "GET" ∧ req.method ≠ "POST") || decide (hasPrefix req.path "/" = false)

/-- A custom resource needs a namespace, a name and a spec. -/
def CreateK8sObjectRequest.lacks (req : CreateK8sObjectRequest) : Bool :=
  decide (req.ns = "" ∨ req.name = "" ∨ req.spec.length = 0)

/-- A Secret needs a namespace, a name and data. -/
def CreateSecretRequest.lacks (req : CreateSecretRequest) : Bool :=
  decide (req.ns = "" ∨ req.name = "" ∨ req.data.length = 0)

/-- A key needs an alias. -/
def GenerateKeyRequestJSON.lacks (req : GenerateKeyRequestJSON) : Bool :=
  decide (req.keyAlias = "")

/-- A model needs its name, its upstream model and a key. -/
def RegisterModelRequestJSON.lacks (req : RegisterModelRequestJSON) : Bool :=
  decide (req.modelName = "" ∨ req.model = "" ∨ req.apiKey = "")

/-- The request is to be rejected before anything is called. -/
def MutatingRequest.rejected (s : Server Atespace Actor) : MutatingRequest → Bool
  | .createAtespace body => refused {} CreateAtespaceRequest.lacks body
  | .createActor body => refused {} CreateActorRequest.lacks body
  | .updateActor _ body => refused {} (fun _ => false) body
  | .resumeActor _ body => refused {} (fun _ => false) body
  | .proxyActor _ body => refused {} ActorProxyRequest.lacks body
  | .createActorTemplate body => noKube s || refused {} CreateK8sObjectRequest.lacks body
  | .createWorkerPool body => noKube s || refused {} CreateK8sObjectRequest.lacks body
  | .deleteActorTemplate _ _ => noKube s
  | .deleteWorkerPool _ _ => noKube s
  | .createSecret body => noKube s || refused {} CreateSecretRequest.lacks body
  | .deleteSecret _ _ => noKube s
  | .createGatewayKey body => refused {} GenerateKeyRequestJSON.lacks body
  | .registerGatewayModel body => refused {} RegisterModelRequestJSON.lacks body
  | .deleteAtespace _ => false
  | .deleteActor _ => false
  | .suspendActor _ => false
  | .pauseActor _ => false
  | .deleteGatewayKey _ => false
  | .deleteGatewayModel _ => false

/-! ## Guarded handlers -/

/-- What a handler may have done for a request, by whether the request is to be rejected. -/
inductive Guarded : Bool → Trace Call (Body Atespace Actor) → Prop where
  | rejected {status : ℕ} {message : String} (hstatus : 400 ≤ status) :
      Guarded true ⟨[], [.error status message]⟩
  | succeeded {c : Call} {v : Body Atespace Actor} (hc : c.mutating = true) :
      Guarded false ⟨[⟨c, true⟩], [.ok v]⟩
  | failed {c : Call} {status : ℕ} {message : String} (hc : c.mutating = true)
      (hstatus : 400 ≤ status) : Guarded false ⟨[⟨c, false⟩], [.error status message]⟩

/-- A request that is refused. -/
theorem guarded_badRequest {message : String} :
    Guarded true (writeError 400 message : Handler Atespace Actor Unit).trace :=
  .rejected (by omega)

/-- A mutating call and what is written of it. -/
theorem guarded_call {ε ρ : Type} {c : Call} {result : Except ε ρ}
    {k : Except ε ρ → Handler Atespace Actor Unit} (hc : c.mutating = true)
    (onOk : ρ → Body Atespace Actor) (hok : ∀ r, k (.ok r) = writeJSON (onOk r))
    (herror : WritesError fun e => k (.error e)) :
    Guarded false (HandlerM.trace (call c result >>= k)) := by
  rcases call_trace hok herror with ⟨r, -, htrace⟩ | ⟨e, status, message, -, hstatus, htrace⟩
  · rw [htrace]
    exact .succeeded hc
  · rw [htrace]
    exact .failed hc hstatus

/-- A required-field check before the rest. -/
theorem guarded_check {p : Prop} [Decidable p] {rejected : Bool} {message : String}
    {h : Handler Atespace Actor Unit} (hrest : ¬ p → Guarded rejected h.trace) :
    Guarded (decide p || rejected)
      (HandlerM.trace (if p then writeError 400 message else h)) := by
  by_cases hp : p
  · rw [if_pos hp, decide_eq_true hp]
    exact guarded_badRequest
  · rw [if_neg hp, decide_eq_false hp]
    exact hrest hp

/-- A handler that needs the Kubernetes client. -/
theorem guarded_kube {s : Server Atespace Actor} {rejected : Bool}
    {k : Option KubeClient → Handler Atespace Actor Unit} (hnone : k none = pure ())
    (hrest : ∀ kube, Guarded rejected (k (some kube)).trace) :
    Guarded (noKube s || rejected) (HandlerM.trace (kubeUnavailable s >>= k)) := by
  unfold noKube
  cases hkube : s.kube with
  | error e =>
    rw [kubeUnavailable_error hkube hnone]
    exact .rejected (by omega)
  | ok kube =>
    rw [kubeUnavailable_client hkube]
    exact hrest kube

/-- A required-field check before the call. -/
theorem guarded_required {p : Prop} [Decidable p] {message : String}
    {h : Handler Atespace Actor Unit} (hrest : ¬ p → Guarded false h.trace) :
    Guarded (decide p) (HandlerM.trace (if p then writeError 400 message else h)) := by
  have hcheck : Guarded (decide p || false)
      (HandlerM.trace (if p then writeError 400 message else h)) := guarded_check hrest
  rwa [Bool.or_false] at hcheck

/-! ## The handlers -/

theorem handleCreateAtespace_guarded (s : Server Atespace Actor)
    (body : DecodedBody CreateAtespaceRequest) :
    Guarded (refused {} CreateAtespaceRequest.lacks body)
      (handleCreateAtespace s body).trace := by
  unfold handleCreateAtespace refused
  cases decodeBody {} body with
  | error e => exact guarded_badRequest
  | ok req =>
    refine guarded_required fun _ => ?_
    exact guarded_call rfl .atespace (fun _ => rfl) writeGRPCError_writesError

theorem handleCreateActor_guarded (s : Server Atespace Actor)
    (body : DecodedBody CreateActorRequest) :
    Guarded (refused {} CreateActorRequest.lacks body) (handleCreateActor s body).trace := by
  unfold handleCreateActor refused
  cases decodeBody {} body with
  | error e => exact guarded_badRequest
  | ok req =>
    refine guarded_required fun _ => ?_
    exact guarded_call rfl .actor (fun _ => rfl) writeGRPCError_writesError

theorem handleUpdateActor_guarded (s : Server Atespace Actor) (a : ActorRef)
    (body : DecodedBody UpdateActorRequest) :
    Guarded (refused {} (fun _ => false) body)
      (handleUpdateActor s a body).trace := by
  unfold handleUpdateActor refused
  cases decodeBody {} body with
  | error e => exact guarded_badRequest
  | ok req => exact guarded_call rfl .wrapped (fun _ => rfl) writeGRPCError_writesError

theorem handleResumeActor_guarded (s : Server Atespace Actor) (a : ActorRef)
    (body : DecodedBody ResumeActorRequest) :
    Guarded (refused {} (fun _ => false) body)
      (handleResumeActor s a body).trace := by
  unfold handleResumeActor refused
  cases decodeBody {} body with
  | error e => exact guarded_badRequest
  | ok req => exact guarded_call rfl .wrapped (fun _ => rfl) writeGRPCError_writesError

theorem writeForwardError_writesError :
    WritesError (writeForwardError : RouterProxy.NetError → Handler Atespace Actor Unit) := by
  intro e
  unfold writeForwardError
  split
  · exact ⟨504, _, by omega, rfl⟩
  · exact ⟨502, _, by omega, rfl⟩

theorem proxyActor_guarded (s : Server Atespace Actor) (a : ActorRef)
    (body : DecodedBody ActorProxyRequest) :
    Guarded (refused {} ActorProxyRequest.lacks body) (proxyActor s a body).trace := by
  unfold proxyActor refused
  cases decodeBody {} body with
  | error e => exact guarded_badRequest
  | ok req =>
    refine guarded_check fun _ => ?_
    refine guarded_required fun _ => ?_
    exact guarded_call rfl (fun res => .proxied ⟨res.status, res.contentType, res.body⟩)
        (fun _ => rfl) writeForwardError_writesError

theorem handleCreateK8sObject_guarded (rfc3339 : String → String) (s : Server Atespace Actor)
    (gvr : GroupVersionResource) (kind : String) (body : DecodedBody CreateK8sObjectRequest) :
    Guarded (noKube s || refused {} CreateK8sObjectRequest.lacks body)
      (handleCreateK8sObject rfc3339 s gvr kind body).trace := by
  unfold handleCreateK8sObject
  refine guarded_kube rfl fun kube => ?_
  unfold refused
  cases decodeBody {} body with
  | error e => exact guarded_badRequest
  | ok req =>
    refine guarded_required fun _ => ?_
    exact guarded_call rfl (fun created => .object (unstructuredToJSON rfc3339 created))
        (fun _ => rfl) writeKubeError_writesError

theorem handleDeleteK8sObject_guarded (s : Server Atespace Actor) (gvr : GroupVersionResource)
    (ns name : String) : Guarded (noKube s) (handleDeleteK8sObject s gvr ns name).trace := by
  unfold handleDeleteK8sObject
  rw [← Bool.or_false (noKube s)]
  refine guarded_kube rfl fun _ => ?_
  exact guarded_call rfl (fun _ => .deleted) (fun _ => rfl) writeKubeError_writesError

theorem handleCreateSecret_guarded (o : Unstructured → MapOrder) (rfc3339 : String → String)
    (s : Server Atespace Actor) (body : DecodedBody CreateSecretRequest) :
    Guarded (noKube s || refused {} CreateSecretRequest.lacks body)
      (handleCreateSecret o rfc3339 s body).trace := by
  unfold handleCreateSecret
  refine guarded_kube rfl fun kube => ?_
  unfold refused
  cases decodeBody {} body with
  | error e => exact guarded_badRequest
  | ok req =>
    refine guarded_required fun _ => ?_
    exact guarded_call rfl (fun created => .secret (secretToJSON (o created) rfc3339 created))
        (fun _ => rfl) writeKubeError_writesError

theorem handleDeleteSecret_guarded (s : Server Atespace Actor) (ns name : String) :
    Guarded (noKube s) (handleDeleteSecret s ns name).trace := by
  unfold handleDeleteSecret
  rw [← Bool.or_false (noKube s)]
  refine guarded_kube rfl fun _ => ?_
  exact guarded_call rfl (fun _ => .deleted) (fun _ => rfl) writeKubeError_writesError

theorem handleCreateGatewayKey_guarded (s : Server Atespace Actor)
    (body : DecodedBody GenerateKeyRequestJSON) :
    Guarded (refused {} GenerateKeyRequestJSON.lacks body)
      (handleCreateGatewayKey s body).trace := by
  unfold handleCreateGatewayKey refused
  cases decodeBody {} body with
  | error e => exact guarded_badRequest
  | ok req =>
    refine guarded_required fun _ => ?_
    exact guarded_call rfl .generatedKey (fun _ => rfl) writeGatewayError_writesError

theorem handleRegisterGatewayModel_guarded (s : Server Atespace Actor)
    (body : DecodedBody RegisterModelRequestJSON) :
    Guarded (refused {} RegisterModelRequestJSON.lacks body)
      (handleRegisterGatewayModel s body).trace := by
  unfold handleRegisterGatewayModel refused
  cases decodeBody {} body with
  | error e => exact guarded_badRequest
  | ok req =>
    refine guarded_required fun _ => ?_
    exact guarded_call rfl (fun m => .model (gatewayModelToJSON m)) (fun _ => rfl)
        writeGatewayError_writesError

/-- **Every handler of a mutating route is guarded.** -/
theorem serve_guarded (o : Unstructured → MapOrder) (rfc3339 : String → String)
    (s : Server Atespace Actor) (r : MutatingRequest) :
    Guarded (r.rejected s) (serve o rfc3339 s r).trace := by
  cases r with
  | createAtespace body => exact handleCreateAtespace_guarded s body
  | deleteAtespace name =>
    exact guarded_call rfl .atespace (fun _ => rfl) writeGRPCError_writesError
  | createActor body => exact handleCreateActor_guarded s body
  | updateActor a body => exact handleUpdateActor_guarded s a body
  | deleteActor a => exact guarded_call rfl .actor (fun _ => rfl) writeGRPCError_writesError
  | suspendActor a => exact guarded_call rfl .wrapped (fun _ => rfl) writeGRPCError_writesError
  | pauseActor a => exact guarded_call rfl .wrapped (fun _ => rfl) writeGRPCError_writesError
  | resumeActor a body => exact handleResumeActor_guarded s a body
  | proxyActor a body => exact proxyActor_guarded s a body
  | createActorTemplate body => exact handleCreateK8sObject_guarded rfc3339 s _ _ body
  | deleteActorTemplate ns name => exact handleDeleteK8sObject_guarded s _ ns name
  | createWorkerPool body => exact handleCreateK8sObject_guarded rfc3339 s _ _ body
  | deleteWorkerPool ns name => exact handleDeleteK8sObject_guarded s _ ns name
  | createSecret body => exact handleCreateSecret_guarded o rfc3339 s body
  | deleteSecret ns name => exact handleDeleteSecret_guarded s ns name
  | createGatewayKey body => exact handleCreateGatewayKey_guarded s body
  | deleteGatewayKey key =>
    exact guarded_call rfl (fun _ => .deleted) (fun _ => rfl) writeGatewayError_writesError
  | registerGatewayModel body => exact handleRegisterGatewayModel_guarded s body
  | deleteGatewayModel id =>
    exact guarded_call rfl (fun _ => .deleted) (fun _ => rfl) writeGatewayError_writesError

/-- **Validate before effect, one response.**  Every request of a mutating route is answered once; a
rejected one without a call and by an error; at most one mutating call is made; a success is written
only after that call succeeded, and an error after a call that failed. -/
theorem serve_validates (o : Unstructured → MapOrder) (rfc3339 : String → String)
    (s : Server Atespace Actor) (r : MutatingRequest) :
    let t := (serve o rfc3339 s r).trace
    t.responses.length = 1 ∧
    (r.rejected s = true → t.calls = [] ∧
      ∃ status message, 400 ≤ status ∧ t.responses = [.error status message]) ∧
    (t.calls.filter fun made => made.call.mutating).length ≤ 1 ∧
    (∀ v, .ok v ∈ t.responses → ∃ c, c.mutating = true ∧ t.calls = [⟨c, true⟩]) ∧
    (∀ c, ⟨c, false⟩ ∈ t.calls → ∃ status message, 400 ≤ status ∧
      t.responses = [.error status message]) := by
  intro t
  have hguarded : Guarded (r.rejected s) t := serve_guarded o rfc3339 s r
  clear_value t
  generalize r.rejected s = rejected at hguarded ⊢
  cases hguarded with
  | rejected hstatus => simp [hstatus]
  | succeeded hc => simp [hc]
  | failed hc hstatus => simp [hc, hstatus]

end Api
