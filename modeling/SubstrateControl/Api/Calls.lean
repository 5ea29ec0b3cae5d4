import SubstrateControl.Api.Respond

/-!
# The call of a request

What a request of a mutating route asks of the clients of the server.

* `MutatingRequest.call` — the one call a request stands for.
* `Only`, `Makes` — a handler makes no other call, and records how it ended.
* `serve_calls` — a request that is not rejected leads to its call, once, a rejected one to none.
* `Console.asked`, `Console.performed` — the request that the mux hands to a mutating handler, and
  what that handler does.
-/

set_option autoImplicit false

namespace Api

open Go Kube ServeMux

variable {Atespace Actor : Type}

/-- What a handler works on: an empty body leaves the zero value. -/
def DecodedBody.get {ρ : Type} (zero : ρ) : DecodedBody ρ → ρ
  | .empty => zero
  | .malformed _ => zero
  | .value v => v

theorem decodeBody_get {ρ : Type} {zero : ρ} {body : DecodedBody ρ} {req : ρ}
    (h : decodeBody zero body = .ok req) : body.get zero = req := by
  cases body with
  | empty => exact Except.ok.inj h
  | malformed message => cases h
  | value v => exact Except.ok.inj h

/-- What a task is sent as. -/
def ActorProxyRequest.call (a : ActorRef) (req : ActorProxyRequest) : Call :=
  .forward (actorHost a) req.method req.path req.body
    (if req.contentType = "" then "text/plain" else req.contentType)

/-- What a model is registered by. -/
def RegisterModelRequestJSON.call (req : RegisterModelRequestJSON) : Call :=
  .registerModel ⟨req.modelName, req.model, req.apiKey, req.apiBase, req.extraParams⟩

/-- The call a request stands for. -/
def MutatingRequest.call : MutatingRequest → Call
  | .createAtespace body => .createAtespace (body.get {}).name
  | .deleteAtespace name => .deleteAtespace name
  | .createActor body => .createActor (newActor (body.get {}))
  | .updateActor a body => .updateActor a (body.get {}).workerSelector
  | .deleteActor a => .deleteActor a
  | .suspendActor a => .suspendActor a
  | .pauseActor a => .pauseActor a
  | .resumeActor a body => .resumeActor a (body.get {}).boot
  | .proxyActor a body => (body.get {}).call a
  | .createActorTemplate body =>
    .createObject actorTemplatesGVR (newObject actorTemplatesGVR "ActorTemplate" (body.get {}))
  | .deleteActorTemplate ns name => .deleteObject actorTemplatesGVR ns name
  | .createWorkerPool body =>
    .createObject workerPoolsGVR (newObject workerPoolsGVR "WorkerPool" (body.get {}))
  | .deleteWorkerPool ns name => .deleteObject workerPoolsGVR ns name
  | .createSecret body => .createSecret (newSecret (body.get {}))
  | .deleteSecret ns name => .deleteSecret ns name
  | .createGatewayKey body => .generateKey (keyRequest (body.get {}))
  | .deleteGatewayKey key => .deleteKey key
  | .registerGatewayModel body => (body.get {}).call
  | .deleteGatewayModel id => .deleteModel id

/-! ## No other call -/

/-- The handler makes no call but `c`. -/
def Only (c : Call) (h : Handler Atespace Actor Unit) : Prop :=
  ∀ made ∈ h.trace.calls, made.call = c

/-- The call returns without an error. -/
def Server.succeeds (s : Server Atespace Actor) : Call → Bool
  | .createAtespace name => (s.createAtespace name).isOk
  | .deleteAtespace name => (s.deleteAtespace name).isOk
  | .createActor a => (s.createActor a).isOk
  | .deleteActor a => (s.deleteActor a).isOk
  | .suspendActor a => (s.suspendActor a).isOk
  | .pauseActor a => (s.pauseActor a).isOk
  | .resumeActor a boot => (s.resumeActor a boot).isOk
  | .updateActor a selector => (s.updateActor a selector).isOk
  | .forward host method path body contentType => (s.forward host method path body contentType).isOk
  | .createObject gvr obj => onKube fun kube => (kube.createObject gvr obj).isOk
  | .deleteObject gvr ns name => onKube fun kube => (kube.deleteObject gvr ns name).isOk
  | .listSecrets ns => onKube fun kube => (kube.listSecrets ns).isOk
  | .createSecret obj => onKube fun kube => (kube.createSecret obj).isOk
  | .deleteSecret ns name => onKube fun kube => (kube.deleteSecret ns name).isOk
  | .generateKey req => (s.generateKey req).isOk
  | .deleteKey key => (s.deleteKey key).isOk
  | .listModels => s.listModels.isOk
  | .registerModel req => (s.registerModel req).isOk
  | .deleteModel id => (s.deleteModel id).isOk
where
  onKube (ok : KubeClient → Bool) : Bool :=
    match s.kube with
    | .ok kube => ok kube
    | .error _ => false

theorem Server.onKube_client {s : Server Atespace Actor} {kube : KubeClient}
    (hkube : s.kube = .ok kube) (ok : KubeClient → Bool) :
    Server.succeeds.onKube s ok = ok kube := by
  unfold Server.succeeds.onKube
  rw [hkube]

/-- The handler makes no call but `c`, which ends as the client's does. -/
def Makes (s : Server Atespace Actor) (c : Call) (h : Handler Atespace Actor Unit) : Prop :=
  ∀ made ∈ h.trace.calls, made = ⟨c, s.succeeds c⟩

section

variable {s : Server Atespace Actor} {c : Call}

theorem makes_writeError {status : ℕ} {message : String} :
    Makes s c (writeError status message : Handler Atespace Actor Unit) := by
  have hcalls : (writeError status message : Handler Atespace Actor Unit).trace.calls = [] := rfl
  intro made hmade
  rw [hcalls] at hmade
  cases hmade

theorem makes_call {ε ρ : Type} {result : Except ε ρ}
    {k : Except ε ρ → Handler Atespace Actor Unit} (hresult : s.succeeds c = result.isOk)
    (onOk : ρ → Body Atespace Actor) (hok : ∀ r, k (.ok r) = writeJSON (onOk r))
    (herror : WritesError fun e => k (.error e)) : Makes s c (call c result >>= k) := by
  intro made hmade
  rw [call_calls hok herror, List.mem_singleton] at hmade
  rw [hmade, hresult]

/-- A check that refuses a request. -/
theorem makes_check {p : Prop} [Decidable p] {message : String}
    {h : Handler Atespace Actor Unit} (hrest : Makes s c h) :
    Makes s c (if p then writeError 400 message else h) := by
  split
  · exact makes_writeError
  · exact hrest

/-- A handler that needs the Kubernetes client. -/
theorem makes_kube {k : Option KubeClient → Handler Atespace Actor Unit} (hnone : k none = pure ())
    (hrest : ∀ kube, s.kube = .ok kube → Makes s c (k (some kube))) :
    Makes s c (kubeUnavailable s >>= k) := by
  intro made hmade
  cases hkube : s.kube with
  | error e =>
    rw [kubeUnavailable_error hkube hnone] at hmade
    cases hmade
  | ok kube =>
    rw [kubeUnavailable_client hkube] at hmade
    exact hrest kube hkube made hmade

end

theorem handleCreateAtespace_makes (s : Server Atespace Actor)
    (body : DecodedBody CreateAtespaceRequest) :
    Makes s (.createAtespace (body.get {}).name)
      (handleCreateAtespace s body) := by
  unfold handleCreateAtespace
  cases hbody : decodeBody {} body with
  | error e => exact makes_writeError
  | ok req =>
    rw [decodeBody_get hbody]
    refine makes_check ?_
    exact makes_call rfl .atespace (fun _ => rfl) writeGRPCError_writesError

theorem handleCreateActor_makes (s : Server Atespace Actor)
    (body : DecodedBody CreateActorRequest) :
    Makes s (.createActor (newActor (body.get {})))
      (handleCreateActor s body) := by
  unfold handleCreateActor
  cases hbody : decodeBody {} body with
  | error e => exact makes_writeError
  | ok req =>
    rw [decodeBody_get hbody]
    refine makes_check ?_
    exact makes_call rfl .actor (fun _ => rfl) writeGRPCError_writesError

theorem handleUpdateActor_makes (s : Server Atespace Actor) (a : ActorRef)
    (body : DecodedBody UpdateActorRequest) :
    Makes s (.updateActor a (body.get {}).workerSelector)
      (handleUpdateActor s a body) := by
  unfold handleUpdateActor
  cases hbody : decodeBody {} body with
  | error e => exact makes_writeError
  | ok req =>
    rw [decodeBody_get hbody]
    exact makes_call rfl .wrapped (fun _ => rfl) writeGRPCError_writesError

theorem handleResumeActor_makes (s : Server Atespace Actor) (a : ActorRef)
    (body : DecodedBody ResumeActorRequest) :
    Makes s (.resumeActor a (body.get {}).boot)
      (handleResumeActor s a body) := by
  unfold handleResumeActor
  cases hbody : decodeBody {} body with
  | error e => exact makes_writeError
  | ok req =>
    rw [decodeBody_get hbody]
    exact makes_call rfl .wrapped (fun _ => rfl) writeGRPCError_writesError

theorem proxyActor_makes (s : Server Atespace Actor) (a : ActorRef)
    (body : DecodedBody ActorProxyRequest) :
    Makes s ((body.get {}).call a)
      (proxyActor s a body) := by
  unfold proxyActor
  cases hbody : decodeBody {} body with
  | error e => exact makes_writeError
  | ok req =>
    rw [decodeBody_get hbody]
    refine makes_check ?_
    refine makes_check ?_
    exact makes_call rfl (fun res => .proxied ⟨res.status, res.contentType, res.body⟩)
      (fun _ => rfl) writeForwardError_writesError

theorem handleCreateK8sObject_makes (rfc3339 : String → String) (s : Server Atespace Actor)
    (gvr : GroupVersionResource) (kind : String) (body : DecodedBody CreateK8sObjectRequest) :
    Makes s (.createObject gvr (newObject gvr kind (body.get {})))
      (handleCreateK8sObject rfc3339 s gvr kind body) := by
  unfold handleCreateK8sObject
  refine makes_kube rfl fun kube hkube => ?_
  cases hbody : decodeBody {} body with
  | error e => exact makes_writeError
  | ok req =>
    rw [decodeBody_get hbody]
    refine makes_check ?_
    exact makes_call (Server.onKube_client hkube _)
      (fun created => .object (unstructuredToJSON rfc3339 created))
      (fun _ => rfl) writeKubeError_writesError

theorem handleDeleteK8sObject_makes (s : Server Atespace Actor) (gvr : GroupVersionResource)
    (ns name : String) :
    Makes s (.deleteObject gvr ns name) (handleDeleteK8sObject s gvr ns name) := by
  unfold handleDeleteK8sObject
  refine makes_kube rfl fun kube hkube => ?_
  exact makes_call (Server.onKube_client hkube _) (fun _ => .deleted) (fun _ => rfl)
    writeKubeError_writesError

theorem handleCreateSecret_makes (o : Unstructured → MapOrder) (rfc3339 : String → String)
    (s : Server Atespace Actor) (body : DecodedBody CreateSecretRequest) :
    Makes s (.createSecret (newSecret (body.get {})))
      (handleCreateSecret o rfc3339 s body) := by
  unfold handleCreateSecret
  refine makes_kube rfl fun kube hkube => ?_
  cases hbody : decodeBody {} body with
  | error e => exact makes_writeError
  | ok req =>
    rw [decodeBody_get hbody]
    refine makes_check ?_
    exact makes_call (Server.onKube_client hkube _)
      (fun created => .secret (secretToJSON (o created) rfc3339 created))
      (fun _ => rfl) writeKubeError_writesError

theorem handleDeleteSecret_makes (s : Server Atespace Actor) (ns name : String) :
    Makes s (.deleteSecret ns name) (handleDeleteSecret s ns name) := by
  unfold handleDeleteSecret
  refine makes_kube rfl fun kube hkube => ?_
  exact makes_call (Server.onKube_client hkube _) (fun _ => .deleted) (fun _ => rfl)
    writeKubeError_writesError

theorem handleCreateGatewayKey_makes (s : Server Atespace Actor)
    (body : DecodedBody GenerateKeyRequestJSON) :
    Makes s (.generateKey (keyRequest (body.get {})))
      (handleCreateGatewayKey s body) := by
  unfold handleCreateGatewayKey
  cases hbody : decodeBody {} body with
  | error e => exact makes_writeError
  | ok req =>
    rw [decodeBody_get hbody]
    refine makes_check ?_
    exact makes_call rfl .generatedKey (fun _ => rfl) writeGatewayError_writesError

theorem handleRegisterGatewayModel_makes (s : Server Atespace Actor)
    (body : DecodedBody RegisterModelRequestJSON) :
    Makes s ((body.get {}).call)
      (handleRegisterGatewayModel s body) := by
  unfold handleRegisterGatewayModel
  cases hbody : decodeBody {} body with
  | error e => exact makes_writeError
  | ok req =>
    rw [decodeBody_get hbody]
    refine makes_check ?_
    exact makes_call rfl (fun m => .model (gatewayModelToJSON m)) (fun _ => rfl)
      writeGatewayError_writesError

/-- **A handler makes no call but that of its request**, and records how it ended. -/
theorem serve_makes (o : Unstructured → MapOrder) (rfc3339 : String → String)
    (s : Server Atespace Actor) (r : MutatingRequest) : Makes s r.call (serve o rfc3339 s r) := by
  cases r with
  | createAtespace body => exact handleCreateAtespace_makes s body
  | deleteAtespace name => exact makes_call rfl .atespace (fun _ => rfl) writeGRPCError_writesError
  | createActor body => exact handleCreateActor_makes s body
  | updateActor a body => exact handleUpdateActor_makes s a body
  | deleteActor a => exact makes_call rfl .actor (fun _ => rfl) writeGRPCError_writesError
  | suspendActor a => exact makes_call rfl .wrapped (fun _ => rfl) writeGRPCError_writesError
  | pauseActor a => exact makes_call rfl .wrapped (fun _ => rfl) writeGRPCError_writesError
  | resumeActor a body => exact handleResumeActor_makes s a body
  | proxyActor a body => exact proxyActor_makes s a body
  | createActorTemplate body => exact handleCreateK8sObject_makes rfc3339 s _ _ body
  | deleteActorTemplate ns name => exact handleDeleteK8sObject_makes s _ ns name
  | createWorkerPool body => exact handleCreateK8sObject_makes rfc3339 s _ _ body
  | deleteWorkerPool ns name => exact handleDeleteK8sObject_makes s _ ns name
  | createSecret body => exact handleCreateSecret_makes o rfc3339 s body
  | deleteSecret ns name => exact handleDeleteSecret_makes s ns name
  | createGatewayKey body => exact handleCreateGatewayKey_makes s body
  | deleteGatewayKey key =>
    exact makes_call rfl (fun _ => .deleted) (fun _ => rfl) writeGatewayError_writesError
  | registerGatewayModel body => exact handleRegisterGatewayModel_makes s body
  | deleteGatewayModel id =>
    exact makes_call rfl (fun _ => .deleted) (fun _ => rfl) writeGatewayError_writesError

theorem serve_only (o : Unstructured → MapOrder) (rfc3339 : String → String)
    (s : Server Atespace Actor) (r : MutatingRequest) : Only r.call (serve o rfc3339 s r) := by
  intro made hmade
  rw [serve_makes o rfc3339 s r made hmade]

/-- **A request leads to its call, once, unless it is rejected.** -/
theorem serve_calls (o : Unstructured → MapOrder) (rfc3339 : String → String)
    (s : Server Atespace Actor) (r : MutatingRequest) :
    (serve o rfc3339 s r).trace.calls.map (·.call) = if r.rejected s then [] else [r.call] := by
  have honly := serve_only o rfc3339 s r
  have hguarded := serve_guarded o rfc3339 s r
  unfold Only at honly
  generalize (serve o rfc3339 s r).trace = t at honly hguarded
  generalize r.rejected s = rejected at hguarded ⊢
  cases hguarded with
  | rejected hstatus => rfl
  | succeeded hc => exact congrArg (fun c => [c]) (honly _ (List.mem_singleton_self _))
  | failed hc hstatus => exact congrArg (fun c => [c]) (honly _ (List.mem_singleton_self _))

/-! ## Behind the mux -/

namespace Console

variable {Worker : Type} (c : Console Atespace Actor Worker)

/-- The request of a mutating route that an operation is run for. -/
def asks (req : HttpRequest) (pathValues : List (String × List UInt8)) :
    Endpoint → Option MutatingRequest
  | .createAtespace => some (.createAtespace (c.decoders.createAtespace req.body))
  | .deleteAtespace => some (.deleteAtespace name)
  | .createActor => some (.createActor (c.decoders.createActor req.body))
  | .updateActor => some (.updateActor actor (c.decoders.updateActor req.body))
  | .deleteActor => some (.deleteActor actor)
  | .suspendActor => some (.suspendActor actor)
  | .pauseActor => some (.pauseActor actor)
  | .resumeActor => some (.resumeActor actor (c.decoders.resumeActor req.body))
  | .proxyActor => some (.proxyActor actor (c.decoders.actorProxy req.body))
  | .createActorTemplate => some (.createActorTemplate (c.decoders.createK8sObject req.body))
  | .deleteActorTemplate => some (.deleteActorTemplate ns name)
  | .createWorkerPool => some (.createWorkerPool (c.decoders.createK8sObject req.body))
  | .deleteWorkerPool => some (.deleteWorkerPool ns name)
  | .createSecret => some (.createSecret (c.decoders.createSecret req.body))
  | .deleteSecret => some (.deleteSecret ns name)
  | .createGatewayKey => some (.createGatewayKey (c.decoders.generateKey req.body))
  | .deleteGatewayKey => some (.deleteGatewayKey (pathValue pathValues "key"))
  | .registerGatewayModel => some (.registerGatewayModel (c.decoders.registerModel req.body))
  | .deleteGatewayModel => some (.deleteGatewayModel (pathValue pathValues "id"))
  | .healthz | .listAtespaces | .listActors | .getActor | .listWorkers | .listActorTemplates
  | .listWorkerPools | .listSecrets | .gatewayInfo | .listGatewayKeys | .listGatewayModels
  | .metricsOverview | .metricsSpendLogs | .static => none
where
  name := pathValue pathValues "name"
  ns := pathValue pathValues "namespace"
  actor : ActorRef := ⟨pathValue pathValues "atespace", name⟩

/-- The request of a mutating route that the mux hands to its handler. -/
def asked (req : HttpRequest) : Option MutatingRequest :=
  match findHandler routes req.method req.escapedPath with
  | .handler e pathValues => c.asks req pathValues e
  | _ => none

/-- What the mutating handlers call and write. -/
def performed (req : HttpRequest) : Trace Call (Body Atespace Actor) :=
  match c.asked req with
  | some r => (serve c.order c.rfc3339 c.server.toServer r).trace
  | none => {}

theorem performed_asked {req : HttpRequest} {r : MutatingRequest} (h : c.asked req = some r) :
    c.performed req = (serve c.order c.rfc3339 c.server.toServer r).trace := by
  unfold performed
  rw [h]

end Console

end Api
