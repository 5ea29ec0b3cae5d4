import SubstrateControl.Api.Handler
import SubstrateControl.Gateway.Admin

/-!
# The server and its wire types

* the request bodies of `internal/api/types.go`, with their zero values as defaults;
* `Body` — the JSON bodies of successful responses;
* `Call` — the client calls of the handlers, and which of them change something;
* `Server` — the clients, each by what its calls return; the messages of the control plane are
  left abstract, as the handlers only pass them on.
-/

set_option autoImplicit false

namespace Api

open Go

/-! ## Requests -/

/-- `selectorJSON`, and the `pb.Selector` it becomes, as they are sent: without a nil map. -/
structure Selector where
  matchLabels : List (String × String)
  deriving DecidableEq, Repr

/-- `createAtespaceRequest`. -/
structure CreateAtespaceRequest where
  name : String := ""
  deriving DecidableEq, Repr

/-- `createActorRequest`. -/
structure CreateActorRequest where
  atespace : String := ""
  name : String := ""
  actorTemplateNamespace : String := ""
  actorTemplateName : String := ""
  workerSelector : Option Selector := none
  deriving DecidableEq, Repr

/-- `resumeActorRequest`. -/
structure ResumeActorRequest where
  boot : Bool := false
  deriving DecidableEq, Repr

/-- `updateActorRequest`, with the selector that is sent for it. -/
structure UpdateActorRequest where
  workerSelector : Option Selector := none
  deriving DecidableEq, Repr

/-- `createK8sObjectRequest`; without a `labels` field the map is nil. -/
structure CreateK8sObjectRequest where
  ns : String := ""
  name : String := ""
  labels : Option (List (String × String)) := none
  spec : JObj := []
  deriving Repr

/-- `createSecretRequest`. -/
structure CreateSecretRequest where
  ns : String := ""
  name : String := ""
  data : List (String × String) := []
  deriving DecidableEq, Repr

/-- `generateKeyRequestJSON`. -/
structure GenerateKeyRequestJSON where
  keyAlias : String := ""
  duration : String := ""
  models : List String := []
  maxBudget : ℚ := 0
  deriving DecidableEq, Repr

/-- `registerModelRequestJSON`. -/
structure RegisterModelRequestJSON where
  modelName : String := ""
  model : String := ""
  apiKey : String := ""
  apiBase : String := ""
  extraParams : JObj := []
  deriving Repr

/-! ## Responses -/

/-- `k8sObjectJSON`; spec and status are none where the object has no such map. -/
structure K8sObjectJSON where
  ns : String
  name : String
  uid : String
  creationTimestamp : String
  labels : Option (List (String × String))
  spec : Option JObj
  status : Option JObj
  deriving Repr

/-- `secretInfoJSON`. -/
structure SecretInfoJSON where
  ns : String
  name : String
  type : String
  keys : List String
  creationTimestamp : String
  deriving DecidableEq, Repr

/-- `gatewayModelJSON`. -/
structure GatewayModelJSON where
  id : String
  modelName : String
  model : String
  provider : String
  apiBase : String
  hasApiKey : Bool
  createdAt : String
  updatedAt : String
  deriving DecidableEq, Repr

/-- What `writeJSON` is given; the control plane's messages stand for their JSON. -/
inductive Body (Atespace Actor : Type) where
  | atespace (a : Atespace)
  | actor (a : Actor)
  /-- `{"actor": …}` -/
  | wrapped (a : Actor)
  /-- `{"deleted": true}` -/
  | deleted
  | proxied (r : ActorProxyResponse)
  | object (o : K8sObjectJSON)
  | secret (s : SecretInfoJSON)
  | secrets (items : List SecretInfoJSON)
  | generatedKey (k : Gateway.GeneratedKey)
  | model (m : GatewayModelJSON)
  | models (items : List GatewayModelJSON)

/-! ## Clients -/

/-- The fields `newActor` sets. -/
structure NewActor where
  atespace : String
  name : String
  actorTemplateNamespace : String
  actorTemplateName : String
  workerSelector : Option Selector
  deriving DecidableEq, Repr

/-- `newActor`. -/
def newActor (req : CreateActorRequest) : NewActor :=
  { atespace := req.atespace
    name := req.name
    actorTemplateNamespace := req.actorTemplateNamespace
    actorTemplateName := req.actorTemplateName
    workerSelector := req.workerSelector }

/-- The calls handlers make. -/
inductive Call where
  | createAtespace (name : String)
  | deleteAtespace (name : String)
  | createActor (a : NewActor)
  | deleteActor (a : ActorRef)
  | suspendActor (a : ActorRef)
  | pauseActor (a : ActorRef)
  | resumeActor (a : ActorRef) (boot : Bool)
  | updateActor (a : ActorRef) (selector : Option Selector)
  | forward (host method path body contentType : String)
  | createObject (gvr : Kube.GroupVersionResource) (obj : Kube.Unstructured)
  | deleteObject (gvr : Kube.GroupVersionResource) (ns name : String)
  | listSecrets (ns : String)
  | createSecret (obj : Kube.Unstructured)
  | deleteSecret (ns name : String)
  | generateKey (req : Gateway.GenerateKeyRequest)
  | deleteKey (key : String)
  | listModels
  | registerModel (req : Gateway.RegisterModelRequest)
  | deleteModel (id : String)

/-- The calls that change something. -/
def Call.mutating : Call → Bool
  | .listSecrets _ => false
  | .listModels => false
  | _ => true

/-- `kube.Client`. -/
structure KubeClient where
  createObject : Kube.GroupVersionResource → Kube.Unstructured →
    Except Kube.KubeError Kube.Unstructured
  deleteObject : Kube.GroupVersionResource → (ns name : String) → Except Kube.KubeError Unit
  listSecrets : (ns : String) → Except Kube.KubeError (List Kube.Unstructured)
  createSecret : Kube.Unstructured → Except Kube.KubeError Kube.Unstructured
  deleteSecret : (ns name : String) → Except Kube.KubeError Unit

/-- `Server`: the clients.  Without a Kubernetes client there is the error of its set-up. -/
structure Server (Atespace Actor : Type) where
  createAtespace : (name : String) → Except GRPCError Atespace
  deleteAtespace : (name : String) → Except GRPCError Atespace
  createActor : NewActor → Except GRPCError Actor
  deleteActor : ActorRef → Except GRPCError Actor
  suspendActor : ActorRef → Except GRPCError Actor
  pauseActor : ActorRef → Except GRPCError Actor
  resumeActor : ActorRef → (boot : Bool) → Except GRPCError Actor
  updateActor : ActorRef → Option Selector → Except GRPCError Actor
  forward : (host method path body contentType : String) →
    Except RouterProxy.NetError RouterProxy.Result
  kube : Except String KubeClient
  generateKey : Gateway.GenerateKeyRequest → Except Gateway.Err Gateway.GeneratedKey
  deleteKey : (key : String) → Except Gateway.Err Unit
  listModels : Except Gateway.Err (List Gateway.Model)
  registerModel : Gateway.RegisterModelRequest → Except Gateway.Err Gateway.Model
  deleteModel : (id : String) → Except Gateway.Err Unit

variable {Atespace Actor : Type}

/-- A server none of whose clients gets through. -/
def idleServer : Server Unit Unit :=
  let down : GRPCError := .status ⟨.unavailable, "down"⟩
  { createAtespace := fun _ => .error down
    deleteAtespace := fun _ => .error down
    createActor := fun _ => .error down
    deleteActor := fun _ => .error down
    suspendActor := fun _ => .error down
    pauseActor := fun _ => .error down
    resumeActor := fun _ _ => .error down
    updateActor := fun _ _ => .error down
    forward := fun _ _ _ _ _ => .error ⟨"down", false⟩
    kube := .error "no kubeconfig"
    generateKey := fun _ => .error (.classified ⟨.unreachable, "down"⟩)
    deleteKey := fun _ => .error (.classified ⟨.unreachable, "down"⟩)
    listModels := .error (.classified ⟨.unreachable, "down"⟩)
    registerModel := fun _ => .error (.classified ⟨.unreachable, "down"⟩)
    deleteModel := fun _ => .error (.classified ⟨.unreachable, "down"⟩) }

/-- A handler of the server, or a part of one. -/
abbrev Handler (Atespace Actor : Type) := HandlerM Call (Body Atespace Actor)

/-- `kubeUnavailable`: the client, or a response that says why there is none. -/
def kubeUnavailable (s : Server Atespace Actor) : Handler Atespace Actor (Option KubeClient) := do
  match s.kube with
  | .error e =>
    writeError 503 ("kubernetes client unavailable: " ++ e)
    return none
  | .ok kube => return some kube

section KubeUnavailable

variable {s : Server Atespace Actor} {k : Option KubeClient → Handler Atespace Actor Unit}

/-- Without a client a handler that returns then has written one error. -/
theorem kubeUnavailable_error {e : String} (hkube : s.kube = .error e) (hnone : k none = pure ()) :
    HandlerM.trace (kubeUnavailable s >>= k) =
      ⟨[], [.error 503 ("kubernetes client unavailable: " ++ e)]⟩ := by
  have hrun : HandlerM.trace ((do
      writeError 503 ("kubernetes client unavailable: " ++ e)
      return none : Handler Atespace Actor (Option KubeClient)) >>= k) =
      (StateT.run (k none) ⟨[], [.error 503 ("kubernetes client unavailable: " ++ e)]⟩).2 := rfl
  unfold kubeUnavailable
  rw [hkube, hrun, hnone]
  rfl

/-- With a client the handler goes on. -/
theorem kubeUnavailable_client {kube : KubeClient} (hkube : s.kube = .ok kube) :
    kubeUnavailable s >>= k = k (some kube) := by
  unfold kubeUnavailable
  rw [hkube]
  exact pure_bind _ _

/-- A success is only written by a handler that got the client. -/
theorem kubeUnavailable_ok {body : Body Atespace Actor} (hnone : k none = pure ())
    (h : .ok body ∈ (HandlerM.trace (kubeUnavailable s >>= k)).responses) :
    ∃ kube, s.kube = .ok kube ∧ .ok body ∈ (k (some kube)).trace.responses := by
  cases hkube : s.kube with
  | error e =>
    rw [kubeUnavailable_error hkube hnone] at h
    simp at h
  | ok kube =>
    rw [kubeUnavailable_client hkube] at h
    exact ⟨kube, rfl, h⟩

end KubeUnavailable

end Api
