import SubstrateControl.Api.ActorMessages
import SubstrateControl.Api.Keys
import SubstrateControl.Api.Respond
import SubstrateControl.Api.Specs
import SubstrateControl.Go.Struct

/-!
# The bodies of requests

`decodeBody` (`internal/api/server.go`) on the bytes of a body, for the request types of
`internal/api/types.go`.

* `createAtespaceRequest`, `createActorRequest`, `resumeActorRequest`, `createSecretRequest`,
  `registerModelRequestJSON`, `actorProxyRequest` — the structs that bodies are decoded into.
* `bodyOf` — what the decoder finds in a body, for one of them.
* `decoders` — all of them, as a server has them.
* `bodyOf_value` — a body that starts with a value is read as that.
-/

set_option autoImplicit false

namespace Api

open Go

/-! ## Structs -/

/-- `createAtespaceRequest`. -/
def createAtespaceRequest : Struct CreateAtespaceRequest where
  zero := {}
  fields := ["name"]
  setField req field v :=
    match field with
    | "name" => (decodeString req.name v).map fun name => { req with name }
    | _ => some req

/-- `createActorRequest`, as it is decoded. -/
structure CreateActorRequestJSON where
  atespace : String := ""
  name : String := ""
  actorTemplateNamespace : String := ""
  actorTemplateName : String := ""
  workerSelector : Option SelectorJSON := none
  deriving DecidableEq, Repr

/-- `createActorRequest`. -/
def createActorRequest : Struct CreateActorRequestJSON where
  zero := {}
  fields := ["atespace", "name", "actorTemplateNamespace", "actorTemplateName", "workerSelector"]
  setField req field v :=
    match field with
    | "atespace" => (decodeString req.atespace v).map fun atespace => { req with atespace }
    | "name" => (decodeString req.name v).map fun name => { req with name }
    | "actorTemplateNamespace" =>
      (decodeString req.actorTemplateNamespace v).map fun actorTemplateNamespace =>
        { req with actorTemplateNamespace }
    | "actorTemplateName" =>
      (decodeString req.actorTemplateName v).map fun actorTemplateName =>
        { req with actorTemplateName }
    | "workerSelector" =>
      (decodeSelector req.workerSelector v).map fun workerSelector => { req with workerSelector }
    | _ => some req

/-- The request a handler works on, with the selector as it is sent. -/
def CreateActorRequestJSON.request (req : CreateActorRequestJSON) : CreateActorRequest :=
  { atespace := req.atespace
    name := req.name
    actorTemplateNamespace := req.actorTemplateNamespace
    actorTemplateName := req.actorTemplateName
    workerSelector := sentSelector req.workerSelector }

/-- `resumeActorRequest`. -/
def resumeActorRequest : Struct ResumeActorRequest where
  zero := {}
  fields := ["boot"]
  setField req field v :=
    match field with
    | "boot" => (decodeBool req.boot v).map fun boot => { req with boot }
    | _ => some req

/-- `createSecretRequest`, as it is decoded: its map may be nil. -/
structure CreateSecretRequestJSON where
  ns : String := ""
  name : String := ""
  data : Option (List (String × String)) := none
  deriving DecidableEq, Repr

/-- `createSecretRequest`. -/
def createSecretRequest : Struct CreateSecretRequestJSON where
  zero := {}
  fields := ["namespace", "name", "data"]
  setField req field v :=
    match field with
    | "namespace" => (decodeString req.ns v).map fun ns => { req with ns }
    | "name" => (decodeString req.name v).map fun name => { req with name }
    | "data" => (decodeStringMap req.data v).map fun data => { req with data }
    | _ => some req

/-- A nil map has no entries. -/
def CreateSecretRequestJSON.request (req : CreateSecretRequestJSON) : CreateSecretRequest :=
  ⟨req.ns, req.name, req.data.getD []⟩

/-- `registerModelRequestJSON`. -/
def registerModelRequestJSON : Struct RegisterModelRequestJSON where
  zero := {}
  fields := ["modelName", "model", "apiKey", "apiBase", "extraParams"]
  setField req field v :=
    match field with
    | "modelName" => (decodeString req.modelName v).map fun modelName => { req with modelName }
    | "model" => (decodeString req.model v).map fun model => { req with model }
    | "apiKey" => (decodeString req.apiKey v).map fun apiKey => { req with apiKey }
    | "apiBase" => (decodeString req.apiBase v).map fun apiBase => { req with apiBase }
    | "extraParams" =>
      (decodeMap parseFloat req.extraParams v).map fun extraParams => { req with extraParams }
    | _ => some req

/-- `actorProxyRequest`. -/
def actorProxyRequest : Struct ActorProxyRequest where
  zero := {}
  fields := ["method", "path", "body", "contentType"]
  setField req field v :=
    match field with
    | "method" => (decodeString req.method v).map fun method => { req with method }
    | "path" => (decodeString req.path v).map fun path => { req with path }
    | "body" => (decodeString req.body v).map fun body => { req with body }
    | "contentType" =>
      (decodeString req.contentType v).map fun contentType => { req with contentType }
    | _ => some req

/-! ## Bodies -/

section

variable {ρ : Type} {explain : List UInt8 → String} {read : JVal → Option ρ}

/-- What the decoder finds in a body; `explain` is the text of its error. -/
def bodyOf (explain : List UInt8 → String) (read : JVal → Option ρ) (b : List UInt8) :
    DecodedBody ρ :=
  if skipSpace b = [] then .empty
  else
    match (firstValue b).bind read with
    | none => .malformed (explain b)
    | some req => .value req

/-- **A body is read as its first value is.** -/
theorem bodyOf_value {b : List UInt8} {v : JVal} {req : ρ} (hvalue : firstValue b = some v)
    (hread : read v = some req) : bodyOf explain read b = .value req := by
  have hne : skipSpace b ≠ [] := fun hempty => by
    rw [firstValue_empty hempty] at hvalue
    cases hvalue
  unfold bodyOf
  rw [if_neg hne, hvalue, Option.bind_some, hread]

end

/-- What the server decodes bodies with. -/
def decoders (explain : List UInt8 → String) : Decoders where
  createAtespace := bodyOf explain createAtespaceRequest.decode
  createActor := bodyOf explain fun v => (createActorRequest.decode v).map (·.request)
  updateActor := updateActorRequestBody explain
  resumeActor := bodyOf explain resumeActorRequest.decode
  actorProxy := bodyOf explain actorProxyRequest.decode
  createK8sObject := k8sObjectBody explain
  createSecret := bodyOf explain fun v => (createSecretRequest.decode v).map (·.request)
  generateKey := generateKeyRequestBody explain
  registerModel := bodyOf explain registerModelRequestJSON.decode

end Api
