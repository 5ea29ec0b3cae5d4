import SubstrateControl.Gateway.Models
import SubstrateControl.Go.Maps

/-!
# Keys and models that are created

Model of the creating calls in `internal/gateway/client.go`:

* `GenerateKeyRequest`, `generateKeyBody`, `generateKey` — what `GenerateKey` sends to
  `/key/generate`, and what it returns of the answer.
* `RegisterModelRequest`, `registerModelParams`, `registerModelBody`, `registerModel` — what
  `RegisterModel` is given, what it sends to `/model/new`, and what it makes of the answer.
* `registerModelParams_get` — the parameters that are sent, by name.
-/

set_option autoImplicit false

namespace Gateway

open Go

/-- `gateway.GenerateKeyRequest`. -/
structure GenerateKeyRequest where
  keyAlias : String
  duration : String
  models : List String
  maxBudget : ℚ
  deriving DecidableEq, Repr

/-- `gateway.GeneratedKey`. -/
structure GeneratedKey where
  key : String
  keyAlias : String
  duration : String
  expires : String
  deriving DecidableEq, Repr

/-- The body of `POST /key/generate`: zero-valued optional fields are omitted. -/
def generateKeyBody (req : GenerateKeyRequest) : JObj :=
  [("key_alias", .str req.keyAlias)] ++
  (if req.duration ≠ "" then [("duration", .str req.duration)] else []) ++
  (if req.models.length > 0 then [("models", .arr (req.models.map .str))] else []) ++
  (if req.maxBudget ≠ 0 then [("max_budget", .num req.maxBudget)] else [])

/-- `GenerateKey` on the decoded answer. -/
def generateKey (go : Runtime) (req : GenerateKeyRequest) (resp : JObj) : GeneratedKey :=
  { key := strField go resp "key"
    keyAlias :=
      if strField go resp "key_alias" = "" then req.keyAlias else strField go resp "key_alias"
    duration :=
      if strField go resp "duration" = "" then req.duration else strField go resp "duration"
    expires := strField go resp "expires" }

/-- `gateway.RegisterModelRequest`; the key is write-only. -/
structure RegisterModelRequest where
  modelName : String
  model : String
  apiKey : String
  apiBase : String
  extraParams : JObj
  deriving Repr

/-- The `litellm_params` of a registration: `extraParams` cannot override the model and the key. -/
def registerModelParams (req : RegisterModelRequest) : JObj :=
  let params := req.extraParams
  let params := if req.apiBase ≠ "" then JObj.set params "api_base" (.str req.apiBase) else params
  JObj.set (JObj.set params "model" (.str req.model)) "api_key" (.str req.apiKey)

/-- The body of `POST /model/new`. -/
def registerModelBody (req : RegisterModelRequest) : JObj :=
  [("model_name", .str req.modelName), ("litellm_params", .obj (registerModelParams req))]

/-- `RegisterModel` on the decoded answer: the result is built from the request, and from the id and
the timestamps of the answer. -/
def registerModel (go : Runtime) (req : RegisterModelRequest) (resp : JObj) : Model :=
  let name := strField go resp "model_name"
  let id :=
    match resp.get "model_info" with
    | .obj info => strField go info "id"
    | _ => ""
  { id := if id = "" then strField go resp "model_id" else id
    modelName := if name ≠ "" then name else req.modelName
    model := req.model
    provider := providerOf req.model
    apiBase := req.apiBase
    hasAPIKey := true
    createdAt := strField go resp "created_at"
    updatedAt := strField go resp "updated_at" }

theorem registerModelParams_get (req : RegisterModelRequest) (k : String) :
    (registerModelParams req).get k =
      if k = "api_key" then .str req.apiKey
      else if k = "model" then .str req.model
      else if k = "api_base" ∧ req.apiBase ≠ "" then .str req.apiBase
      else req.extraParams.get k := by
  unfold registerModelParams
  simp only [JObj.get_set]
  by_cases hbase : req.apiBase = ""
  · simp [hbase]
  · simp [hbase, JObj.get_set]

end Gateway
