import SubstrateControl.Gateway.Admin
import SubstrateControl.Gateway.Client

/-!
# Registering and listing

What `RegisterModel` says of a model against what `ListModels` says of it later
(`internal/gateway/client.go`).

* `Stores` — a LiteLLM that answers with the name and lists what was submitted, credentials aside.
* `Agrees` — the two models are one in what the console shows of them.
* `registered_agrees_iff` — they are exactly when an API base is named outside the extra parameters,
  if at all.
-/

set_option autoImplicit false

namespace Gateway

open Go

/-- The request is accepted: none of the required fields is empty. -/
structure RegisterModelRequest.Accepted (req : RegisterModelRequest) : Prop where
  modelName : req.modelName ≠ ""
  model : req.model ≠ ""
  apiKey : req.apiKey ≠ ""

/-- LiteLLM answers the registration by `resp` and lists it as `e`. -/
structure Stores (req : RegisterModelRequest) (resp : JObj) (e : ModelInfo) : Prop where
  answered : resp.get "model_name" = .str req.modelName
  modelName : e.modelName = req.modelName
  params : ∀ k, sensitiveField k = false →
    e.litellmParams.get k = (registerModelParams req).get k
  dbModel : e.modelInfo.get "db_model" = .bool true

/-- The same model, as far as the registration determines it. -/
structure Agrees (m n : Model) : Prop where
  modelName : m.modelName = n.modelName
  model : m.model = n.model
  provider : m.provider = n.provider
  apiBase : m.apiBase = n.apiBase
  hasAPIKey : m.hasAPIKey = n.hasAPIKey

/-- A number is never printed as nothing. -/
def PrintsNumbers (go : Runtime) : Prop := ∀ q, go.formatFloat q ≠ ""

/-- A field reads as nothing when it is missing, null or the empty string. -/
theorem strField_eq_empty_iff {go : Runtime} (hgo : PrintsNumbers go) (m : JObj) (k : String) :
    strField go m k = "" ↔ (m.get k).isEmpty = true := by
  unfold strField
  cases m.get k with
  | null => simp [JVal.isEmpty]
  | str s => simp [JVal.isEmpty]
  | bool b => cases b <;> simp [JVal.isEmpty, sprintV]
  | num q => simpa [JVal.isEmpty, sprintV] using hgo q
  | arr xs => simp [JVal.isEmpty, sprintV, String.ext_iff]
  | obj n => simp [JVal.isEmpty, sprintV, String.ext_iff]

section

variable {go : Runtime} {req : RegisterModelRequest} {resp : JObj} {e : ModelInfo}

/-- The model of the listing is the one of the request. -/
theorem listed_model (h : Stores req resp e) : strField go e.litellmParams "model" = req.model := by
  unfold strField
  rw [h.params "model" sensitiveField_model, registerModelParams_get]
  rfl

/-- The API base of the listing is the one of the request, else that of its extra parameters. -/
theorem listed_apiBase (h : Stores req resp e) :
    strField go e.litellmParams "api_base" =
      if req.apiBase ≠ "" then req.apiBase else strField go req.extraParams "api_base" := by
  have hget : e.litellmParams.get "api_base" =
      if req.apiBase ≠ "" then .str req.apiBase else req.extraParams.get "api_base" := by
    rw [h.params "api_base" sensitiveField_apiBase, registerModelParams_get]
    simp
  unfold strField
  rw [hget]
  by_cases hempty : req.apiBase = ""
  · simp [hempty]
  · simp [hempty]

/-- **Registering and listing agree** exactly when the request has an API base of its own, or its
extra parameters have none. -/
theorem registered_agrees_iff (hgo : PrintsNumbers go) (haccepted : req.Accepted)
    (h : Stores req resp e) {data : List ModelInfo} {i : ℕ} (hlisted : data[i]? = some e) :
    (∃ m, (listModels go data)[i]? = some m ∧ Agrees (registerModel go req resp) m) ↔
      req.apiBase ≠ "" ∨ (req.extraParams.get "api_base").isEmpty = true := by
  have hentry : (listModels go data)[i]? =
      some (normalizeModel go e.modelName e.litellmParams e.modelInfo) := by
    simp [listModels, hlisted]
  have hname : strField go resp "model_name" = req.modelName := by
    unfold strField
    rw [h.answered]
  have hbase : Agrees (registerModel go req resp)
      (normalizeModel go e.modelName e.litellmParams e.modelInfo) ↔
      req.apiBase = strField go e.litellmParams "api_base" := by
    constructor
    · exact fun hagrees => hagrees.apiBase
    · intro hsame
      have hkeyed : isDBModel e.modelInfo = true := by
        unfold isDBModel
        rw [h.dbModel]
      exact
        { modelName := by simp [registerModel, normalizeModel, hname, haccepted.modelName,
            h.modelName]
          model := (listed_model h).symm
          provider := congrArg providerOf (listed_model h).symm
          apiBase := hsame
          hasAPIKey := by simp [registerModel, normalizeModel, hkeyed] }
  rw [hentry, ← strField_eq_empty_iff hgo]
  simp only [Option.some.injEq, exists_eq_left', hbase, listed_apiBase h]
  by_cases hempty : req.apiBase = ""
  · simp only [hempty, ne_eq, not_true_eq_false, if_false, false_or]
    exact eq_comm
  · simp [hempty]

/-- A request that limits the rate, listed without its key. -/
theorem registered_agrees_rateLimited :
    let go : Runtime := ⟨fun _ => "60", fun _ => 0⟩
    let req : RegisterModelRequest := ⟨"claude", "anthropic/claude", "sk-1", "", [("rpm", .num 60)]⟩
    let resp : JObj := [("model_name", .str "claude"), ("model_id", .str "m1")]
    let e : ModelInfo := ⟨"claude", JObj.erase (registerModelParams req) "api_key",
      [("id", .str "m1"), ("db_model", .bool true)]⟩
    (∃ m, (listModels go [e])[0]? = some m ∧ Agrees (registerModel go req resp) m) ↔
      req.apiBase ≠ "" ∨ (req.extraParams.get "api_base").isEmpty = true := by
  intro go req resp e
  refine registered_agrees_iff (fun _ => show "60" ≠ "" by decide) ⟨by decide, by decide, by decide⟩
    ⟨rfl, rfl, fun k hk => ?_, rfl⟩ rfl
  have hkey : k ≠ "api_key" := by
    rintro rfl
    revert hk
    decide
  rw [JObj.get_erase, if_neg hkey]

/-- An API base among the extra parameters is listed, but not shown when the model is registered. -/
theorem registered_agrees_counterexample :
    let go : Runtime := ⟨fun q => toString q.num, fun _ => 0⟩
    let req : RegisterModelRequest :=
      ⟨"llama", "ollama/llama3", "none", "", [("api_base", .str "http://ollama")]⟩
    let resp : JObj := [("model_name", .str "llama")]
    let e : ModelInfo := ⟨"llama", registerModelParams req, [("db_model", .bool true)]⟩
    req.Accepted ∧ Stores req resp e ∧ (registerModel go req resp).apiBase = "" ∧
      (listModels go [e]).map Model.apiBase = ["http://ollama"] :=
  ⟨⟨by decide, by decide, by decide⟩, ⟨rfl, rfl, fun _ _ => rfl, rfl⟩, rfl, by decide⟩

end

end Gateway
