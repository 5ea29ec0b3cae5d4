import SubstrateControl.Gateway.Answers
import SubstrateControl.Gateway.Registration

/-!
# Reported creations

`GenerateKey` and `RegisterModel` (`internal/gateway/client.go`) over what happens to their request.

* `GenerateKey`, `RegisterModel` — the calls, from the wire.
* `UsableKey`, `UsableModel` — a success comes with a key, or with an id that can be deleted.
* `Accepts` — LiteLLM answers below 400 with nothing or with an object, null being the empty one.
* `created_usable_iff` — successes are usable exactly when no accepting answer leaves the key, or
  every place of the id, empty.
-/

set_option autoImplicit false

namespace Gateway

open Go

section

variable (go : Runtime) (upstreamMessage : ℕ → List UInt8 → String)
  (explain : List UInt8 → String)

/-- The decoded answer to a creating request. -/
def createdAnswer (rt : RoundTrip) : Except Err JObj :=
  doRequest upstreamMessage (mapShape.unmarshal explain) [] rt

/-- `GenerateKey`. -/
def GenerateKey (req : GenerateKeyRequest) (rt : RoundTrip) : Except Err GeneratedKey :=
  (createdAnswer upstreamMessage explain rt).map (generateKey go req)

/-- `RegisterModel`. -/
def RegisterModel (req : RegisterModelRequest) (rt : RoundTrip) : Except Err Model :=
  (createdAnswer upstreamMessage explain rt).map (registerModel go req)

end

/-- A success comes with a key. -/
def UsableKey (result : Except Err GeneratedKey) : Prop := ∀ k, result = .ok k → k.key ≠ ""

/-- A success comes with an id. -/
def UsableModel (result : Except Err Model) : Prop := ∀ m, result = .ok m → m.id ≠ ""

/-- LiteLLM answers below 400 with no body, or with one that decodes to `resp`. -/
def Accepts (rt : RoundTrip) (resp : JObj) : Prop :=
  ∃ status body, rt = .answered status body ∧ status < 400 ∧
    ((body = [] ∧ resp = []) ∨
      (parse (body.take readLimit)).bind (decodeMap parseFloat []) = some resp)

/-- The answer has no key. -/
def Keyless (resp : JObj) : Prop := (resp.get "key").isEmpty = true

/-- The answer has an id neither in its `model_info` nor beside it. -/
def Idless (resp : JObj) : Prop :=
  (∀ info, resp.get "model_info" = .obj info → (JObj.get info "id").isEmpty = true) ∧
  (resp.get "model_id").isEmpty = true

section

variable {go : Runtime} {upstreamMessage : ℕ → List UInt8 → String}
  {explain : List UInt8 → String}

/-- **A creating request succeeds with what LiteLLM accepts it by.** -/
theorem createdAnswer_ok_iff (rt : RoundTrip) (resp : JObj) :
    createdAnswer upstreamMessage explain rt = .ok resp ↔ Accepts rt resp := by
  unfold createdAnswer Accepts
  cases rt with
  | answered status body =>
    simp only [RoundTrip.answered.injEq, ↓existsAndEq, true_and]
    by_cases hstatus : 400 ≤ status
    · simp [doRequest, hstatus]
    · have hlt : status < 400 := Nat.lt_of_not_le hstatus
      by_cases hbody : body = []
      · subst hbody
        have hnone : parse [] = none := rfl
        simp [doRequest, hstatus, hlt, hnone, eq_comm]
      · rw [doRequest_answered hlt hbody]
        have hread : mapShape.read parseFloat = decodeMap parseFloat [] := rfl
        rw [hread]
        cases (parse (body.take readLimit)).bind (decodeMap parseFloat []) with
        | none => simp [hlt, hbody]
        | some m => simp [hlt, hbody]
  | noKey msg => simp [doRequest]
  | encodeFailed msg => simp [doRequest]
  | buildFailed msg => simp [doRequest]
  | failed msg => simp [doRequest]
  | readFailed msg => simp [doRequest]

/-- What a creating call returns is made from what LiteLLM accepts it by. -/
theorem created_ok_iff {α : Type} {f : JObj → α} (rt : RoundTrip) (a : α) :
    (createdAnswer upstreamMessage explain rt).map f = .ok a ↔
      ∃ resp, Accepts rt resp ∧ f resp = a := by
  have haccepts : ∀ resp, Accepts rt resp ↔
      createdAnswer upstreamMessage explain rt = .ok resp :=
    fun resp => (createdAnswer_ok_iff rt resp).symm
  simp only [haccepts]
  cases createdAnswer upstreamMessage explain rt with
  | error e => simp [Except.map]
  | ok resp => simp [Except.map]

/-- The id of a registered model, by where the answer has one. -/
theorem registerModel_id_eq_empty_iff (hgo : PrintsNumbers go) (req : RegisterModelRequest)
    (resp : JObj) : (registerModel go req resp).id = "" ↔ Idless resp := by
  unfold registerModel Idless
  rw [← strField_eq_empty_iff hgo resp "model_id"]
  cases hinfo : resp.get "model_info" with
  | obj info =>
    have hid := strField_eq_empty_iff hgo info "id"
    by_cases hempty : strField go info "id" = ""
    · simp [hempty, hid.mp hempty]
    · simp [hempty, mt hid.mpr hempty]
  | null => simp
  | bool b => simp
  | num q => simp
  | str s => simp
  | arr xs => simp

/-- **Reported creations are usable** exactly when LiteLLM does not accept a key without giving it,
or a model without giving its id. -/
theorem created_usable_iff (hgo : PrintsNumbers go) (rt : RoundTrip) :
    (∀ req, UsableKey (GenerateKey go upstreamMessage explain req rt) ↔
      ∀ resp, Accepts rt resp → ¬ Keyless resp) ∧
    (∀ req, UsableModel (RegisterModel go upstreamMessage explain req rt) ↔
      ∀ resp, Accepts rt resp → ¬ Idless resp) := by
  constructor
  · intro req
    unfold UsableKey GenerateKey Keyless
    simp only [created_ok_iff, ← strField_eq_empty_iff hgo]
    constructor
    · exact fun h resp hresp => h _ ⟨resp, hresp, rfl⟩
    · rintro h k ⟨resp, hresp, rfl⟩
      exact h resp hresp
  · intro req
    unfold UsableModel RegisterModel
    simp only [created_ok_iff, ← registerModel_id_eq_empty_iff hgo req]
    constructor
    · exact fun h resp hresp => h _ ⟨resp, hresp, rfl⟩
    · rintro h m ⟨resp, hresp, rfl⟩
      exact h resp hresp

/-- LiteLLM answers with an empty body. -/
theorem created_usable_emptyBody :
    let go : Runtime := ⟨fun q => if q = 0 then "0" else "1", fun _ => 0⟩
    let rt : RoundTrip := .answered 200 []
    (∀ req, UsableKey (GenerateKey go (fun _ _ => "") (fun _ => "") req rt) ↔
      ∀ resp, Accepts rt resp → ¬ Keyless resp) ∧
    (∀ req, UsableModel (RegisterModel go (fun _ _ => "") (fun _ => "") req rt) ↔
      ∀ resp, Accepts rt resp → ¬ Idless resp) :=
  created_usable_iff (fun q => by dsimp only; split <;> decide) (.answered 200 [])

/-- An empty object is taken for a key and for a model. -/
theorem created_usable_counterexample :
    let go : Runtime := ⟨fun _ => "0", fun _ => 0⟩
    let rt : RoundTrip := .answered 200 (utf8 "\x7b\x7d".toList)
    GenerateKey go (fun _ _ => "") (fun _ => "") ⟨"agent", "", [], 0⟩ rt =
      .ok ⟨"", "agent", "", ""⟩ ∧
    RegisterModel go (fun _ _ => "") (fun _ => "") ⟨"gpt", "openai/gpt", "sk-1", "", []⟩ rt =
      .ok ⟨"", "gpt", "openai/gpt", "openai", "", true, "", ""⟩ :=
  ⟨by decide, by decide⟩

end

end Gateway
