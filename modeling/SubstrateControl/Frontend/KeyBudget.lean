import SubstrateControl.Api.Keys
import SubstrateControl.Frontend.GenerateKeyDialog

/-!
# The budget of a key, from the dialog to LiteLLM

A budget passes through the dialog, the JSON of the request, `handleCreateGatewayKey` and
`GenerateKey`.

* `generateKeyTrace` — what the server does on a submit.
* `BudgetKept` — no key is generated for a text without a positive `max_budget`.
* `budget_kept_iff` — the texts for which that holds.
-/

set_option autoImplicit false

namespace Frontend

open Go Js Api Kit.Float

/-- What the request is written and read with: the engine's decimals, and the texts of errors. -/
structure Wire where
  numbers : NumberToString
  explain : List UInt8 → String

variable {Atespace Actor : Type}

/-- `POST /api/gateway/keys` with the request of a submit, where the dialog sends one. -/
def generateKeyTrace (w : Wire) (s : Server Atespace Actor) (d : GenerateKeyDialog) :
    Option (Trace Call (Body Atespace Actor)) :=
  d.handleGenerate.map fun req =>
    (handleCreateGatewayKey s
      (generateKeyRequestBody w.explain (stringify w.numbers req.toValue))).trace

/-- Whatever else is in the form, every call to `/key/generate` for the budget `text` carries a
positive budget. -/
def BudgetKept (s : Server Atespace Actor) (text : String) : Prop :=
  ∀ (w : Wire) (d : GenerateKeyDialog), d.maxBudget = text →
    ∀ t, generateKeyTrace w s d = some t →
      ∀ made ∈ t.calls, ∀ req, made.call = .generateKey req →
        ∃ q, (Gateway.generateKeyBody req).get "max_budget" = .num q ∧ 0 < q

/-! ## The request that is read -/

/-- The budget the server reads: null and a missing one leave zero. -/
def readBudget : Option Number → ℚ
  | some (.finite x) => x.val
  | some .nan => 0
  | some (.infinity _) => 0
  | none => 0

/-- The request the server reads. -/
def readRequest (r : GenerateKeyRequest) : GenerateKeyRequestJSON :=
  { keyAlias := r.keyAlias
    duration := r.duration.getD ""
    models := r.models.getD []
    maxBudget := readBudget r.maxBudget }

theorem keyRequest_maxBudget (r : GenerateKeyRequest) :
    (keyRequest (readRequest r)).maxBudget = readBudget r.maxBudget := rfl

theorem depth_strings : ∀ ss : List String, itemsDepth (ss.map .string) = 0
  | [] => rfl
  | s :: ss => by
    rw [List.map_cons, Js.itemsDepth, depth_strings ss]
    rfl

theorem toValue_depth (r : GenerateKeyRequest) : r.toValue.depth ≤ maxNestingDepth := by
  obtain ⟨keyAlias, duration, models, maxBudget⟩ := r
  cases duration <;> cases models <;> cases maxBudget <;>
    simp [GenerateKeyRequest.toValue, Value.depth, Js.fieldsDepth, depth_strings, maxNestingDepth]

theorem itemsToJVal_strings (n : NumberToString) : ∀ ss : List String,
    Js.itemsToJVal n (ss.map .string) = ss.map .str
  | [] => rfl
  | s :: ss => by
    rw [List.map_cons, Js.itemsToJVal, itemsToJVal_strings n ss]
    rfl

/-- The members of a request are set one after the other. -/
def setFields (n : NumberToString) (req : GenerateKeyRequestJSON) (m : List (String × Value)) :
    Option GenerateKeyRequestJSON :=
  (m.map fun kv => (kv.1, kv.2.toJVal n)).foldlM (fun req kv => setKeyField req kv.1 kv.2) req

theorem setFields_append (n : NumberToString) (req : GenerateKeyRequestJSON)
    (m m' : List (String × Value)) :
    setFields n req (m ++ m') = (setFields n req m).bind fun req => setFields n req m' := by
  unfold setFields
  rw [List.map_append, List.foldlM_append]
  rfl

theorem setFields_duration (n : NumberToString) (req : GenerateKeyRequestJSON)
    (hzero : req.duration = "") (duration : Option String) :
    setFields n req (duration.map fun d => ("duration", Value.string d)).toList =
      some { req with duration := duration.getD "" } := by
  cases duration with
  | none =>
    rw [Option.getD_none, ← hzero]
    rfl
  | some d => rfl

theorem setFields_models (n : NumberToString) (req : GenerateKeyRequestJSON)
    (hzero : req.models = []) (models : Option (List String)) :
    setFields n req
        (models.map fun models => ("models", Value.array (models.map .string))).toList =
      some { req with models := models.getD [] } := by
  cases models with
  | none =>
    rw [Option.getD_none, ← hzero]
    rfl
  | some models =>
    have hset : setFields n req [("models", .array (models.map .string))] =
        (decodeStrings req.models ((Value.array (models.map .string)).toJVal n)).map fun models =>
          { req with models } := by
      show (Option.map _ (decodeStrings _ _)).bind some = _
      rw [Option.bind_fun_some]
    rw [Option.map_some, Option.toList_some, hset, Value.toJVal, itemsToJVal_strings,
      decodeStrings, decodeStringElems_str, Option.map_some]
    rfl

/-- Null and a missing budget leave the zero value. -/
theorem setFields_budget (n : NumberToString) (req : GenerateKeyRequestJSON)
    (hzero : req.maxBudget = 0) (maxBudget : Option Number) :
    setFields n req (maxBudget.map fun b => ("maxBudget", Value.number b)).toList =
      some { req with maxBudget := readBudget maxBudget } := by
  have hset : ∀ b, setFields n req [("maxBudget", .number b)] =
      (Gateway.decodeNumber parseFloat 0 ((Value.number b).toJVal n)).map fun maxBudget =>
        { req with maxBudget } := by
    intro b
    rw [← hzero]
    show (Option.map _ (Gateway.decodeNumber _ _ _)).bind some = _
    rw [Option.bind_fun_some]
  cases maxBudget with
  | none =>
    rw [readBudget, ← hzero]
    rfl
  | some b =>
    rw [Option.map_some, Option.toList_some, hset]
    cases b with
    | nan => rfl
    | infinity negative => rfl
    | finite x =>
      rw [Value.toJVal, Gateway.decodeNumber, n.parseFloat_decimal]
      rfl

theorem toGenerateKey_toJVal (n : NumberToString) (r : GenerateKeyRequest) :
    toGenerateKey (r.toValue.toJVal n) = some (readRequest r) := by
  have hfields : toGenerateKey (r.toValue.toJVal n) = setFields n {}
      ([("keyAlias", .string r.keyAlias)] ++
        (r.duration.map fun d => ("duration", Value.string d)).toList ++
        (r.models.map fun models => ("models", Value.array (models.map .string))).toList ++
        (r.maxBudget.map fun b => ("maxBudget", Value.number b)).toList) := by
    rw [GenerateKeyRequest.toValue, Value.toJVal, Js.fieldsToJVal_eq]
    rfl
  have halias : setFields n {} [("keyAlias", .string r.keyAlias)] =
      some { keyAlias := r.keyAlias } := rfl
  rw [hfields, setFields_append, setFields_append, setFields_append, halias, Option.bind_some,
    setFields_duration n _ rfl, Option.bind_some, setFields_models n _ rfl, Option.bind_some,
    setFields_budget n _ rfl]
  rfl

/-- **The server reads what the dialog sends**, a number that is not finite as none. -/
theorem generateKeyRequestBody_stringify (w : Wire) (r : GenerateKeyRequest) :
    generateKeyRequestBody w.explain (stringify w.numbers r.toValue) = .value (readRequest r) := by
  have hspace : skipSpace (stringify w.numbers r.toValue) ≠ [] := by
    obtain ⟨b, t, hb, hspace, -⟩ := stringify_head w.numbers r.toValue
    rw [hb, skipSpace_cons hspace]
    simp
  unfold generateKeyRequestBody
  rw [if_neg hspace, firstValue_stringify w.numbers (toValue_depth r), Option.bind_some,
    toGenerateKey_toJVal]

/-! ## The call that is made -/

/-- A submit makes one call, with the request the server reads. -/
theorem generateKeyTrace_calls (w : Wire) (s : Server Atespace Actor) {d : GenerateKeyDialog}
    {r : GenerateKeyRequest} (hsend : d.handleGenerate = some r) :
    ∃ t, generateKeyTrace w s d = some t ∧
      t.calls = [⟨.generateKey (keyRequest (readRequest r)),
        (s.generateKey (keyRequest (readRequest r))).isOk⟩] := by
  have halias : (readRequest r).keyAlias ≠ "" := by
    unfold GenerateKeyDialog.handleGenerate GenerateKeyDialog.canGenerate at hsend
    split at hsend
    · rename_i hcan
      cases hsend
      simp only [Bool.and_eq_true, bne_iff_ne] at hcan
      exact hcan.1.1
    · cases hsend
  unfold generateKeyTrace
  rw [hsend, Option.map_some, generateKeyRequestBody_stringify]
  refine ⟨_, rfl, ?_⟩
  unfold handleCreateGatewayKey
  simp only [decodeBody, if_neg halias]
  exact call_calls (fun _ => rfl) writeGatewayError_writesError

/-- A budget is carried where it is not zero. -/
theorem generateKeyBody_budget (req : Gateway.GenerateKeyRequest) :
    (∃ q, (Gateway.generateKeyBody req).get "max_budget" = .num q ∧ 0 < q) ↔
      0 < req.maxBudget := by
  have hget : (Gateway.generateKeyBody req).get "max_budget" =
      if req.maxBudget ≠ 0 then .num req.maxBudget else .null := by
    unfold Gateway.generateKeyBody JObj.get
    split_ifs <;> rfl
  rw [hget]
  constructor
  · rintro ⟨q, hq, hpos⟩
    split at hq
    · cases hq
      exact hpos
    · cases hq
  · intro hpos
    rw [if_pos hpos.ne']
    exact ⟨_, rfl, hpos⟩

/-- The budget that is read is positive when the text is that of a positive finite number. -/
theorem readBudget_pos_iff (text : String) : 0 < readBudget (GenerateKeyDialog.budget text) ↔
    ∃ x, stringToNumber text = .finite x ∧ 0 < x.val := by
  have hblank : trim text = "" → ¬ ∃ x, stringToNumber text = .finite x ∧ 0 < x.val := by
    intro hblank
    rw [stringToNumber_finite_pos_iff]
    rintro ⟨q, hq, -⟩
    unfold literalOf at hq
    rw [hblank] at hq
    cases hq
  unfold GenerateKeyDialog.budget
  by_cases htrim : trim text = ""
  · simp only [htrim, bne_self_eq_false, Bool.false_and]
    exact iff_of_false (lt_irrefl 0) (hblank htrim)
  · have htrim' : (trim text != "") = true := by simpa using htrim
    simp only [htrim', Bool.true_and]
    cases stringToNumber text with
    | nan => exact iff_of_false (lt_irrefl 0) nofun
    | infinity negative =>
      refine iff_of_false ?_ nofun
      cases negative <;> exact lt_irrefl 0
    | finite x =>
      have hkept : readBudget (if (!(Number.finite x).isNaN && (Number.finite x).positive) = true
          then some (.finite x) else none) = if 0 < x.val then x.val else 0 := by
        simp only [Number.isNaN, Number.positive, Bool.not_false, Bool.true_and,
          decide_eq_true_eq]
        split
        · rfl
        · rfl
      rw [hkept]
      constructor
      · intro h
        split at h
        · rename_i hpos
          exact ⟨x, rfl, hpos⟩
        · exact absurd h (lt_irrefl 0)
      · rintro ⟨y, hy, hpos⟩
        cases hy
        rw [if_pos hpos]
        exact hpos

/-- A form with nothing but a name and a budget. -/
def plainForm (text : String) : GenerateKeyDialog := { keyAlias := "agent", maxBudget := text }

theorem plainForm_send (text : String) : (plainForm text).handleGenerate =
    some ⟨"agent", none, some [], GenerateKeyDialog.budget text⟩ := by
  have hcan : (plainForm text).canGenerate = true := by
    show (trim "agent" != "" && true && true) = true
    decide
  have hmodels : ((GenerateKeyDialog.splitComma "").map trim).filter (· ≠ "") = [] := by decide
  have halias : trim "agent" = "agent" := by decide
  unfold GenerateKeyDialog.handleGenerate
  rw [if_pos hcan]
  simp only [plainForm, hmodels, halias]
  rfl

/-- **A budget is kept** exactly when its text is a number literal above half the least positive
value and below what overflows. -/
theorem budget_kept_iff (s : Server Atespace Actor) (text : String) :
    BudgetKept s text ↔ ∃ q, literalOf text = some (.value q) ∧
      (2 : ℚ) ^ (-1075 : ℤ) < q ∧ q < 2 ^ (1024 : ℤ) - 2 ^ (970 : ℤ) := by
  rw [← stringToNumber_finite_pos_iff, ← readBudget_pos_iff]
  constructor
  · intro hkept
    obtain ⟨t, ht, hcalls⟩ := generateKeyTrace_calls ⟨exactDecimal, fun _ => ""⟩ s
      (plainForm_send text)
    have hbudget := hkept _ _ rfl t ht _ (hcalls ▸ List.mem_singleton_self _) _ rfl
    rw [generateKeyBody_budget, keyRequest_maxBudget] at hbudget
    exact hbudget
  · intro hpos w d hd t ht made hmade req hreq
    unfold generateKeyTrace at ht
    rw [Option.map_eq_some_iff] at ht
    obtain ⟨r, hsend, htrace⟩ := ht
    have hbudget : r.maxBudget = GenerateKeyDialog.budget text := by
      unfold GenerateKeyDialog.handleGenerate at hsend
      split at hsend
      · cases hsend
        rw [hd]
      · cases hsend
    obtain ⟨t', ht', hcalls⟩ := generateKeyTrace_calls w s hsend
    unfold generateKeyTrace at ht'
    rw [hsend, Option.map_some, htrace, Option.some.injEq] at ht'
    rw [ht', hcalls, List.mem_singleton] at hmade
    rw [hmade] at hreq
    cases hreq
    rw [generateKeyBody_budget, keyRequest_maxBudget, hbudget]
    exact hpos

/-- A server that generates a key for every request. -/
def mintingServer : Server Unit Unit :=
  { idleServer with generateKey := fun req => .ok ⟨"sk-1", req.keyAlias, req.duration, ""⟩ }

/-- A budget with its currency is neither blank nor zero, and the key that is generated for it has
no budget at all. -/
theorem budget_kept_counterexample :
    trim "10 USD" ≠ "" ∧ literalOf "10 USD" ≠ some (.value 0) ∧
    (∃ t, generateKeyTrace ⟨exactDecimal, fun _ => ""⟩ mintingServer (plainForm "10 USD") = some t ∧
      t.calls = [⟨.generateKey ⟨"agent", "", [], 0⟩, true⟩]) ∧
    Gateway.generateKeyBody ⟨"agent", "", [], 0⟩ = [("key_alias", .str "agent")] ∧
    ¬ BudgetKept mintingServer "10 USD" := by
  obtain ⟨t, ht, hcalls⟩ := generateKeyTrace_calls ⟨exactDecimal, fun _ => ""⟩ mintingServer
    (plainForm_send "10 USD")
  have hcalls : t.calls = [⟨.generateKey ⟨"agent", "", [], 0⟩, true⟩] := hcalls
  refine ⟨by decide, by decide, ⟨t, ht, hcalls⟩, rfl, fun hkept => ?_⟩
  obtain ⟨q, hq, -⟩ := hkept _ _ rfl t ht _ (hcalls ▸ List.mem_singleton_self _) _ rfl
  cases hq

end Frontend
