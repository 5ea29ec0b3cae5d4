import SubstrateControl.Go.Decode

/-!
# The LiteLLM admin client: requests, errors and normalised answers

Model of `internal/gateway/client.go`:

* `Err` — a classified `*gateway.Error` or a plain error; `Err.isUpstream` is the `errors.As` test
  callers make.
* `doRequest` — `Client.do`: what one authenticated request gives, from what happens on the wire.
  At most 4 MiB of the answer are read.
* `strField`, `numField`, `intField`, `strSliceField` — the readers of a decoded object.
* `normalizeKey`, `spendLogs`, `globalSpendKeys`, `globalSpendModels` — the answers the console
  works on.

`doRequest_isUpstream` says when a request ends in an upstream error: exactly when LiteLLM
answered it with a status of 400 or above.
-/

set_option autoImplicit false

namespace Gateway

open Go

/-- `ErrorKind`. -/
inductive ErrorKind where
  | notConfigured
  | unreachable
  | upstream
  deriving DecidableEq, Repr

/-- `gateway.Error`. -/
structure Error where
  kind : ErrorKind
  message : String
  deriving DecidableEq, Repr

/-- A Go `error`: a `*gateway.Error` or one built by `fmt.Errorf`. -/
inductive Err where
  | classified (e : Error)
  | plain (message : String)
  deriving DecidableEq, Repr

/-- `errors.As(err, &ge) && ge.Kind == KindUpstream`. -/
def Err.isUpstream : Err → Bool
  | .classified e => e.kind == .upstream
  | .plain _ => false

/-- What happens to one request on its way to LiteLLM and back. -/
inductive RoundTrip where
  /-- `masterKey` fails -/
  | noKey (message : String)
  | encodeFailed (message : String)
  | buildFailed (message : String)
  /-- `hc.Do` fails -/
  | failed (message : String)
  | readFailed (message : String)
  | answered (status : ℕ) (body : List UInt8)
  deriving Repr

/-- `4<<20`, the limit of the body reader. -/
def readLimit : ℕ := 4 <<< 20

/-- `Client.do` for a target of type `α`, which is left at `zero` when the answer has no body. -/
def doRequest {α : Type} (upstreamMessage : ℕ → List UInt8 → String)
    (unmarshal : List UInt8 → Except String α) (zero : α) : RoundTrip → Except Err α
  | .noKey msg => .error (.classified ⟨.notConfigured, msg⟩)
  | .encodeFailed msg => .error (.plain ("encode request: " ++ msg))
  | .buildFailed msg => .error (.plain ("build request: " ++ msg))
  | .failed msg => .error (.classified ⟨.unreachable, msg⟩)
  | .readFailed msg => .error (.classified ⟨.unreachable, "reading response: " ++ msg⟩)
  | .answered status body =>
    let data := body.take readLimit
    if 400 ≤ status then .error (.classified ⟨.upstream, upstreamMessage status data⟩)
    else if data.isEmpty then .ok zero
    else
      match unmarshal data with
      | .error msg => .error (.plain ("decode litellm response: " ++ msg))
      | .ok v => .ok v

theorem doRequest_isUpstream {α : Type} (upstreamMessage : ℕ → List UInt8 → String)
    (unmarshal : List UInt8 → Except String α) (zero : α) (rt : RoundTrip) :
    (∃ e, doRequest upstreamMessage unmarshal zero rt = .error e ∧ e.isUpstream = true) ↔
      ∃ status body, rt = .answered status body ∧ 400 ≤ status := by
  constructor
  · rintro ⟨e, he, hup⟩
    cases rt with
    | answered status body =>
      refine ⟨status, body, rfl, ?_⟩
      by_contra hlt
      simp only [doRequest, if_neg hlt] at he
      split at he
      · cases he
      · split at he
        · cases he; cases hup
        · cases he
    | _ => cases he; cases hup
  · rintro ⟨status, body, rfl, hge⟩
    exact ⟨.classified ⟨.upstream, upstreamMessage status (body.take readLimit)⟩,
      by simp [doRequest, hge], rfl⟩

/-! ## Field readers -/

/-- `strField`: the string itself, nothing for a missing or null field, else the printed value. -/
def strField (go : Runtime) (m : JObj) (k : String) : String :=
  match m.get k with
  | .str s => s
  | .null => ""
  | v => sprintV go v

def numField (m : JObj) (k : String) : ℚ :=
  match m.get k with
  | .num q => q
  | _ => 0

def intField (go : Runtime) (m : JObj) (k : String) : Int64 :=
  int64OfFloat go (numField m k)

def strSliceField (m : JObj) (k : String) : List String :=
  match m.get k with
  | .arr xs => xs.filterMap fun e =>
    match e with
    | .str s => some s
    | _ => none
  | _ => []

/-! ## Virtual keys -/

/-- `gateway.Key`. -/
structure Key where
  key : String
  keyAlias : String
  models : List String
  spend : ℚ
  maxBudget : ℚ
  expires : String
  createdAt : String
  userID : String
  deriving DecidableEq, Repr

/-- `Key{Key: s}`: every other field is zero. -/
def Key.bare (s : String) : Key := ⟨s, "", [], 0, 0, "", "", ""⟩

/-- The key an object stands for. -/
def keyOfObject (go : Runtime) (m : JObj) : Key :=
  { key := ((["key", "token", "token_id", "api_key"].map (strField go m)).find?
      (fun v => v != "")).getD ""
    keyAlias := strField go m "key_alias"
    models := strSliceField m "models"
    spend := numField m "spend"
    maxBudget := numField m "max_budget"
    expires := strField go m "expires"
    createdAt := strField go m "created_at"
    userID := strField go m "user_id" }

/-- `normalizeKey`: bare strings, objects, and anything else by its text. -/
def normalizeKey (go : Runtime) (raw : RawMessage) : Key :=
  match raw.asString with
  | some s => .bare s
  | none =>
    match raw.asMap with
    | none => .bare raw.text
    | some m => keyOfObject go m

/-- Everything but the key itself. -/
def Key.metadata (k : Key) : Key := { k with key := "" }

/-- The float64 of a number, and the number itself where there is none. -/
def lenient (q : ℚ) : Option ℚ := some ((parseFloat q).getD q)

/-- The fields an object entry holds, whatever its numbers are. -/
def objectFields (m : List (String × JVal)) : JObj := (decodeMembers lenient [] m).getD []

/-- An object entry of the key list is listed with all its metadata. -/
def CarriesMetadata (go : Runtime) (raw : RawMessage) (k : Key) : Prop :=
  ∀ m, raw.value = .obj m → k.metadata = (keyOfObject go (objectFields m)).metadata

/-- An object entry has metadata, and a number that is out of the range of float64. -/
def Unreadable (go : Runtime) (raw : RawMessage) : Prop :=
  ∃ m, raw.value = .obj m ∧ (∃ q ∈ numsMembers m, parseFloat q = none) ∧
    (keyOfObject go (objectFields m)).metadata ≠ (Key.bare "").metadata

mutual

/-- Where all numbers are in range, they are what is decoded. -/
theorem decodeAny_lenient : ∀ {v w : JVal}, decodeAny parseFloat v = some w →
    decodeAny lenient v = some w
  | .null, _, h => h
  | .bool _, _, h => h
  | .str _, _, h => h
  | .num q, w, h => by
    rw [decodeAny, Option.map_eq_some_iff] at h
    obtain ⟨x, hx, rfl⟩ := h
    rw [decodeAny, lenient, hx]
    rfl
  | .arr xs, w, h => by
    rw [decodeAny, Option.map_eq_some_iff] at h
    obtain ⟨ys, hys, rfl⟩ := h
    rw [decodeAny, decodeElems_lenient hys]
    rfl
  | .obj m, w, h => by
    rw [decodeAny, Option.map_eq_some_iff] at h
    obtain ⟨n, hn, rfl⟩ := h
    rw [decodeAny, decodeMembers_lenient hn]
    rfl

theorem decodeElems_lenient : ∀ {xs ys : List JVal}, decodeElems parseFloat xs = some ys →
    decodeElems lenient xs = some ys
  | [], _, h => h
  | x :: xs, ys, h => by
    rw [decodeElems] at h
    split at h
    · rename_i y ys' hy hys
      rw [decodeElems, decodeAny_lenient hy, decodeElems_lenient hys]
      exact h
    · cases h

theorem decodeMembers_lenient : ∀ {m : List (String × JVal)} {into n : JObj},
    decodeMembers parseFloat into m = some n → decodeMembers lenient into m = some n
  | [], _, _, h => h
  | (k, x) :: m, into, n, h => by
    rw [decodeMembers] at h
    split at h
    · cases h
    · rename_i y hy
      rw [decodeMembers, decodeAny_lenient hy]
      exact decodeMembers_lenient h

end

/-- **An entry keeps its metadata** unless it cannot be decoded for a number out of range. -/
theorem normalizeKey_carriesMetadata (go : Runtime) (raw : RawMessage) :
    CarriesMetadata go raw (normalizeKey go raw) ↔ ¬ Unreadable go raw := by
  unfold CarriesMetadata Unreadable
  cases hv : raw.value with
  | obj m =>
    have hs : raw.asString = none := by
      unfold RawMessage.asString
      rw [hv]
      rfl
    have ho : raw.asMap = decodeMembers parseFloat [] m := by
      unfold RawMessage.asMap
      rw [hv]
      rfl
    have hnums : (decodeMembers parseFloat [] m).isSome = true ↔
        ∀ q ∈ numsMembers m, (parseFloat q).isSome = true := decodeMembers_isSome m []
    simp only [JVal.obj.injEq, forall_eq', ↓existsAndEq, true_and]
    unfold normalizeKey
    rw [hs, ho]
    cases hm : decodeMembers parseFloat [] m with
    | none =>
      rw [hm] at hnums
      have hout : ∃ q ∈ numsMembers m, parseFloat q = none := by
        by_contra hall
        push Not at hall
        have hsome := hnums.mpr fun q hq => Option.isSome_iff_ne_none.mpr (hall q hq)
        cases hsome
      simp only [hout, true_and, not_not]
      exact eq_comm
    | some n =>
      rw [hm] at hnums
      have hall := hnums.mp rfl
      have hfields : objectFields m = n := by
        unfold objectFields
        rw [decodeMembers_lenient hm]
        rfl
      simp only [hfields, true_iff]
      rintro ⟨⟨q, hq, hnone⟩, -⟩
      have hsome := hall q hq
      rw [hnone] at hsome
      cases hsome
  | null => simp
  | bool b => simp
  | num q => simp
  | str s => simp
  | arr xs => simp

/-! ## Spend -/

/-- `gateway.GlobalSpend`. -/
structure GlobalSpend where
  spend : ℚ
  maxBudget : ℚ
  deriving DecidableEq, Repr

/-- `gateway.SpendLogEntry`. -/
structure SpendLogEntry where
  requestID : String
  apiKey : String
  model : String
  promptTokens : Int64
  completionTokens : Int64
  totalTokens : Int64
  spend : ℚ
  startTime : String
  endTime : String
  deriving DecidableEq, Repr

/-- `gateway.KeySpend`. -/
structure KeySpend where
  apiKey : String
  keyAlias : String
  keyName : String
  totalSpend : ℚ
  deriving DecidableEq, Repr

/-- `gateway.ModelSpend`. -/
structure ModelSpend where
  model : String
  totalSpend : ℚ
  deriving DecidableEq, Repr

/-- `SpendLogs` on the decoded answer. -/
def spendLogs (go : Runtime) (raw : List JObj) : List SpendLogEntry :=
  raw.map fun e =>
    { requestID := strField go e "request_id"
      apiKey := strField go e "api_key"
      model := strField go e "model"
      promptTokens := intField go e "prompt_tokens"
      completionTokens := intField go e "completion_tokens"
      totalTokens := intField go e "total_tokens"
      spend := numField e "spend"
      startTime := strField go e "startTime"
      endTime := strField go e "endTime" }

/-- `GlobalSpendKeys` on the decoded answer. -/
def globalSpendKeys (go : Runtime) (raw : List JObj) : List KeySpend :=
  raw.map fun e =>
    { apiKey := strField go e "api_key"
      keyAlias := strField go e "key_alias"
      keyName := strField go e "key_name"
      totalSpend := numField e "total_spend" }

/-- `GlobalSpendModels` on the decoded answer. -/
def globalSpendModels (go : Runtime) (raw : List JObj) : List ModelSpend :=
  raw.map fun e =>
    { model := strField go e "model"
      totalSpend := numField e "total_spend" }

end Gateway
