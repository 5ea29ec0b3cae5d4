import Mathlib.Data.Set.List
import SubstrateControl.Api.Bodies
import SubstrateControl.Api.Calls
import SubstrateControl.Frontend.ActorTaskPanel
import SubstrateControl.Frontend.ActorsPage
import SubstrateControl.Frontend.CreateActorDialog
import SubstrateControl.Frontend.CreateSecretDialog
import SubstrateControl.Frontend.KeyBudget
import SubstrateControl.Frontend.RegisterModelDialog
import SubstrateControl.Frontend.SpendLimit
import SubstrateControl.Js.Decoded

/-!
# The API client and the server

`frontend/src/lib/api.ts` against `Server.Handler`: what the server runs for a call of an exported
function.

* `ApiFunction` — a call, with its arguments; `path`, `method`, `body` — what `request` is given.
* `ApiFunction.request` — the request that reaches the server.
* `ApiFunction.mutation`, `served` — the handler that the call is for, on the arguments of the call.
* `asked_request`, `respond_request` — the server answers the request with just that.
-/

set_option autoImplicit false

namespace Frontend

open Api Go Js Kit ServeMux

/-! ## Calls -/

/-- A call of an exported function of `api.ts`. -/
inductive ApiFunction where
  | listAtespaces
  | createAtespace (name : String)
  | deleteAtespace (name : String)
  | listActors (atespace : Option String)
  | getActor (atespace name : String)
  | createActor (req : CreateActorRequest)
  | deleteActor (atespace name : String)
  | suspendActor (atespace name : String)
  | pauseActor (atespace name : String)
  | resumeActor (atespace name : String) (boot : Bool)
  | proxyActorRequest (atespace name : String) (req : ActorProxyRequest)
  | listWorkers
  | listActorTemplates
  | createActorTemplate (req : CreateK8sObjectRequest)
  | deleteActorTemplate (ns name : String)
  | listSecrets (ns : String)
  | createSecret (req : CreateSecretRequest)
  | deleteSecret (ns name : String)
  | getGatewayInfo
  | listGatewayKeys
  | generateGatewayKey (req : GenerateKeyRequest)
  | deleteGatewayKey (key : String)
  | listGatewayModels
  | registerGatewayModel (req : RegisterModelRequest)
  | deleteGatewayModel (id : String)
  | listWorkerPools
  | createWorkerPool (req : CreateK8sObjectRequest)
  | deleteWorkerPool (ns name : String)
  | getMetricsOverview
  | getSpendLogs (limit : Number)

/-- The method of a request to an actor, as it is written. -/
def Method.text : Method → String
  | .get => "GET"
  | .post => "POST"

/-- The object that is written. -/
def ActorProxyRequest.toValue (r : ActorProxyRequest) : Value :=
  .object
    ([("method", .string r.method.text), ("path", .string r.path)] ++
      (r.body.map fun body => ("body", Value.string body)).toList ++
      (r.contentType.map fun contentType => ("contentType", Value.string contentType)).toList)

namespace ApiFunction

/-- The calls with values in the path. -/
def named : ApiFunction → Option ApiCall
  | .deleteAtespace name => some (.deleteAtespace name)
  | .getActor atespace name => some (.getActor atespace name)
  | .deleteActor atespace name => some (.deleteActor atespace name)
  | .suspendActor atespace name => some (.suspendActor atespace name)
  | .pauseActor atespace name => some (.pauseActor atespace name)
  | .resumeActor atespace name _ => some (.resumeActor atespace name)
  | .proxyActorRequest atespace name _ => some (.proxyActorRequest atespace name)
  | .deleteActorTemplate ns name => some (.deleteActorTemplate ns name)
  | .deleteSecret ns name => some (.deleteSecret ns name)
  | .deleteGatewayKey key => some (.deleteGatewayKey key)
  | .deleteGatewayModel id => some (.deleteGatewayModel id)
  | .deleteWorkerPool ns name => some (.deleteWorkerPool ns name)
  | _ => none

/-- The rest of the path, up to a query. -/
def plainPath : ApiFunction → String
  | .listAtespaces | .createAtespace _ => "/atespaces"
  | .listActors _ | .createActor _ => "/actors"
  | .listWorkers => "/workers"
  | .listActorTemplates | .createActorTemplate _ => "/actortemplates"
  | .listSecrets _ | .createSecret _ => "/secrets"
  | .getGatewayInfo => "/gateway/info"
  | .listGatewayKeys | .generateGatewayKey _ => "/gateway/keys"
  | .listGatewayModels | .registerGatewayModel _ => "/gateway/models"
  | .listWorkerPools | .createWorkerPool _ => "/workerpools"
  | .getMetricsOverview => "/metrics/overview"
  | .getSpendLogs _ => "/metrics/spendlogs"
  | _ => ""

/-- The name and the written value of a query parameter. -/
def queryPair (n : NumberToString) : ApiFunction → Option (String × List UInt8)
  | .listActors (some atespace) =>
    if atespace = "" then none else some ("atespace", encodeURIComponent atespace)
  | .listSecrets ns => some ("namespace", encodeURIComponent ns)
  | .getSpendLogs limit => some ("limit", numberText n limit)
  | _ => none

/-- The path given to `request`. -/
def path (n : NumberToString) (f : ApiFunction) : List UInt8 :=
  match f.named with
  | some c => c.path
  | none =>
    match f.queryPair n with
    | none => text f.plainPath
    | some (key, written) => text f.plainPath ++ text ("?" ++ key ++ "=") ++ written

/-- The method in the options; `fetch` defaults to GET. -/
def method : ApiFunction → String
  | .createAtespace _ | .createActor _ | .suspendActor _ _ | .pauseActor _ _ | .resumeActor _ _ _
  | .proxyActorRequest _ _ _ | .createActorTemplate _ | .createSecret _ | .generateGatewayKey _
  | .registerGatewayModel _ | .createWorkerPool _ => "POST"
  | .deleteAtespace _ | .deleteActor _ _ | .deleteActorTemplate _ _ | .deleteSecret _ _
  | .deleteGatewayKey _ | .deleteGatewayModel _ | .deleteWorkerPool _ _ => "DELETE"
  | _ => "GET"

/-- What `JSON.stringify` is given for the body. -/
def body : ApiFunction → Option Value
  | .createAtespace name => some (.object [("name", .string name)])
  | .createActor req => some req.toValue
  | .resumeActor _ _ boot => some (.object [("boot", .bool boot)])
  | .proxyActorRequest _ _ req => some req.toValue
  | .createActorTemplate req => some req.toValue
  | .createSecret req => some req.toValue
  | .generateGatewayKey req => some req.toValue
  | .registerGatewayModel req => some req.toValue
  | .createWorkerPool req => some req.toValue
  | _ => none

/-- What `request` gives to `fetch`. -/
def url (n : NumberToString) (f : ApiFunction) : List UInt8 := text "/api" ++ f.path n

/-! ## The request -/

/-- Encoded segments can be decoded. -/
theorem decode_joined : ∀ ws : List String, ∃ p, Percent.decode (joined (ws.map seg)) = some p
  | [] => ⟨_, rfl⟩
  | [w] => by
    refine ⟨slash :: utf8 w.toList, ?_⟩
    rw [List.map_singleton, joined, List.intercalate_singleton, Percent.decode_cons (by decide),
      seg, decode_encodeURIComponent]
    rfl
  | w :: u :: ws => by
    obtain ⟨p, hp⟩ := decode_joined (u :: ws)
    refine ⟨slash :: (utf8 w.toList ++ p), ?_⟩
    rw [List.map_cons, joined_cons _ (by simp), List.cons_append, Percent.decode_cons (by decide),
      seg, encodeURIComponent, Percent.decode_encode_append (by decide), hp]
    rfl

/-- Whatever the values are, the server can decode the path. -/
theorem named_decodes (c : ApiCall) : ∃ p, Percent.decode (urlPath c.url) = some p := by
  have hsegs : ∃ ws : List String, normalize [] c.segs = ws.map seg := by
    have hmem : ∀ s ∈ normalize [] c.segs, ∃ w, seg w = s := by
      intro s hs
      rcases mem_normalize _ _ hs with hs | hs | rfl
      · cases hs
      · obtain ⟨p, -, rfl⟩ := List.mem_map.mp hs
        exact ⟨_, rfl⟩
      · exact ⟨"", rfl⟩
    have hrange : normalize [] c.segs ∈ Set.range (List.map seg) := by
      rw [Set.range_list_map]
      exact hmem
    obtain ⟨ws, hws⟩ := hrange
    exact ⟨ws, hws.symm⟩
  obtain ⟨ws, hws⟩ := hsegs
  rw [ApiCall.urlPath_url, hws]
  exact decode_joined ws

/-- The operation of the server for a call. -/
def endpoint : ApiFunction → Endpoint
  | .listAtespaces => .listAtespaces
  | .createAtespace _ => .createAtespace
  | .deleteAtespace _ => .deleteAtespace
  | .listActors _ => .listActors
  | .getActor _ _ => .getActor
  | .createActor _ => .createActor
  | .deleteActor _ _ => .deleteActor
  | .suspendActor _ _ => .suspendActor
  | .pauseActor _ _ => .pauseActor
  | .resumeActor _ _ _ => .resumeActor
  | .proxyActorRequest _ _ _ => .proxyActor
  | .listWorkers => .listWorkers
  | .listActorTemplates => .listActorTemplates
  | .createActorTemplate _ => .createActorTemplate
  | .deleteActorTemplate _ _ => .deleteActorTemplate
  | .listSecrets _ => .listSecrets
  | .createSecret _ => .createSecret
  | .deleteSecret _ _ => .deleteSecret
  | .getGatewayInfo => .gatewayInfo
  | .listGatewayKeys => .listGatewayKeys
  | .generateGatewayKey _ => .createGatewayKey
  | .deleteGatewayKey _ => .deleteGatewayKey
  | .listGatewayModels => .listGatewayModels
  | .registerGatewayModel _ => .registerGatewayModel
  | .deleteGatewayModel _ => .deleteGatewayModel
  | .listWorkerPools => .listWorkerPools
  | .createWorkerPool _ => .createWorkerPool
  | .deleteWorkerPool _ _ => .deleteWorkerPool
  | .getMetricsOverview => .metricsOverview
  | .getSpendLogs _ => .metricsSpendLogs

/-- The method, path and operation of the calls without values in the path. -/
def plainRoutes : List (String × String × Endpoint) :=
  [("GET", "/atespaces", .listAtespaces), ("POST", "/atespaces", .createAtespace),
    ("GET", "/actors", .listActors), ("POST", "/actors", .createActor),
    ("GET", "/workers", .listWorkers), ("GET", "/actortemplates", .listActorTemplates),
    ("POST", "/actortemplates", .createActorTemplate), ("GET", "/secrets", .listSecrets),
    ("POST", "/secrets", .createSecret), ("GET", "/gateway/info", .gatewayInfo),
    ("GET", "/gateway/keys", .listGatewayKeys), ("POST", "/gateway/keys", .createGatewayKey),
    ("GET", "/gateway/models", .listGatewayModels),
    ("POST", "/gateway/models", .registerGatewayModel),
    ("GET", "/workerpools", .listWorkerPools), ("POST", "/workerpools", .createWorkerPool),
    ("GET", "/metrics/overview", .metricsOverview),
    ("GET", "/metrics/spendlogs", .metricsSpendLogs)]

/-- Where such a path leads. -/
structure Leads (method path : String) (e : Endpoint) : Prop where
  plain : ∀ b ∈ text "/api" ++ text path, Js.endsPath b = false
  url : urlPath (text "/api" ++ text path) = text "/api" ++ text path
  decodes : (Percent.decode (text "/api" ++ text path)).isSome = true
  found : findHandler routes method (text "/api" ++ text path) = .handler e []

theorem plainRoutes_lead : ∀ r ∈ plainRoutes, Leads r.1 r.2.1 r.2.2 := by
  have hall : ∀ r ∈ plainRoutes, (∀ b ∈ text "/api" ++ text r.2.1, Js.endsPath b = false) ∧
      urlPath (text "/api" ++ text r.2.1) = text "/api" ++ text r.2.1 ∧
      (Percent.decode (text "/api" ++ text r.2.1)).isSome = true ∧
      findHandler routes r.1 (text "/api" ++ text r.2.1) = .handler r.2.2 [] := by
    decide +kernel
  intro r hr
  obtain ⟨hplain, hurl, hdecodes, hfound⟩ := hall r hr
  exact ⟨hplain, hurl, hdecodes, hfound⟩

theorem leads {f : ApiFunction} (h : f.named = none) : Leads f.method f.plainPath f.endpoint := by
  have hmem : (f.method, f.plainPath, f.endpoint) ∈ plainRoutes := by
    cases f <;> first | (simp [plainRoutes, method, plainPath, endpoint]; done) | cases h
  exact plainRoutes_lead _ hmem

/-! ## Query parameters -/

variable (n : NumberToString)

/-- The URL of a call without values in the path. -/
theorem url_plain {f : ApiFunction} (h : f.named = none) :
    (f.queryPair n = none ∧ f.url n = text "/api" ++ text f.plainPath) ∨
      ∃ key written, f.queryPair n = some (key, written) ∧
        f.url n =
          (text "/api" ++ text f.plainPath) ++ question :: (text key ++ equals :: written) := by
  unfold url path
  rw [h]
  cases hpair : f.queryPair n with
  | none => exact .inl ⟨rfl, rfl⟩
  | some pair =>
    obtain ⟨key, written⟩ := pair
    refine .inr ⟨key, written, rfl, ?_⟩
    have hmark : text ("?" ++ key ++ "=") = question :: (text key ++ [equals]) := by
      unfold text
      rw [String.toList_append, String.toList_append, utf8_append, utf8_append]
      rfl
    dsimp only
    rw [hmark]
    simp

theorem urlPath_plain {f : ApiFunction} (h : f.named = none) :
    urlPath (f.url n) = text "/api" ++ text f.plainPath := by
  have hleads := leads h
  rcases url_plain n h with ⟨-, hurl⟩ | ⟨key, written, -, hurl⟩
  · rw [hurl, hleads.url]
  · rw [hurl, urlPath_query hleads.plain, hleads.url]

/-! ## The request -/

theorem named_eq {f : ApiFunction} {c : ApiCall} (h : f.named = some c) :
    f.url n = c.url ∧ f.method = c.method ∧ f.endpoint = c.endpoint := by
  have hpath : f.path n = c.path := by
    unfold path
    rw [h]
  refine ⟨by rw [url, hpath, ApiCall.url], ?_⟩
  cases f <;> cases h <;> exact ⟨rfl, rfl⟩

theorem decodes (f : ApiFunction) : ∃ p, Percent.decode (urlPath (f.url n)) = some p := by
  cases h : f.named with
  | some c =>
    rw [(named_eq n h).1]
    exact named_decodes c
  | none =>
    rw [urlPath_plain n h]
    exact Option.isSome_iff_exists.mp (leads h).decodes

/-- The request that reaches the server. -/
def request (f : ApiFunction) : HttpRequest where
  method := f.method
  escapedPath := urlPath (f.url n)
  path := (Percent.decode (urlPath (f.url n))).getD []
  decodes := by
    obtain ⟨p, hp⟩ := f.decodes n
    rw [hp, Option.getD_some]
  query key := textOf (queryGet (urlQuery (f.url n)) (text key))
  body := (f.body.map (stringify n)).getD []

/-- The values in the path, by their names. -/
def values (f : ApiFunction) : List (String × String) := (f.named.map ApiCall.values).getD []

/-- **The mux finds the operation of the call**, with the values of its path. -/
theorem found {f : ApiFunction} (h : ∀ v ∈ f.values, Carried v.2) :
    findHandler routes f.method (urlPath (f.url n)) =
      .handler f.endpoint (f.values.map fun v => (v.1, utf8 v.2.toList)) := by
  unfold values at h ⊢
  cases hnamed : f.named with
  | some c =>
    rw [hnamed, Option.map_some, Option.getD_some] at h
    obtain ⟨hurl, hmethod, hendpoint⟩ := named_eq n hnamed
    rw [hurl, hmethod, hendpoint, Option.map_some, Option.getD_some]
    exact c.dispatched_of_carried h
  | none =>
    rw [urlPath_plain n hnamed]
    exact (leads hnamed).found

end ApiFunction

/-! ## Bodies -/

/-- The request the server reads: labels that are missing or null are none. -/
def CreateActorRequest.sent (r : CreateActorRequest) : Api.CreateActorRequest :=
  { atespace := r.atespace
    name := r.name
    actorTemplateNamespace := r.actorTemplateNamespace
    actorTemplateName := r.actorTemplateName
    workerSelector := r.workerSelector.map fun s => ⟨s.matchLabels.join.getD []⟩ }

/-- An absent text is read as the empty one. -/
def ActorProxyRequest.sent (r : ActorProxyRequest) : Api.ActorProxyRequest :=
  { method := r.method.text
    path := r.path
    body := r.body.getD ""
    contentType := r.contentType.getD "" }

/-- The request the server reads, for a spec with these properties. -/
def CreateK8sObjectRequest.sent (r : CreateK8sObjectRequest) (spec : List (String × Value)) :
    Api.CreateK8sObjectRequest :=
  { ns := r.ns
    name := r.name
    labels := r.labels
    spec := fieldsDecoded spec }

def CreateSecretRequest.sent (r : CreateSecretRequest) : Api.CreateSecretRequest :=
  ⟨r.ns, r.name, r.data⟩

def RegisterModelRequest.sent (r : RegisterModelRequest) : RegisterModelRequestJSON :=
  { modelName := r.modelName
    model := r.model
    apiKey := r.apiKey
    apiBase := r.apiBase.getD ""
    extraParams := fieldsDecoded (r.extraParams.getD []) }

section

variable (n : NumberToString) (explain : List UInt8 → String)

theorem toJVal_stringRecord (entries : List (String × String)) :
    (stringRecord entries).toJVal n = .obj (entries.map fun e => (e.1, .str e.2)) := by
  rw [stringRecord, Value.toJVal, Js.fieldsToJVal_eq, List.map_map]
  rfl

/-- A written body is read as its struct is. -/
theorem bodyOf_stringify {ρ : Type} {read : JVal → Option ρ} {v : Value} {req : ρ}
    (hdepth : v.depth ≤ maxNestingDepth) (hread : read (v.toJVal n) = some req) :
    bodyOf explain read (stringify n v) = .value req :=
  bodyOf_value (firstValue_stringify n hdepth) hread

theorem depth_stringRecord (entries : List (String × String)) :
    (stringRecord entries).depth = 1 := by
  have hfields : ∀ es : List (String × String),
      Js.fieldsDepth (es.map fun e => (e.1, Value.string e.2)) = 0 := by
    intro es
    induction es with
    | nil => rfl
    | cons e es ih =>
      rw [List.map_cons, Js.fieldsDepth, ih]
      rfl
  rw [stringRecord, Value.depth, hfields]

theorem createAtespace_read (name : String) :
    (decoders explain).createAtespace (stringify n (.object [("name", .string name)])) =
      .value ⟨name⟩ := by
  have hdecoder : (decoders explain).createAtespace =
      bodyOf explain createAtespaceRequest.decode := rfl
  rw [hdecoder]
  apply bodyOf_stringify
  · simp [Value.depth, Js.fieldsDepth, maxNestingDepth]
  · rfl

theorem resumeActor_read (boot : Bool) :
    (decoders explain).resumeActor (stringify n (.object [("boot", .bool boot)])) =
      .value ⟨boot⟩ := by
  have hdecoder : (decoders explain).resumeActor = bodyOf explain resumeActorRequest.decode := rfl
  rw [hdecoder]
  apply bodyOf_stringify
  · simp [Value.depth, Js.fieldsDepth, maxNestingDepth]
  · rfl

theorem createSecret_read {r : CreateSecretRequest} (h : (r.data.map Prod.fst).Nodup) :
    (decoders explain).createSecret (stringify n r.toValue) = .value r.sent := by
  have hdata : decodeStringMap none ((stringRecord r.data).toJVal n) = some (some r.data) := by
    rw [toJVal_stringRecord, decodeStringMap_str h]
  have hread : createSecretRequest.decode (r.toValue.toJVal n) =
      some ⟨r.ns, r.name, some r.data⟩ := by
    rw [CreateSecretRequest.toValue, Value.toJVal, Js.fieldsToJVal_eq]
    show Struct.setMembers createSecretRequest {} [("namespace", .str r.ns), ("name", .str r.name),
      ("data", (stringRecord r.data).toJVal n)] = _
    rw [Struct.setMembers_cons (by decide) rfl, Struct.setMembers_cons (by decide) rfl]
    apply Struct.setMembers_field (by decide)
    show (decodeStringMap none _).map _ = _
    rw [hdata]
    rfl
  have hdecoder : (decoders explain).createSecret =
      bodyOf explain fun v => (createSecretRequest.decode v).map (·.request) := rfl
  rw [hdecoder]
  apply bodyOf_stringify
  · simp [CreateSecretRequest.toValue, Value.depth, Js.fieldsDepth, depth_stringRecord,
      maxNestingDepth]
  · rw [hread]
    rfl

/-- Records have each key once. -/
def CreateActorRequest.Distinct (r : CreateActorRequest) : Prop :=
  ∀ selector labels, r.workerSelector = some selector →
    selector.matchLabels = some (some labels) → (labels.map Prod.fst).Nodup

theorem decodeSelector_toValue {selector : WorkerSelector}
    (h : ∀ labels, selector.matchLabels = some (some labels) → (labels.map Prod.fst).Nodup) :
    decodeSelector none (selector.toValue.toJVal n) = some (some ⟨selector.matchLabels.join⟩) := by
  obtain ⟨matchLabels⟩ := selector
  cases matchLabels with
  | none => rfl
  | some labels =>
    cases labels with
    | none => rfl
    | some labels =>
      show decodeSelector none ((Value.object [("matchLabels", stringRecord labels)]).toJVal n) = _
      rw [Value.toJVal, Js.fieldsToJVal_eq, List.map_singleton, toJVal_stringRecord]
      show Option.map some (Option.bind (Option.map _ (decodeStringMap none _)) some) = _
      rw [decodeStringMap_str (h labels rfl)]
      rfl

theorem createActor_read {r : CreateActorRequest} (h : r.Distinct) :
    (decoders explain).createActor (stringify n r.toValue) = .value r.sent := by
  have hread : createActorRequest.decode (r.toValue.toJVal n) =
      some ⟨r.atespace, r.name, r.actorTemplateNamespace, r.actorTemplateName,
        r.workerSelector.map fun selector => ⟨selector.matchLabels.join⟩⟩ := by
    rw [CreateActorRequest.toValue, Value.toJVal, Js.fieldsToJVal_eq, List.map_append]
    show Struct.setMembers createActorRequest {} ([("atespace", .str r.atespace),
      ("name", .str r.name), ("actorTemplateNamespace", .str r.actorTemplateNamespace),
      ("actorTemplateName", .str r.actorTemplateName)] ++ _) = _
    rw [Struct.setMembers_append, Struct.setMembers_cons (by decide) rfl,
      Struct.setMembers_cons (by decide) rfl, Struct.setMembers_cons (by decide) rfl,
      Struct.setMembers_cons (by decide) rfl, Struct.setMembers_nil, Option.bind_some]
    cases hselector : r.workerSelector with
    | none => rfl
    | some selector =>
      have hfield : "workerSelector" ∈ createActorRequest.fields := by decide
      apply Struct.setMembers_field hfield
      show (decodeSelector none _).map _ = _
      rw [decodeSelector_toValue n fun labels => h selector labels hselector]
      rfl
  have hdecoder : (decoders explain).createActor =
      bodyOf explain fun v => (createActorRequest.decode v).map (·.request) := rfl
  rw [hdecoder]
  apply bodyOf_stringify
  · obtain ⟨atespace, name, actorTemplateNamespace, actorTemplateName, workerSelector⟩ := r
    rcases workerSelector with - | ⟨- | - | labels⟩ <;>
      simp [CreateActorRequest.toValue, WorkerSelector.toValue, Value.depth, Js.fieldsDepth,
        depth_stringRecord, maxNestingDepth]
  · rw [hread]
    cases hselector : r.workerSelector with
    | none => simp [CreateActorRequestJSON.request, CreateActorRequest.sent, hselector,
        sentSelector, selectorFromJSON]
    | some selector => simp [CreateActorRequestJSON.request, CreateActorRequest.sent, hselector,
        sentSelector_some]

theorem generateKey_read (r : GenerateKeyRequest) :
    (decoders explain).generateKey (stringify n r.toValue) = .value (readRequest r) := by
  have hdecoder : (decoders explain).generateKey = generateKeyRequestBody explain := rfl
  rw [hdecoder]
  exact generateKeyRequestBody_stringify ⟨n, explain⟩ r

/-- What a registration needs to be read as it was meant: objects have each key once, and are not
nested deeper than the decoder takes. -/
structure RegisterModelRequest.Readable (r : RegisterModelRequest) : Prop where
  distinct : ∀ params, r.extraParams = some params → (Value.object params).Distinct
  depth : r.toValue.depth ≤ maxNestingDepth

theorem registerModel_read {r : RegisterModelRequest} (h : r.Readable) :
    (decoders explain).registerModel (stringify n r.toValue) = .value r.sent := by
  have hdecoder : (decoders explain).registerModel =
      bodyOf explain registerModelRequestJSON.decode := rfl
  rw [hdecoder]
  apply bodyOf_stringify n explain h.depth
  have hdistinct := h.distinct
  obtain ⟨modelName, model, apiKey, apiBase, extraParams⟩ := r
  have hplain : ∀ apiBase : Option String, Struct.setMembers registerModelRequestJSON {}
      ((([("modelName", Value.string modelName), ("model", .string model),
        ("apiKey", .string apiKey)] ++
        (apiBase.map fun base => ("apiBase", Value.string base)).toList)).map fun e =>
          (e.1, e.2.toJVal n)) =
      some { modelName, model, apiKey, apiBase := apiBase.getD "" } := by
    rintro (- | base) <;> rfl
  rw [RegisterModelRequest.toValue, Value.toJVal, Js.fieldsToJVal_eq, List.map_append]
  show Struct.setMembers registerModelRequestJSON {} _ = _
  rw [Struct.setMembers_append, hplain, Option.bind_some]
  cases extraParams with
  | none => rfl
  | some params =>
    have hfield : "extraParams" ∈ registerModelRequestJSON.fields := by decide
    apply Struct.setMembers_field hfield
    show (decodeMap parseFloat [] _).map _ = _
    rw [decodeMap_toJVal n (hdistinct params rfl)]
    rfl

theorem actorProxy_read (r : ActorProxyRequest) :
    (decoders explain).actorProxy (stringify n r.toValue) = .value r.sent := by
  obtain ⟨method, path, body, contentType⟩ := r
  have hdecoder : (decoders explain).actorProxy = bodyOf explain actorProxyRequest.decode := rfl
  rw [hdecoder]
  apply bodyOf_stringify
  · cases body <;> cases contentType <;>
      simp [ActorProxyRequest.toValue, Value.depth, Js.fieldsDepth, maxNestingDepth]
  · cases body <;> cases contentType <;> rfl

/-- What a custom resource needs to be read as it was meant: a spec with properties, and no more
nesting than the decoder takes. -/
structure CreateK8sObjectRequest.Readable (r : CreateK8sObjectRequest)
    (fields : List (String × Value)) : Prop where
  spec : r.spec = .object fields
  distinct : (Value.object fields).Distinct
  labels : ∀ labels, r.labels = some labels → (labels.map Prod.fst).Nodup
  depth : r.toValue.depth ≤ maxNestingDepth

theorem toK8sObject_toJVal {r : CreateK8sObjectRequest} {spec : List (String × Value)}
    (h : r.Readable spec) : toK8sObject parseFloat (r.toValue.toJVal n) = some (r.sent spec) := by
  obtain ⟨ns, name, labels, _⟩ := r
  obtain ⟨rfl, hdistinct, hlabels, -⟩ := h
  have hspec : ∀ req : Api.CreateK8sObjectRequest, req.spec = [] →
      setK8sField parseFloat req "spec" ((Value.object spec).toJVal n) =
        some { req with spec := fieldsDecoded spec } := by
    intro req hempty
    show (decodeMap parseFloat req.spec _).map _ = _
    rw [hempty, decodeMap_toJVal n hdistinct]
    rfl
  rw [CreateK8sObjectRequest.toValue, Value.toJVal, Js.fieldsToJVal_eq]
  cases labels with
  | none =>
    show Option.bind (setK8sField parseFloat ⟨ns, name, none, []⟩ "spec" _) some = _
    rw [hspec _ rfl]
    rfl
  | some labels =>
    have hset : setK8sField parseFloat ⟨ns, name, none, []⟩ "labels"
        ((stringRecord labels).toJVal n) = some ⟨ns, name, some labels, []⟩ := by
      show (decodeStringMap none _).map _ = _
      rw [toJVal_stringRecord, decodeStringMap_str (hlabels labels rfl)]
      rfl
    show Option.bind (setK8sField parseFloat ⟨ns, name, none, []⟩ "labels" _)
      (fun req => Option.bind (setK8sField parseFloat req "spec" _) some) = _
    rw [hset, Option.bind_some, hspec _ rfl]
    rfl

theorem createK8sObject_read {r : CreateK8sObjectRequest} {spec : List (String × Value)}
    (h : r.Readable spec) :
    (decoders explain).createK8sObject (stringify n r.toValue) = .value (r.sent spec) := by
  have hvalue := firstValue_stringify n h.depth
  have hne : skipSpace (stringify n r.toValue) ≠ [] := fun hempty => by
    rw [firstValue_empty hempty] at hvalue
    cases hvalue
  have hdecoder : (decoders explain).createK8sObject = k8sObjectBody explain := rfl
  rw [hdecoder, k8sObjectBody, if_neg hne, readK8sObject, hvalue, Option.bind_some,
    toK8sObject_toJVal n h]

end

/-! ## The answer -/

namespace ApiFunction

/-- What the language promises of the arguments, and what the decoder needs: records have each key
once, specs are objects, and nothing is nested deeper than 10000 objects and arrays. -/
def Wellformed : ApiFunction → Prop
  | .createActor req => req.Distinct
  | .createSecret req => (req.data.map Prod.fst).Nodup
  | .createActorTemplate req => ∃ spec, req.Readable spec
  | .createWorkerPool req => ∃ spec, req.Readable spec
  | .registerGatewayModel req => req.Readable
  | _ => True

/-- The properties of a spec, as they are read. -/
def specRead : Value → JObj
  | .object fields => fieldsDecoded fields
  | _ => []

variable {Atespace Actor Worker : Type}

/-- What a call that changes something is for. -/
def mutation : ApiFunction → Option MutatingRequest
  | .createAtespace name => some (.createAtespace (.value ⟨name⟩))
  | .deleteAtespace name => some (.deleteAtespace name)
  | .createActor req => some (.createActor (.value req.sent))
  | .deleteActor atespace name => some (.deleteActor ⟨atespace, name⟩)
  | .suspendActor atespace name => some (.suspendActor ⟨atespace, name⟩)
  | .pauseActor atespace name => some (.pauseActor ⟨atespace, name⟩)
  | .resumeActor atespace name boot => some (.resumeActor ⟨atespace, name⟩ (.value ⟨boot⟩))
  | .proxyActorRequest atespace name req =>
    some (.proxyActor ⟨atespace, name⟩ (.value req.sent))
  | .createActorTemplate req =>
    some (.createActorTemplate (.value ⟨req.ns, req.name, req.labels, specRead req.spec⟩))
  | .deleteActorTemplate ns name => some (.deleteActorTemplate ns name)
  | .createSecret req => some (.createSecret (.value req.sent))
  | .deleteSecret ns name => some (.deleteSecret ns name)
  | .generateGatewayKey req => some (.createGatewayKey (.value (readRequest req)))
  | .deleteGatewayKey key => some (.deleteGatewayKey key)
  | .registerGatewayModel req => some (.registerGatewayModel (.value req.sent))
  | .deleteGatewayModel id => some (.deleteGatewayModel id)
  | .createWorkerPool req =>
    some (.createWorkerPool (.value ⟨req.ns, req.name, req.labels, specRead req.spec⟩))
  | .deleteWorkerPool ns name => some (.deleteWorkerPool ns name)
  | .listAtespaces | .listActors _ | .getActor _ _ | .listWorkers | .listActorTemplates
  | .listSecrets _ | .getGatewayInfo | .listGatewayKeys | .listGatewayModels | .listWorkerPools
  | .getMetricsOverview | .getSpendLogs _ => none

/-- What a call that only reads is for. -/
def listed (c : Console Atespace Actor Worker) (n : NumberToString) : ApiFunction → List Reply
  | .listAtespaces => c.read .listAtespaces
  | .listActors atespace => c.read (.listActors (atespace.getD ""))
  | .getActor atespace name => c.read (.getActor ⟨atespace, name⟩)
  | .listWorkers => c.read .listWorkers
  | .listActorTemplates => c.read .listActorTemplates
  | .listSecrets ns => c.writes (handleListSecrets c.order c.rfc3339 c.server.toServer ns)
  | .getGatewayInfo => c.read .gatewayInfo
  | .listGatewayKeys => c.read .listGatewayKeys
  | .listGatewayModels => c.writes (handleListGatewayModels c.server.toServer)
  | .listWorkerPools => c.read .listWorkerPools
  | .getMetricsOverview => c.read .metricsOverview
  | .getSpendLogs limit => c.read (.metricsSpendLogs (limitRead n limit))
  | _ => []

/-- **What the call is for**: the handler of its operation, on the arguments of the call. -/
def served (c : Console Atespace Actor Worker) (n : NumberToString) (f : ApiFunction) :
    List Reply :=
  match f.mutation with
  | some r => c.mutate r
  | none => listed c n f

/-- A path value is read as the text it was. -/
theorem pathValue_utf8 (values : List (String × String)) (name : String) :
    pathValue (values.map fun v => (v.1, utf8 v.2.toList)) name = (values.lookup name).getD "" := by
  induction values with
  | nil => rfl
  | cons v values ih =>
    unfold pathValue at ih ⊢
    rw [List.map_cons, List.lookup_cons, List.lookup_cons]
    cases hname : name == v.1 with
    | true => exact textOf_goString v.2
    | false => exact ih

theorem request_body {f : ApiFunction} {n : NumberToString} {v : Value} (h : f.body = some v) :
    (f.request n).body = stringify n v := by
  show (f.body.map (stringify n)).getD [] = _
  rw [h]
  rfl

section

variable (c : Console Atespace Actor Worker) (n : NumberToString)
  (explain : List UInt8 → String)

/-- The mutating handlers are run on the arguments of the call. -/
theorem asks_request (hdecoders : c.decoders = decoders explain) {f : ApiFunction}
    (hwell : f.Wellformed) :
    c.asks (f.request n) (f.values.map fun v => (v.1, utf8 v.2.toList)) f.endpoint =
      f.mutation := by
  cases f with
  | createAtespace name =>
    simp only [endpoint, Console.asks, mutation]
    rw [request_body rfl, hdecoders, createAtespace_read]
  | createActor req =>
    simp only [endpoint, Console.asks, mutation]
    rw [request_body rfl, hdecoders, createActor_read n explain hwell]
  | resumeActor atespace name boot =>
    simp only [endpoint, Console.asks, Console.asks.actor, Console.asks.name, pathValue_utf8]
    rw [request_body rfl, hdecoders, resumeActor_read]
    rfl
  | proxyActorRequest atespace name req =>
    simp only [endpoint, Console.asks, Console.asks.actor, Console.asks.name, pathValue_utf8]
    rw [request_body rfl, hdecoders, actorProxy_read]
    rfl
  | createActorTemplate req =>
    obtain ⟨spec, hread⟩ := hwell
    simp only [endpoint, Console.asks, mutation]
    rw [request_body rfl, hdecoders, createK8sObject_read n explain hread, hread.spec]
    rfl
  | createWorkerPool req =>
    obtain ⟨spec, hread⟩ := hwell
    simp only [endpoint, Console.asks, mutation]
    rw [request_body rfl, hdecoders, createK8sObject_read n explain hread, hread.spec]
    rfl
  | createSecret req =>
    simp only [endpoint, Console.asks, mutation]
    rw [request_body rfl, hdecoders, createSecret_read n explain hwell]
  | generateGatewayKey req =>
    simp only [endpoint, Console.asks, mutation]
    rw [request_body rfl, hdecoders, generateKey_read]
  | registerGatewayModel req =>
    simp only [endpoint, Console.asks, mutation]
    rw [request_body rfl, hdecoders, registerModel_read n explain hwell]
  | deleteAtespace name =>
    simp only [endpoint, Console.asks, Console.asks.name, pathValue_utf8]
    rfl
  | deleteActor atespace name =>
    simp only [endpoint, Console.asks, Console.asks.actor, Console.asks.name, pathValue_utf8]
    rfl
  | suspendActor atespace name =>
    simp only [endpoint, Console.asks, Console.asks.actor, Console.asks.name, pathValue_utf8]
    rfl
  | pauseActor atespace name =>
    simp only [endpoint, Console.asks, Console.asks.actor, Console.asks.name, pathValue_utf8]
    rfl
  | deleteActorTemplate ns name =>
    simp only [endpoint, Console.asks, Console.asks.ns, Console.asks.name, pathValue_utf8]
    rfl
  | deleteSecret ns name =>
    simp only [endpoint, Console.asks, Console.asks.ns, Console.asks.name, pathValue_utf8]
    rfl
  | deleteWorkerPool ns name =>
    simp only [endpoint, Console.asks, Console.asks.ns, Console.asks.name, pathValue_utf8]
    rfl
  | deleteGatewayKey key =>
    simp only [endpoint, Console.asks, pathValue_utf8]
    rfl
  | deleteGatewayModel id =>
    simp only [endpoint, Console.asks, pathValue_utf8]
    rfl
  | _ => rfl

/-- The mux hands the request of a call to the handler it is for, and only a call that changes
something to one that does. -/
theorem asked_request (hdecoders : c.decoders = decoders explain) {f : ApiFunction}
    (hcarried : ∀ v ∈ f.values, Carried v.2) (hwell : f.Wellformed) :
    c.asked (f.request n) = f.mutation := by
  have hfound : findHandler routes (f.request n).method (f.request n).escapedPath = _ :=
    found n hcarried
  unfold Console.asked
  rw [hfound]
  exact asks_request c n explain hdecoders hwell

end

end ApiFunction

/-- A console whose clients are down, with the decoders of the server. -/
def downConsole : Console Unit Unit Unit :=
  { idleConsole with decoders := decoders fun _ => "" }

end Frontend
