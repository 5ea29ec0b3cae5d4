import SubstrateControl.Api.Mutations
import SubstrateControl.Api.Reads
import SubstrateControl.Api.Routes
import SubstrateControl.Go.Dispatch

/-!
# What a request is answered with

`Server.Handler` and the static files of `internal/api/server.go`.

* `HttpRequest`, `Reply` — a request that is routed, and what is written for it.
* `handleStatic`, `Console.handle`, `Console.respond` — the handlers behind the mux.
* `Reply.InContract` — the error format of the API, and no static file.
* `respond_length` — every request gets one reply.
* `respond_inContract_iff` — the reply under `/api` is in the contract exactly where the mux does
  not answer with an error of its own.
-/

set_option autoImplicit false

namespace Api

open Go Kit Kube ServeMux

/-! ## Requests and replies -/

/-- A request: its path is the escaped path, decoded. -/
structure HttpRequest where
  method : String
  escapedPath : List UInt8
  path : List UInt8
  decodes : Percent.decode escapedPath = some path
  /-- `r.URL.Query().Get` -/
  query : String → String := fun _ => ""
  body : List UInt8 := []

/-- The path is `/api` or below it. -/
def HttpRequest.UnderApi (req : HttpRequest) : Prop :=
  req.path = goString "/api" ∨ goString "/api/" <+: req.path

/-- What is written to the `http.ResponseWriter`. -/
inductive Reply where
  | written (status : ℕ) (contentType : String) (body : List UInt8)
  /-- A redirect to a path, with status 307. -/
  | redirected (path : List UInt8)
  /-- A static file, as `http.FileServerFS` or `http.ServeContent` serves it. -/
  | file (path : List UInt8)
  deriving DecidableEq, Repr

/-- `writeJSON` and `writeError`. -/
def Answer.reply {α : Type} (toDoc : α → Doc) (a : Answer α) : Reply :=
  let w := a.written toDoc
  .written w.status "application/json" w.body

/-- `writeError`. -/
def errorReply (status : ℕ) (message : String) : Reply :=
  .written status "application/json" (encodeLine (errorDoc message))

/-! ## Static files -/

/-- An opened file: whether it is a directory, and whether it is an `io.ReadSeeker`. -/
structure File where
  stat : Except String Bool
  seekable : Bool

/-- `fs.FS`. -/
abbrev FS := List UInt8 → Except String File

/-- `serveIndex`. -/
def serveIndex (staticFS : FS) : Reply :=
  match staticFS (goString "index.html") with
  | .error _ => errorReply 404 "frontend index.html missing"
  | .ok f =>
    match f.stat with
    | .error e => errorReply 500 e
    | .ok _ =>
      if f.seekable then .file (goString "index.html")
      else errorReply 500 "frontend file is not seekable"

/-- `handleStatic`. -/
def handleStatic (staticFS : Option FS) (path : List UInt8) : Reply :=
  if (goString "/api/").isPrefixOf path ∨ path = goString "/api" then errorReply 404 "not found"
  else
    match staticFS with
    | none => errorReply 404 "frontend not built; API-only mode"
    | some staticFS =>
      let p := (clean (slash :: path)).tail
      match staticFS p with
      | .error _ => serveIndex staticFS
      | .ok f =>
        match f.stat with
        | .ok false => .file p
        | _ => serveIndex staticFS

/-! ## The server -/

/-- What `decodeBody` finds in the bytes of a body, for each type of request. -/
structure Decoders where
  createAtespace : List UInt8 → DecodedBody CreateAtespaceRequest
  createActor : List UInt8 → DecodedBody CreateActorRequest
  updateActor : List UInt8 → DecodedBody UpdateActorRequest
  resumeActor : List UInt8 → DecodedBody ResumeActorRequest
  actorProxy : List UInt8 → DecodedBody ActorProxyRequest
  createK8sObject : List UInt8 → DecodedBody CreateK8sObjectRequest
  createSecret : List UInt8 → DecodedBody CreateSecretRequest
  generateKey : List UInt8 → DecodedBody GenerateKeyRequestJSON
  registerModel : List UInt8 → DecodedBody RegisterModelRequestJSON

/-- The server with its clients and files, the order of its ranges over maps, and how times and
successful bodies are written. -/
structure Console (Atespace Actor Worker : Type) where
  server : Reader Atespace Actor Worker
  staticFS : Option FS
  decoders : Decoders
  order : Unstructured → MapOrder
  rfc3339 : String → String
  toDoc : Body Atespace Actor → Doc
  toReadDoc : ReadBody Atespace Actor Worker → Doc

variable {Atespace Actor Worker : Type}

/-- `r.PathValue`, as text. -/
def pathValue (pathValues : List (String × List UInt8)) (name : String) : String :=
  textOf ((pathValues.lookup name).getD [])

namespace Console

variable (c : Console Atespace Actor Worker)

/-- What a handler writes. -/
def writes (h : Handler Atespace Actor Unit) : List Reply :=
  h.trace.responses.map (Answer.reply c.toDoc)

def mutate (r : MutatingRequest) : List Reply :=
  c.writes (serve c.order c.rfc3339 c.server.toServer r)

def read (r : ReadRequest) : List Reply :=
  (serveRead c.rfc3339 c.server r).trace.responses.map (Answer.reply c.toReadDoc)

/-- The handlers of `Server.Handler`. -/
def handle (req : HttpRequest) (pathValues : List (String × List UInt8)) : Endpoint → List Reply
  | .healthz => c.read .healthz
  | .listAtespaces => c.read .listAtespaces
  | .createAtespace => c.mutate (.createAtespace (c.decoders.createAtespace req.body))
  | .deleteAtespace => c.mutate (.deleteAtespace name)
  | .listActors => c.read (.listActors (req.query "atespace"))
  | .createActor => c.mutate (.createActor (c.decoders.createActor req.body))
  | .getActor => c.read (.getActor actor)
  | .updateActor => c.mutate (.updateActor actor (c.decoders.updateActor req.body))
  | .deleteActor => c.mutate (.deleteActor actor)
  | .suspendActor => c.mutate (.suspendActor actor)
  | .pauseActor => c.mutate (.pauseActor actor)
  | .resumeActor => c.mutate (.resumeActor actor (c.decoders.resumeActor req.body))
  | .proxyActor => c.mutate (.proxyActor actor (c.decoders.actorProxy req.body))
  | .listWorkers => c.read .listWorkers
  | .listActorTemplates => c.read .listActorTemplates
  | .createActorTemplate => c.mutate (.createActorTemplate (c.decoders.createK8sObject req.body))
  | .deleteActorTemplate => c.mutate (.deleteActorTemplate ns name)
  | .listWorkerPools => c.read .listWorkerPools
  | .createWorkerPool => c.mutate (.createWorkerPool (c.decoders.createK8sObject req.body))
  | .deleteWorkerPool => c.mutate (.deleteWorkerPool ns name)
  | .listSecrets =>
    c.writes (handleListSecrets c.order c.rfc3339 c.server.toServer (req.query "namespace"))
  | .createSecret => c.mutate (.createSecret (c.decoders.createSecret req.body))
  | .deleteSecret => c.mutate (.deleteSecret ns name)
  | .gatewayInfo => c.read .gatewayInfo
  | .listGatewayKeys => c.read .listGatewayKeys
  | .createGatewayKey => c.mutate (.createGatewayKey (c.decoders.generateKey req.body))
  | .deleteGatewayKey => c.mutate (.deleteGatewayKey (pathValue pathValues "key"))
  | .listGatewayModels => c.writes (handleListGatewayModels c.server.toServer)
  | .registerGatewayModel => c.mutate (.registerGatewayModel (c.decoders.registerModel req.body))
  | .deleteGatewayModel => c.mutate (.deleteGatewayModel (pathValue pathValues "id"))
  | .metricsOverview => c.read .metricsOverview
  | .metricsSpendLogs => c.read (.metricsSpendLogs (req.query "limit"))
  | .static => [handleStatic c.staticFS req.path]
where
  name := pathValue pathValues "name"
  ns := pathValue pathValues "namespace"
  actor : ActorRef := ⟨pathValue pathValues "atespace", name⟩

/-- The mux with the handlers, and its own answers. -/
def respond (req : HttpRequest) : List Reply :=
  match findHandler routes req.method req.escapedPath with
  | .handler e pathValues => c.handle req pathValues e
  | .redirect path => [.redirected path]
  | .methodNotAllowed _ =>
    [.written 405 "text/plain; charset=utf-8" (goString "Method Not Allowed\n")]
  | .notFound => [.written 404 "text/plain; charset=utf-8" (goString "404 page not found\n")]

end Console

/-! ## One reply -/

theorem Guarded.length_responses {rejected : Bool} {t : Trace Call (Body Atespace Actor)}
    (h : Guarded rejected t) : t.responses.length = 1 := by
  cases h <;> rfl

theorem responds_kubeUnavailable {s : Server Atespace Actor}
    {k : Option KubeClient → Handler Atespace Actor Unit} (hnone : k none = pure ())
    (hrest : ∀ kube, Responds (k (some kube))) : Responds (kubeUnavailable s >>= k) := by
  cases hkube : s.kube with
  | error e =>
    intro t
    unfold kubeUnavailable
    simp only [hkube, bind_assoc, pure_bind, hnone]
    exact ⟨_, rfl⟩
  | ok kube =>
    rw [kubeUnavailable_client hkube]
    exact hrest kube

theorem handleListSecrets_responds (o : Unstructured → MapOrder) (rfc3339 : String → String)
    (s : Server Atespace Actor) (ns : String) : Responds (handleListSecrets o rfc3339 s ns) := by
  unfold handleListSecrets
  apply responds_kubeUnavailable rfl
  intro kube
  show Responds (if ns = "" then _ else _)
  split
  · exact responds_writeError 400 _
  · exact responds_result writeKubeError_writesError fun _ => responds_writeJSON _

namespace Console

variable (c : Console Atespace Actor Worker)

theorem length_writes {h : Handler Atespace Actor Unit} (hresponds : Responds h) :
    (c.writes h).length = 1 := by
  unfold writes
  rw [List.length_map, hresponds.length_trace]

theorem length_mutate (r : MutatingRequest) : (c.mutate r).length = 1 := by
  unfold mutate writes
  rw [List.length_map, (serve_guarded _ _ _ r).length_responses]

theorem length_read (r : ReadRequest) : (c.read r).length = 1 := by
  unfold read
  rw [List.length_map, (serveRead_responds _ _ r).length_trace]

/-- **Every request gets one reply.** -/
theorem respond_length (req : HttpRequest) : (c.respond req).length = 1 := by
  unfold respond
  split
  · rename_i e pathValues hfind
    cases e with
    | listSecrets => exact c.length_writes (handleListSecrets_responds _ _ _ _)
    | listGatewayModels =>
      exact c.length_writes
        (responds_result writeGatewayError_writesError fun _ => responds_writeJSON _)
    | static => rfl
    | _ => first | exact c.length_mutate _ | exact c.length_read _
  · rfl
  · rfl
  · rfl

end Console

/-! ## The error format -/

/-- A reply is no static file, and an error is a JSON object with an `error` text. -/
def Reply.InContract : Reply → Prop
  | .written status contentType body => 400 ≤ status →
      contentType = "application/json" ∧
        ∃ (m : JObj) (message : String), parse body = some (.obj m) ∧ m.get "error" = .str message
  | .redirected _ => True
  | .file _ => False

theorem errorReply_inContract (status : ℕ) (message : String) :
    (errorReply status message).InContract := by
  intro _
  refine ⟨rfl, [("error", .str message)], message, ?_, rfl⟩
  rw [parse_encode (by simp [errorDoc, Doc.depth, fieldsDepth, maxNestingDepth])]
  simp only [errorDoc, Doc.toJVal, fieldsToJVal, textOf_goString]

/-- Whatever a handler writes is in the contract. -/
theorem Answer.reply_inContract {α : Type} (toDoc : α → Doc) (a : Answer α) :
    (a.reply toDoc).InContract := by
  cases a with
  | error status message => exact errorReply_inContract status message
  | ok v =>
    intro hstatus
    exact absurd hstatus (by decide : ¬ 400 ≤ 200)

/-- Below `/api` the static handler says that nothing is there. -/
theorem handleStatic_api (staticFS : Option FS) {req : HttpRequest} (h : req.UnderApi) :
    handleStatic staticFS req.path = errorReply 404 "not found" := by
  unfold handleStatic
  apply if_pos
  rcases h with h | h
  · exact .inr h
  · exact .inl (List.isPrefixOf_iff_prefix.mpr h)

namespace Console

variable (c : Console Atespace Actor Worker)

/-- **Every handler keeps the contract below `/api`.** -/
theorem handle_inContract {req : HttpRequest} (h : req.UnderApi)
    (pathValues : List (String × List UInt8)) (e : Endpoint) :
    ∀ reply ∈ c.handle req pathValues e, reply.InContract := by
  have hmap : ∀ {α : Type} (toDoc : α → Doc) (answers : List (Answer α)),
      ∀ reply ∈ answers.map (Answer.reply toDoc), reply.InContract := by
    intro α toDoc answers reply hreply
    obtain ⟨a, -, rfl⟩ := List.mem_map.mp hreply
    exact a.reply_inContract toDoc
  cases e with
  | static =>
    intro reply hreply
    rw [handle, handleStatic_api c.staticFS h, List.mem_singleton] at hreply
    rw [hreply]
    exact errorReply_inContract 404 "not found"
  | _ => exact hmap _ _

/-- **The contract is kept exactly where the mux does not answer with an error of its own.** -/
theorem respond_inContract_iff_isError {req : HttpRequest} (h : req.UnderApi) :
    (∀ reply ∈ c.respond req, reply.InContract) ↔
      (findHandler routes req.method req.escapedPath).isError = false := by
  unfold respond
  split
  · rename_i e pathValues hfind
    rw [hfind]
    exact iff_of_true (c.handle_inContract h pathValues e) rfl
  · rename_i path hfind
    rw [hfind]
    exact iff_of_true (by simp [Reply.InContract]) rfl
  · rename_i allowed hfind
    rw [hfind]
    exact iff_of_false (by simp [Reply.InContract]) (by simp [Dispatch.isError])
  · rename_i hfind
    rw [hfind]
    exact iff_of_false (by simp [Reply.InContract]) (by simp [Dispatch.isError])

/-- The pattern of the static files matches every path. -/
theorem static_matches {req : HttpRequest} (h : req.UnderApi) :
    Matches [.rest] (segments req.escapedPath) [] := by
  have hpath : req.escapedPath ≠ [] := by
    intro hnil
    have hdecodes := req.decodes
    rw [hnil] at hdecodes
    obtain hempty : [] = req.path := Option.some.inj hdecodes
    rcases h with h | h
    · rw [← hempty] at h
      exact absurd h (by decide)
    · rw [← hempty] at h
      exact absurd (List.prefix_nil.mp h) (by decide)
  have hlength : (segments req.escapedPath).length ≠ 0 := by
    rw [segments, if_neg hpath, segmentsOf_length]
    exact fun hzero => List.splitOn_ne_nil _ _ (List.length_eq_zero_iff.mp hzero)
  cases hsegs : segments req.escapedPath with
  | nil => simp [hsegs] at hlength
  | cons s segs => exact .rest

/-- **Errors under `/api` are JSON exactly** for GET and HEAD, for paths that are redirected, and
where a pattern of the method matches.  There is one reply. -/
theorem respond_inContract_iff {req : HttpRequest} (h : req.UnderApi) :
    (c.respond req).length = 1 ∧
    ((∀ reply ∈ c.respond req, reply.InContract) ↔
      req.method = "GET" ∨ req.method = "HEAD" ∨
      (req.method ≠ "CONNECT" ∧ cleanPath req.escapedPath ≠ req.escapedPath) ∨
      ∃ r ∈ routes, r.pattern.method = req.method ∧
        ∃ values, Matches r.pattern.segments (segments req.escapedPath) values) := by
  refine ⟨c.respond_length req, ?_⟩
  have hstatic : route "GET" [.rest] .static ∈ routes := by decide
  rw [c.respond_inContract_iff_isError h, ← Bool.not_eq_true,
    findHandler_isError_iff routes_onlyRootSlash routes_no_connect]
  constructor
  · intro hkept
    by_contra hnot
    simp only [not_or, not_and_or, not_not] at hnot
    obtain ⟨-, hhead, hclean, hroute⟩ := hnot
    refine hkept ⟨hclean, ?_⟩
    rintro ⟨r, hr, hmethod | ⟨hmethod, -⟩, hmatch⟩
    · exact hroute ⟨r, hr, hmethod, hmatch⟩
    · exact hhead hmethod
  · rintro (hget | hhead | ⟨hconnect, hclean⟩ | ⟨r, hr, hmethod, hmatch⟩) ⟨hpath, hnone⟩
    · exact hnone ⟨_, hstatic, .inl hget.symm, [], static_matches h⟩
    · exact hnone ⟨_, hstatic, .inr ⟨hhead, rfl⟩, [], static_matches h⟩
    · exact hpath.elim hconnect hclean
    · exact hnone ⟨r, hr, .inl hmethod, hmatch⟩

end Console

/-- A console none of whose clients gets through, without a frontend. -/
def idleConsole : Console Unit Unit Unit :=
  let down : GRPCError := .status ⟨.unavailable, "down"⟩
  let unreachable : Gateway.Err := .classified ⟨.unreachable, "down"⟩
  { server :=
      { toServer := idleServer
        ping := .error "down"
        listAtespaces := .error down
        listActors := fun _ => .error down
        getActor := fun _ => .error down
        listWorkers := .error down
        assigned := fun _ => false
        statusToString := fun _ => "UNSPECIFIED"
        listActorTemplates := .error ⟨"down", false, false, false, false⟩
        listWorkerPools := .error ⟨"down", false, false, false, false⟩
        listNodeMetrics := .error ⟨"down", false, false, false, false⟩
        listNodes := .error ⟨"down", false, false, false, false⟩
        listPodMetrics := .error ⟨"down", false, false, false, false⟩
        resource := exactResource
        mapOrder := .inserted
        baseURL := ""
        info := .error unreachable
        listKeys := .error unreachable
        globalSpend := .error unreachable
        spendLogs := fun _ => .error unreachable
        globalSpendKeys := .error unreachable
        globalSpendModels := .error unreachable }
    staticFS := none
    decoders :=
      { createAtespace := fun _ => .empty
        createActor := fun _ => .empty
        updateActor := fun _ => .empty
        resumeActor := fun _ => .empty
        actorProxy := fun _ => .empty
        createK8sObject := fun _ => .empty
        createSecret := fun _ => .empty
        generateKey := fun _ => .empty
        registerModel := fun _ => .empty }
    order := fun _ => .inserted
    rfc3339 := id
    toDoc := fun _ => .obj []
    toReadDoc := fun _ => .obj [] }

/-- A request for `/api/unknown`. -/
def unknownRequest (method : String) : HttpRequest :=
  { method := method
    escapedPath := goString "/api/unknown"
    path := goString "/api/unknown"
    decodes := by decide +kernel }

theorem unknownRequest_underApi (method : String) : (unknownRequest method).UnderApi := by
  right
  show goString "/api/" <+: goString "/api/unknown"
  exact ⟨goString "unknown", rfl⟩

/-- A GET of a path that is not there is answered in the contract. -/
theorem respond_inContract_get :
    (unknownRequest "GET").UnderApi ∧
      ∀ reply ∈ idleConsole.respond (unknownRequest "GET"), reply.InContract :=
  ⟨unknownRequest_underApi "GET",
    (idleConsole.respond_inContract_iff (unknownRequest_underApi "GET")).2.mpr (.inl rfl)⟩

/-- A POST is not: the mux refuses it in plain text. -/
theorem respond_inContract_counterexample :
    (unknownRequest "POST").UnderApi ∧
      ¬ ∀ reply ∈ idleConsole.respond (unknownRequest "POST"), reply.InContract := by
  refine ⟨unknownRequest_underApi "POST", ?_⟩
  rw [idleConsole.respond_inContract_iff_isError (unknownRequest_underApi "POST"),
    Bool.not_eq_false, findHandler_isError_iff routes_onlyRootSlash routes_no_connect,
    ← matchRequest_isSome_iff]
  decide +kernel

end Api
