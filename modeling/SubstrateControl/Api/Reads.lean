import SubstrateControl.Api.K8sObjects
import SubstrateControl.Api.Models
import SubstrateControl.Api.Monitoring
import SubstrateControl.Api.NodeMetrics
import SubstrateControl.Api.Secrets

/-!
# Reading handlers

Model of the handlers of `internal/api/server.go` and `internal/api/monitoring.go` that change
nothing.

* `Reader` — the clients they read from; the messages of the control plane are left abstract.
* `inTurn` — the calls of a section of the overview, which ends at the first that fails.
* `ReadRequest`, `serveRead` — the requests of their routes and the handler of each.
* `serveRead_responds` — every reading handler does.
-/

set_option autoImplicit false

namespace Api

open Go Kube

variable {Atespace Actor Worker : Type}

/-! ## Responses -/

/-- `spendLogJSON`. -/
structure SpendLogJSON where
  requestID : String
  startTime : String
  endTime : String
  model : String
  keyAlias : String
  promptTokens : Int64
  completionTokens : Int64
  totalTokens : Int64
  spend : ℚ
  deriving DecidableEq, Repr

/-- `substrateMetricsJSON`. -/
structure SubstrateMetricsJSON where
  workersTotal : ℕ := 0
  workersAssigned : ℕ := 0
  workersIdle : ℕ := 0
  actorsRunning : ℕ := 0
  actorsSuspended : ℕ := 0
  actorsTransitioning : ℕ := 0
  actorsCrashed : ℕ := 0
  pools : ℕ := 0
  templates : ℕ := 0
  atespaces : ℕ := 0
  deriving DecidableEq, Repr

/-- `overviewJSON`. -/
structure OverviewJSON where
  nodes : MetricsSectionJSON NodeMetricJSON
  pods : MetricsSectionJSON PodNamespaceMetricJSON
  substrate : SubstrateMetricsJSON
  gateway : GatewayMetricsJSON

/-- What `writeJSON` is given; a `gatewayKeyJSON` has the fields of a `gateway.Key`. -/
inductive ReadBody (Atespace Actor Worker : Type) where
  /-- `{"ok": true}` -/
  | healthy
  | atespaces (items : List Atespace)
  | actors (items : List Actor)
  | actor (a : Actor)
  | workers (items : List Worker)
  | objects (items : List K8sObjectJSON)
  /-- `{"reachable": true, "url": …}`, with the version if there is one -/
  | gatewayInfo (url : String) (version : Option String)
  | gatewayKeys (items : List Gateway.Key)
  | overview (o : OverviewJSON)
  | spendLogs (items : List SpendLogJSON)

/-! ## Clients -/

/-- A call of a client that changes nothing. -/
inductive ReadCall where
  | ping
  | listAtespaces
  | listActors (atespace : String)
  | getActor (a : ActorRef)
  | listWorkers
  | listActorTemplates
  | listWorkerPools
  | listNodeMetrics
  | listNodes
  | listPodMetrics
  | info
  | listKeys
  | globalSpend
  | spendLogs (limit : ℤ)
  | globalSpendKeys
  | globalSpendModels
  deriving DecidableEq, Repr

/-- `Server` with the calls that only read, and what is read of the messages. -/
structure Reader (Atespace Actor Worker : Type) extends Server Atespace Actor where
  ping : Except String Unit
  listAtespaces : Except GRPCError (List Atespace)
  listActors : (atespace : String) → Except GRPCError (List Actor)
  getActor : ActorRef → Except GRPCError Actor
  listWorkers : Except GRPCError (List Worker)
  /-- The worker has an assignment. -/
  assigned : Worker → Bool
  /-- `statusToString` of the actor's status. -/
  statusToString : Actor → String
  listActorTemplates : Except KubeError (List Unstructured)
  listWorkerPools : Except KubeError (List Unstructured)
  listNodeMetrics : Except KubeError (List Unstructured)
  listNodes : Except KubeError (List Unstructured)
  listPodMetrics : Except KubeError (List Unstructured)
  /-- The package that the metrics are read with. -/
  resource : Resource
  /-- The order of the range of `collectPodMetrics` over its map. -/
  mapOrder : MapOrder
  baseURL : String
  /-- The version, which may be empty. -/
  info : Except Gateway.Err String
  listKeys : Except Gateway.Err (List Gateway.Key)
  globalSpend : Except Gateway.Err Gateway.GlobalSpend
  spendLogs : (limit : ℤ) → Except Gateway.Err (List Gateway.SpendLogEntry)
  globalSpendKeys : Except Gateway.Err (List Gateway.KeySpend)
  globalSpendModels : Except Gateway.Err (List Gateway.ModelSpend)

/-- A reading handler, or a part of one. -/
abbrev ReadHandler (Atespace Actor Worker : Type) :=
  HandlerM ReadCall (ReadBody Atespace Actor Worker)

/-! ## The control plane -/

section

variable (s : Reader Atespace Actor Worker)

/-- `handleHealthz`. -/
def handleHealthz : ReadHandler Atespace Actor Worker Unit := do
  match ← call .ping s.ping with
  | .error e => writeError 503 ("substrate gRPC unreachable: " ++ e)
  | .ok _ => writeJSON .healthy

/-- `handleListAtespaces`. -/
def handleListAtespaces : ReadHandler Atespace Actor Worker Unit := do
  match ← call .listAtespaces s.listAtespaces with
  | .error e => writeGRPCError e
  | .ok spaces => writeJSON (.atespaces spaces)

/-- `handleListActors`, with the query parameter `atespace`. -/
def handleListActors (atespace : String) : ReadHandler Atespace Actor Worker Unit := do
  match ← call (.listActors atespace) (s.listActors atespace) with
  | .error e => writeGRPCError e
  | .ok actors => writeJSON (.actors actors)

/-- `handleGetActor`. -/
def handleGetActor (a : ActorRef) : ReadHandler Atespace Actor Worker Unit := do
  match ← call (.getActor a) (s.getActor a) with
  | .error e => writeGRPCError e
  | .ok actor => writeJSON (.actor actor)

/-- `handleListWorkers`. -/
def handleListWorkers : ReadHandler Atespace Actor Worker Unit := do
  match ← call .listWorkers s.listWorkers with
  | .error e => writeGRPCError e
  | .ok workers => writeJSON (.workers workers)

/-! ## Custom resources -/

/-- `listKube`, behind `kubeUnavailable`. -/
def listKube (rfc3339 : String → String) (c : ReadCall)
    (list : Except KubeError (List Unstructured)) :
    ReadHandler Atespace Actor Worker Unit := do
  match s.kube with
  | .error e => writeError 503 ("kubernetes client unavailable: " ++ e)
  | .ok _ =>
    match ← call c list with
    | .error e => writeError 503 e.message
    | .ok items => writeJSON (.objects (items.map (unstructuredToJSON rfc3339)))

/-- `handleListActorTemplates`. -/
def handleListActorTemplates (rfc3339 : String → String) :
    ReadHandler Atespace Actor Worker Unit :=
  listKube s rfc3339 .listActorTemplates s.listActorTemplates

/-- `handleListWorkerPools`. -/
def handleListWorkerPools (rfc3339 : String → String) :
    ReadHandler Atespace Actor Worker Unit :=
  listKube s rfc3339 .listWorkerPools s.listWorkerPools

/-! ## The gateway -/

/-- `handleGatewayInfo`. -/
def handleGatewayInfo : ReadHandler Atespace Actor Worker Unit := do
  match ← call .info s.info with
  | .error e => writeGatewayError e
  | .ok version =>
    writeJSON (.gatewayInfo s.baseURL (if version = "" then none else some version))

/-- `handleListGatewayKeys`. -/
def handleListGatewayKeys : ReadHandler Atespace Actor Worker Unit := do
  match ← call .listKeys s.listKeys with
  | .error e => writeGatewayError e
  | .ok keys => writeJSON (.gatewayKeys keys)

/-! ## Monitoring -/

/-- The counts of `collectSubstrateMetrics`. -/
def substrateMetrics (workers : List Worker) (actors : List Actor) (atespaces : List Atespace) :
    SubstrateMetricsJSON :=
  let assigned := workers.countP s.assigned
  let counted (status : String) := actors.countP fun a => s.statusToString a == status
  let terminal := ["RUNNING", "SUSPENDED", "CRASHED"]
  let size (list : Except KubeError (List Unstructured)) :=
    match s.kube, list with
    | .ok _, .ok items => items.length
    | _, _ => 0
  { workersTotal := workers.length
    workersAssigned := assigned
    workersIdle := workers.length - assigned
    actorsRunning := counted "RUNNING"
    actorsSuspended := counted "SUSPENDED"
    actorsCrashed := counted "CRASHED"
    actorsTransitioning := actors.countP fun a => !terminal.contains (s.statusToString a)
    pools := size s.listWorkerPools
    templates := size s.listActorTemplates
    atespaces := atespaces.length }

/-- Calls are made in turn, up to the first that fails. -/
def inTurn : List (Made ReadCall) → List (Made ReadCall)
  | [] => []
  | made :: rest => if made.succeeded then made :: inTurn rest else [made]

/-- Calls that are made where there is a Kubernetes client. -/
def behindKube (calls : List (Made ReadCall)) : List (Made ReadCall) :=
  if s.kube.isOk then calls else []

/-- Calls that were made. -/
def called (calls : List (Made ReadCall)) : ReadHandler Atespace Actor Worker Unit :=
  modify fun t => { t with calls := t.calls ++ calls }

/-- The lists of `collectSubstrateMetrics` whose errors are dropped. -/
def Reader.customCalls : List (Made ReadCall) :=
  behindKube s
    [⟨.listWorkerPools, s.listWorkerPools.isOk⟩, ⟨.listActorTemplates, s.listActorTemplates.isOk⟩]

/-- `collectSubstrateMetrics`. -/
def collectSubstrateMetrics :
    ReadHandler Atespace Actor Worker (Except GRPCError SubstrateMetricsJSON) := do
  match ← call .listWorkers s.listWorkers with
  | .error e => return .error e
  | .ok workers =>
    match ← call (.listActors "") (s.listActors "") with
    | .error e => return .error e
    | .ok actors =>
      match ← call .listAtespaces s.listAtespaces with
      | .error e => return .error e
      | .ok atespaces =>
        called s.customCalls
        return .ok (substrateMetrics s workers actors atespaces)

/-- The calls of `collectNodeMetrics`. -/
def Reader.nodeCalls : List (Made ReadCall) :=
  behindKube s
    (inTurn [⟨.listNodeMetrics, s.listNodeMetrics.isOk⟩, ⟨.listNodes, s.listNodes.isOk⟩])

/-- The calls of `collectPodMetrics`. -/
def Reader.podCalls : List (Made ReadCall) :=
  behindKube s [⟨.listPodMetrics, s.listPodMetrics.isOk⟩]

/-- The calls of `collectGatewayMetrics`. -/
def Reader.gatewayCalls : List (Made ReadCall) :=
  inTurn
    [⟨.globalSpend, s.globalSpend.isOk⟩, ⟨.spendLogs 1000, (s.spendLogs 1000).isOk⟩,
      ⟨.globalSpendKeys, s.globalSpendKeys.isOk⟩, ⟨.globalSpendModels, s.globalSpendModels.isOk⟩]

/-- `handleMetricsOverview`: an error of the control plane is written, any other one is dropped. -/
def handleMetricsOverview : ReadHandler Atespace Actor Worker Unit := do
  match ← collectSubstrateMetrics s with
  | .error e => writeGRPCError e
  | .ok substrate =>
    called s.nodeCalls
    called s.podCalls
    called s.gatewayCalls
    writeJSON (.overview
      { nodes := collectNodeMetrics s.resource s.kube s.listNodeMetrics s.listNodes
        pods := collectPodMetrics s.resource s.mapOrder s.kube s.listPodMetrics
        substrate := substrate
        gateway := collectGatewayMetrics
          ⟨s.globalSpend, s.spendLogs 1000, s.globalSpendKeys, s.globalSpendModels⟩ })

/-- `strconv.Atoi`. -/
def atoi (q : String) : Option ℤ :=
  let (negative, digits) :=
    match q.toList with
    | '-' :: ds => (true, ds)
    | '+' :: ds => (false, ds)
    | ds => (false, ds)
  if digits ≠ [] ∧ digits.all (fun c => '0' ≤ c && c ≤ '9') = true then
    let n : ℤ := digits.foldl (fun n c => 10 * n + (c.toNat - '0'.toNat)) 0
    let n := if negative then -n else n
    if Int64.minValue.toInt ≤ n ∧ n ≤ Int64.maxValue.toInt then some n else none
  else none

/-- The limit of the query, 100 where there is none. -/
def spendLogsLimit (q : String) : Option ℤ :=
  if q = "" then some 100
  else
    match atoi q with
    | some n => if n < 1 ∨ n > 500 then none else some n
    | none => none

/-- `aliasByHash`: the last entry of a hash counts, and an unknown hash has no alias. -/
def aliasByHash (keys : List Gateway.KeySpend) : String → String :=
  keys.foldl (fun m k hash => if hash = k.apiKey then k.keyAlias else m hash) fun _ => ""

/-- A spend log entry with the alias of its key. -/
def spendLogJSON (keys : List Gateway.KeySpend) (e : Gateway.SpendLogEntry) : SpendLogJSON :=
  { requestID := e.requestID
    startTime := e.startTime
    endTime := e.endTime
    model := e.model
    keyAlias := aliasByHash keys e.apiKey
    promptTokens := e.promptTokens
    completionTokens := e.completionTokens
    totalTokens := e.totalTokens
    spend := e.spend }

/-- `handleMetricsSpendLogs`, with the query parameter `limit`. -/
def handleMetricsSpendLogs (q : String) : ReadHandler Atespace Actor Worker Unit := do
  match spendLogsLimit q with
  | none => writeError 400 "limit must be an integer between 1 and 500"
  | some limit =>
    match ← call (.spendLogs limit) (s.spendLogs limit) with
    | .error e => writeGatewayError e
    | .ok logs =>
      match ← call .globalSpendKeys s.globalSpendKeys with
      | .error e => writeGatewayError e
      | .ok keys => writeJSON (.spendLogs (logs.map (spendLogJSON keys)))

end

/-! ## The routes -/

/-- A request of a reading route, with its path values and query parameters. -/
inductive ReadRequest where
  | healthz
  | listAtespaces
  | listActors (atespace : String)
  | getActor (a : ActorRef)
  | listWorkers
  | listActorTemplates
  | listWorkerPools
  | gatewayInfo
  | listGatewayKeys
  | metricsOverview
  | metricsSpendLogs (limit : String)
  deriving DecidableEq, Repr

/-- `Server.Handler`, for the reading routes. -/
def serveRead (rfc3339 : String → String) (s : Reader Atespace Actor Worker) :
    ReadRequest → ReadHandler Atespace Actor Worker Unit
  | .healthz => handleHealthz s
  | .listAtespaces => handleListAtespaces s
  | .listActors atespace => handleListActors s atespace
  | .getActor a => handleGetActor s a
  | .listWorkers => handleListWorkers s
  | .listActorTemplates => handleListActorTemplates s rfc3339
  | .listWorkerPools => handleListWorkerPools s rfc3339
  | .gatewayInfo => handleGatewayInfo s
  | .listGatewayKeys => handleListGatewayKeys s
  | .metricsOverview => handleMetricsOverview s
  | .metricsSpendLogs limit => handleMetricsSpendLogs s limit

/-! ## One response -/

theorem listKube_responds (s : Reader Atespace Actor Worker) (rfc3339 : String → String)
    (c : ReadCall) (list : Except KubeError (List Unstructured)) :
    Responds (listKube s rfc3339 c list) := by
  unfold listKube
  split
  · exact responds_writeError 503 _
  · apply responds_result
    · exact writesError_of_status (by omega) KubeError.message
    · exact fun items => responds_writeJSON _

theorem handleMetricsOverview_responds (s : Reader Atespace Actor Worker) :
    Responds (handleMetricsOverview s) := by
  unfold handleMetricsOverview collectSubstrateMetrics
  simp only [bind_assoc]
  apply responds_call
  cases s.listWorkers with
  | error e => exact writeGRPCError_writesError.responds e
  | ok workers =>
    simp only [bind_assoc]
    apply responds_call
    cases s.listActors "" with
    | error e => exact writeGRPCError_writesError.responds e
    | ok actors =>
      simp only [bind_assoc]
      apply responds_call
      cases s.listAtespaces with
      | error e => exact writeGRPCError_writesError.responds e
      | ok atespaces =>
        intro t
        exact ⟨_, rfl⟩

theorem handleMetricsSpendLogs_responds (s : Reader Atespace Actor Worker) (q : String) :
    Responds (handleMetricsSpendLogs s q) := by
  unfold handleMetricsSpendLogs
  split
  · exact responds_writeError 400 _
  · apply responds_result writeGatewayError_writesError
    intro logs
    apply responds_result writeGatewayError_writesError
    exact fun keys => responds_writeJSON _

/-- **Every reading request gets one response.** -/
theorem serveRead_responds (rfc3339 : String → String)
    (s : Reader Atespace Actor Worker) (r : ReadRequest) :
    Responds (serveRead rfc3339 s r) := by
  cases r with
  | healthz =>
    exact responds_result (writesError_of_status (by omega) ("substrate gRPC unreachable: " ++ ·))
      fun _ => responds_writeJSON _
  | listAtespaces =>
    exact responds_result writeGRPCError_writesError fun _ => responds_writeJSON _
  | listActors atespace =>
    exact responds_result writeGRPCError_writesError fun _ => responds_writeJSON _
  | getActor a => exact responds_result writeGRPCError_writesError fun _ => responds_writeJSON _
  | listWorkers => exact responds_result writeGRPCError_writesError fun _ => responds_writeJSON _
  | listActorTemplates => exact listKube_responds s rfc3339 _ _
  | listWorkerPools => exact listKube_responds s rfc3339 _ _
  | gatewayInfo => exact responds_result writeGatewayError_writesError fun _ => responds_writeJSON _
  | listGatewayKeys =>
    exact responds_result writeGatewayError_writesError fun _ => responds_writeJSON _
  | metricsOverview => exact handleMetricsOverview_responds s
  | metricsSpendLogs limit => exact handleMetricsSpendLogs_responds s limit

end Api
