import SubstrateControl.Api.ObjectList
import SubstrateControl.Api.Relay
import SubstrateControl.Api.WorkerMessages

/-!
# Response bodies

The JSON of everything the handlers write, as `encoding/json` makes it of the types of
`internal/api/types.go` and `internal/api/monitoring.go`.

* `toJVal` of each type — its fields under their names, where an empty one may be omitted.
* `Body.toJVal`, `ReadBody.toJVal` — what `writeJSON` is given.
-/

set_option autoImplicit false

namespace Api

open Go

/-! ## Fields -/

/-- A field of type string. -/
def strField (s : String) : Option JVal := some (.str s)

/-- A string that is omitted when it is empty. -/
def strOmitempty (s : String) : Option JVal := if s = "" then none else some (.str s)

/-- A field of type int64. -/
def int64Field (n : Int64) : Option JVal := some (.num n.toInt)

/-- A field of type int. -/
def intField (n : ℕ) : Option JVal := some (.num n)

/-- A field of type float64. -/
def floatField (q : ℚ) : Option JVal := some (.num q)

def boolField (b : Bool) : Option JVal := some (.bool b)

/-- A slice that is not nil. -/
def sliceField {α : Type} (toJVal : α → JVal) (xs : List α) : Option JVal :=
  some (.arr (xs.map toJVal))

/-- A map of strings, which may be nil. -/
def mapJVal : Option (List (String × String)) → JVal
  | none => .null
  | some labels => sorted (labelsJSON labels)

/-! ## The control plane -/

def AtespaceJSON.toJVal (a : AtespaceJSON) : JVal :=
  structJVal
    [("name", strField a.name), ("uid", strField a.uid), ("version", int64Field a.version),
      ("createTime", strField a.createTime), ("updateTime", strField a.updateTime)]

def SelectorJSON.toJVal (s : SelectorJSON) : JVal :=
  structJVal [("matchLabels", some (mapJVal s.matchLabels))]

def SnapshotInfoJSON.toJVal (s : SnapshotInfoJSON) : JVal :=
  structJVal
    [("type", strField s.type), ("snapshotUriPrefix", strOmitempty s.snapshotUriPrefix),
      ("snapshotPrefix", strOmitempty s.snapshotPrefix),
      ("nodeVmsWithLocalSnapshots",
        if s.nodeVmsWithLocalSnapshots = [] then none
        else sliceField .str s.nodeVmsWithLocalSnapshots)]

def ActorJSON.toJVal (a : ActorJSON) : JVal :=
  structJVal
    [("atespace", strField a.atespace), ("name", strField a.name), ("uid", strField a.uid),
      ("version", int64Field a.version), ("createTime", strField a.createTime),
      ("updateTime", strField a.updateTime),
      ("actorTemplateNamespace", strField a.actorTemplateNamespace),
      ("actorTemplateName", strField a.actorTemplateName), ("status", strField a.status),
      ("ateomPodNamespace", strField a.ateomPodNamespace),
      ("ateomPodName", strField a.ateomPodName), ("ateomPodIP", strField a.ateomPodIP),
      ("workerPoolName", strField a.workerPoolName),
      ("workerSelector", a.workerSelector.map SelectorJSON.toJVal),
      ("snapshotInfo", a.snapshotInfo.map SnapshotInfoJSON.toJVal)]

def ObjectRefJSON.toJVal (r : ObjectRefJSON) : JVal :=
  structJVal [("atespace", strField r.atespace), ("name", strField r.name)]

def NsRefJSON.toJVal (r : NsRefJSON) : JVal :=
  structJVal [("namespace", strField r.ns), ("name", strField r.name)]

def AssignmentJSON.toJVal (a : AssignmentJSON) : JVal :=
  structJVal
    [("actor", a.actor.map ObjectRefJSON.toJVal),
      ("actorTemplate", a.actorTemplate.map NsRefJSON.toJVal)]

def WorkerJSON.toJVal (w : WorkerJSON) : JVal :=
  structJVal
    [("workerNamespace", strField w.workerNamespace), ("workerPool", strField w.workerPool),
      ("workerPod", strField w.workerPod), ("ip", strField w.ip),
      ("version", int64Field w.version), ("workerPodUid", strField w.workerPodUid),
      ("nodeName", strField w.nodeName), ("sandboxClass", strField w.sandboxClass),
      ("labels", some (mapJVal (some w.labels))),
      ("assignment", w.assignment.map AssignmentJSON.toJVal)]

/-! ## Secrets and the gateway -/

def SecretInfoJSON.toJVal (s : SecretInfoJSON) : JVal :=
  structJVal
    [("namespace", strField s.ns), ("name", strField s.name), ("type", strField s.type),
      ("keys", sliceField .str s.keys), ("creationTimestamp", strField s.creationTimestamp)]

/-- `gatewayKeyJSON` for a key; the slice of models is nil for a key that was listed as a string. -/
def keyJVal (nilModels : Gateway.Key → Bool) (k : Gateway.Key) : JVal :=
  structJVal
    [("key", strField k.key), ("keyAlias", strField k.keyAlias),
      ("models", if nilModels k then some .null else sliceField .str k.models),
      ("spend", floatField k.spend), ("maxBudget", floatField k.maxBudget),
      ("expires", strField k.expires), ("createdAt", strField k.createdAt),
      ("userId", strField k.userID)]

/-- `generatedKeyJSON` for a key. -/
def generatedKeyJVal (k : Gateway.GeneratedKey) : JVal :=
  structJVal
    [("key", strField k.key), ("keyAlias", strField k.keyAlias),
      ("duration", strField k.duration), ("expires", strField k.expires)]

/-! ## Monitoring -/

def SpendLogJSON.toJVal (l : SpendLogJSON) : JVal :=
  structJVal
    [("requestId", strField l.requestID), ("startTime", strField l.startTime),
      ("endTime", strField l.endTime), ("model", strField l.model),
      ("keyAlias", strField l.keyAlias), ("promptTokens", int64Field l.promptTokens),
      ("completionTokens", int64Field l.completionTokens),
      ("totalTokens", int64Field l.totalTokens), ("spend", floatField l.spend)]

def NodeMetricJSON.toJVal (m : NodeMetricJSON) : JVal :=
  structJVal
    [("name", strField m.name), ("cpuUsage", strField m.cpuUsage),
      ("cpuPercent", floatField m.cpuPercent), ("memoryUsage", strField m.memoryUsage),
      ("memoryPercent", floatField m.memoryPercent)]

def PodNamespaceMetricJSON.toJVal (m : PodNamespaceMetricJSON) : JVal :=
  structJVal
    [("namespace", strField m.ns), ("podCount", intField m.podCount),
      ("cpuUsage", strField m.cpuUsage), ("memoryUsage", strField m.memoryUsage)]

def MetricsSectionJSON.toJVal {ι : Type} (toJVal : ι → JVal) (s : MetricsSectionJSON ι) : JVal :=
  structJVal [("available", boolField s.available), ("items", sliceField toJVal s.items)]

def SubstrateMetricsJSON.toJVal (m : SubstrateMetricsJSON) : JVal :=
  structJVal
    [("workersTotal", intField m.workersTotal), ("workersAssigned", intField m.workersAssigned),
      ("workersIdle", intField m.workersIdle), ("actorsRunning", intField m.actorsRunning),
      ("actorsSuspended", intField m.actorsSuspended),
      ("actorsTransitioning", intField m.actorsTransitioning),
      ("actorsCrashed", intField m.actorsCrashed), ("pools", intField m.pools),
      ("templates", intField m.templates), ("atespaces", intField m.atespaces)]

def TokensJSON.toJVal (t : TokensJSON) : JVal :=
  structJVal
    [("prompt", int64Field t.prompt), ("completion", int64Field t.completion),
      ("total", int64Field t.total)]

def SpendByKeyJSON.toJVal (r : SpendByKeyJSON) : JVal :=
  structJVal
    [("keyAlias", strField r.keyAlias), ("keyName", strField r.keyName),
      ("spend", floatField r.spend), ("tokens", int64Field r.tokens),
      ("requests", intField r.requests)]

def SpendByModelJSON.toJVal (r : SpendByModelJSON) : JVal :=
  structJVal
    [("model", strField r.model), ("spend", floatField r.spend), ("tokens", int64Field r.tokens),
      ("requests", intField r.requests)]

def GatewayMetricsJSON.toJVal (m : GatewayMetricsJSON) : JVal :=
  structJVal
    [("reachable", boolField m.reachable), ("totalSpend", floatField m.totalSpend),
      ("maxBudget", floatField m.maxBudget), ("totalRequests", intField m.totalRequests),
      ("tokens", some m.tokens.toJVal),
      ("spendByKey", sliceField SpendByKeyJSON.toJVal m.spendByKey),
      ("spendByModel", sliceField SpendByModelJSON.toJVal m.spendByModel)]

def OverviewJSON.toJVal
    (o : OverviewJSON) : JVal :=
  structJVal
    [("nodes", some (o.nodes.toJVal NodeMetricJSON.toJVal)),
      ("pods", some (o.pods.toJVal PodNamespaceMetricJSON.toJVal)),
      ("substrate", some o.substrate.toJVal), ("gateway", some o.gateway.toJVal)]

/-! ## Bodies -/

/-- How the times of messages are written, and which keys have no slice of models. -/
structure WireFormat where
  rfc3339 : Pb.Timestamp → String
  nilModels : Gateway.Key → Bool

/-- `map[string]any{"items": …}`. -/
def itemsJVal {α : Type} (toJVal : α → JVal) (items : List α) : JVal :=
  structJVal [("items", sliceField toJVal items)]

variable (fmt : WireFormat)

def actorJVal (a : Pb.Actor Pb.Selector) : JVal := (actorToJSON fmt.rfc3339 a).toJVal

def atespaceJVal (a : Pb.Atespace) : JVal := (atespaceToJSON fmt.rfc3339 a).toJVal

/-- What a mutating handler gives to `writeJSON`. -/
def Body.toJVal : Body Pb.Atespace (Pb.Actor Pb.Selector) → JVal
  | .atespace a => atespaceJVal fmt a
  | .actor a => actorJVal fmt a
  | .wrapped a => structJVal [("actor", some (actorJVal fmt a))]
  | .deleted => structJVal [("deleted", boolField true)]
  | .proxied r => r.toDoc.toJVal
  | .object o => o.toJVal
  | .secret s => s.toJVal
  | .secrets items => itemsJVal SecretInfoJSON.toJVal items
  | .generatedKey k => generatedKeyJVal k
  | .model m => m.toDoc.toJVal
  | .models items => (modelsDoc items).toJVal

/-- What a reading handler gives to `writeJSON`. -/
def ReadBody.toJVal :
    ReadBody Pb.Atespace (Pb.Actor Pb.Selector) Pb.Worker → JVal
  | .healthy => structJVal [("ok", boolField true)]
  | .atespaces items => structJVal [("atespaces", sliceField (atespaceJVal fmt) items)]
  | .actors items => structJVal [("actors", sliceField (actorJVal fmt) items)]
  | .actor a => actorJVal fmt a
  | .workers items => structJVal [("workers", sliceField (fun w => (workerToJSON w).toJVal) items)]
  | .objects items => itemsJVal K8sObjectJSON.toJVal items
  | .gatewayInfo url version =>
    structJVal
      [("reachable", boolField true), ("url", strField url), ("version", version.map JVal.str)]
  | .gatewayKeys items => itemsJVal (keyJVal fmt.nilModels) items
  | .overview o => o.toJVal
  | .spendLogs items => itemsJVal SpendLogJSON.toJVal items

end Api
