import SubstrateControl.Frontend.ApiClient
import SubstrateControl.Js.Types

/-!
# The types of the API client

The interfaces of the responses in `frontend/src/lib/types.ts`, and the types that
`frontend/src/lib/api.ts` declares for its functions.

* `actorType`, `workerType`, … — the interfaces.
* `ApiFunction.returns` — what the promise of a call is declared to be fulfilled with.
-/

set_option autoImplicit false

namespace Frontend

open Js Js.TsType

/-- A property that is there. -/
def prop (name : String) (type : TsType) : Property := { name, type }

/-- A property with a question mark. -/
def propOpt (name : String) (type : TsType) : Property := { name, type, optional := true }

/-- An interface with one list, which may be null. -/
def listType (name : String) (item : TsType) : TsType :=
  interface [prop name (orNull (array item))]

/-! ## The control plane -/

/-- `ActorStatus`. -/
def actorStatuses : List String :=
  ["UNSPECIFIED", "RESUMING", "RUNNING", "SUSPENDING", "SUSPENDED", "PAUSING", "PAUSED", "CRASHED"]

/-- `Atespace`. -/
def atespaceType : TsType :=
  interface
    [prop "name" string, prop "uid" string, prop "version" number, prop "createTime" string,
      prop "updateTime" string]

/-- `WorkerSelector`. -/
def workerSelectorType : TsType := interface [propOpt "matchLabels" (orNull (record string))]

/-- `SnapshotInfo`. -/
def snapshotInfoType : TsType :=
  interface
    [prop "type" string, propOpt "snapshotUriPrefix" string, propOpt "snapshotPrefix" string,
      propOpt "nodeVmsWithLocalSnapshots" (array string)]

/-- `Actor`. -/
def actorType : TsType :=
  interface
    [prop "atespace" string, prop "name" string, prop "uid" string, prop "version" number,
      prop "createTime" string, prop "updateTime" string, prop "actorTemplateNamespace" string,
      prop "actorTemplateName" string, prop "status" (literals actorStatuses),
      propOpt "ateomPodNamespace" string, propOpt "ateomPodName" string,
      propOpt "ateomPodIP" string, propOpt "workerPoolName" string,
      propOpt "workerSelector" (orNull workerSelectorType),
      propOpt "snapshotInfo" snapshotInfoType]

/-- The type of `actor` in `WorkerAssignment`. -/
def actorRefType : TsType := interface [prop "atespace" string, prop "name" string]

/-- The type of `actorTemplate` in `WorkerAssignment`. -/
def actorTemplateRefType : TsType := interface [prop "namespace" string, prop "name" string]

/-- `WorkerAssignment`. -/
def workerAssignmentType : TsType :=
  interface [prop "actor" actorRefType, prop "actorTemplate" actorTemplateRefType]

/-- `Worker`. -/
def workerType : TsType :=
  interface
    [prop "workerNamespace" string, prop "workerPool" string, prop "workerPod" string,
      prop "ip" string, prop "version" number, prop "workerPodUid" string,
      prop "nodeName" string, prop "sandboxClass" string,
      propOpt "labels" (orNull (record string)),
      propOpt "assignment" (orNull workerAssignmentType)]

/-- `ActorProxyResponse`. -/
def actorProxyResponseType : TsType :=
  interface [prop "status" number, prop "contentType" string, prop "body" string]

/-! ## Kubernetes -/

/-- `K8sObject`. -/
def k8sObjectType : TsType :=
  interface
    [prop "namespace" string, prop "name" string, prop "uid" string,
      prop "creationTimestamp" string, propOpt "labels" (record string),
      propOpt "spec" (record unknown), propOpt "status" (record unknown)]

/-- `SecretInfo`. -/
def secretInfoType : TsType :=
  interface
    [prop "namespace" string, prop "name" string, prop "type" string, prop "keys" (array string),
      prop "creationTimestamp" string]

/-! ## The gateway -/

/-- `GatewayInfo`. -/
def gatewayInfoType : TsType :=
  interface [prop "reachable" boolean, prop "url" string, prop "version" string]

/-- `GatewayKey`. -/
def gatewayKeyType : TsType :=
  interface
    [prop "key" string, prop "keyAlias" string, propOpt "models" (orNull (array string)),
      prop "spend" number, prop "maxBudget" number, propOpt "expires" string,
      propOpt "createdAt" string, propOpt "userId" string]

/-- `GeneratedKey`. -/
def generatedKeyType : TsType :=
  interface
    [prop "key" string, prop "keyAlias" string, propOpt "duration" string,
      propOpt "expires" string]

/-- `GatewayModel`. -/
def gatewayModelType : TsType :=
  interface
    [prop "id" string, prop "modelName" string, prop "model" string, prop "provider" string,
      propOpt "apiBase" string, prop "hasApiKey" boolean, propOpt "createdAt" string,
      propOpt "updatedAt" string]

/-! ## Monitoring -/

/-- `NodeMetrics`. -/
def nodeMetricsType : TsType :=
  interface
    [prop "name" string, prop "cpuUsage" string, prop "cpuPercent" number,
      prop "memoryUsage" string, prop "memoryPercent" number]

/-- `NamespacePodMetrics`. -/
def namespacePodMetricsType : TsType :=
  interface
    [prop "namespace" string, prop "podCount" number, prop "cpuUsage" string,
      prop "memoryUsage" string]

/-- `NodeMetricsSection` and `PodMetricsSection`. -/
def metricsSectionType (item : TsType) : TsType :=
  interface [prop "available" boolean, prop "items" (orNull (array item))]

/-- `SubstrateMetrics`. -/
def substrateMetricsType : TsType :=
  interface
    [prop "workersTotal" number, prop "workersAssigned" number, prop "workersIdle" number,
      prop "actorsRunning" number, prop "actorsSuspended" number,
      prop "actorsTransitioning" number, prop "actorsCrashed" number, prop "pools" number,
      prop "templates" number, prop "atespaces" number]

/-- `TokenTotals`. -/
def tokenTotalsType : TsType :=
  interface [prop "prompt" number, prop "completion" number, prop "total" number]

/-- `KeySpend`. -/
def keySpendType : TsType :=
  interface
    [prop "keyAlias" string, prop "keyName" string, prop "spend" number, prop "tokens" number,
      prop "requests" number]

/-- `ModelSpend`. -/
def modelSpendType : TsType :=
  interface
    [prop "model" string, prop "spend" number, prop "tokens" number, prop "requests" number]

/-- `GatewayMetrics`. -/
def gatewayMetricsType : TsType :=
  interface
    [prop "reachable" boolean, prop "totalSpend" number, prop "maxBudget" number,
      prop "totalRequests" number, prop "tokens" tokenTotalsType,
      prop "spendByKey" (orNull (array keySpendType)),
      prop "spendByModel" (orNull (array modelSpendType))]

/-- `MonitoringOverview`. -/
def monitoringOverviewType : TsType :=
  interface
    [prop "nodes" (metricsSectionType nodeMetricsType),
      prop "pods" (metricsSectionType namespacePodMetricsType),
      prop "substrate" substrateMetricsType, prop "gateway" gatewayMetricsType]

/-- `SpendLog`. -/
def spendLogType : TsType :=
  interface
    [prop "requestId" string, prop "startTime" string, prop "endTime" string,
      prop "model" string, prop "keyAlias" string, prop "promptTokens" number,
      prop "completionTokens" number, prop "totalTokens" number, prop "spend" number]

/-! ## Functions -/

/-- What the promise of a call is declared to be fulfilled with. -/
def ApiFunction.returns : ApiFunction → TsType
  | .listAtespaces => listType "atespaces" atespaceType
  | .createAtespace _ | .deleteAtespace _ => atespaceType
  | .listActors _ => listType "actors" actorType
  | .getActor _ _ | .createActor _ | .deleteActor _ _ => actorType
  | .suspendActor _ _ | .pauseActor _ _ | .resumeActor _ _ _ => interface [prop "actor" actorType]
  | .proxyActorRequest _ _ _ => actorProxyResponseType
  | .listWorkers => listType "workers" workerType
  | .listActorTemplates | .listWorkerPools => listType "items" k8sObjectType
  | .createActorTemplate _ | .createWorkerPool _ => k8sObjectType
  | .deleteActorTemplate _ _ | .deleteWorkerPool _ _ | .deleteSecret _ _ | .deleteGatewayKey _
  | .deleteGatewayModel _ => interface [prop "deleted" boolean]
  | .listSecrets _ => listType "items" secretInfoType
  | .createSecret _ => secretInfoType
  | .getGatewayInfo => gatewayInfoType
  | .listGatewayKeys => listType "items" gatewayKeyType
  | .generateGatewayKey _ => generatedKeyType
  | .listGatewayModels => listType "items" gatewayModelType
  | .registerGatewayModel _ => gatewayModelType
  | .getMetricsOverview => monitoringOverviewType
  | .getSpendLogs _ => listType "items" spendLogType

end Frontend
