import SubstrateControl.Go.ServeMux
import SubstrateControl.Go.Utf8

/-!
# The routes of the server

* `Endpoint` — what `Server.Handler` (`internal/api/server.go`) registers handlers for.
* `routes` — its patterns, in its order.
* `routes_unambiguous`, `routes_onlyRootSlash` — they overlap only with the pattern of the static
  files, which is the only one with a trailing slash.
-/

set_option autoImplicit false

namespace Api

open Go ServeMux

/-- The handlers, by what they do. -/
inductive Endpoint where
  | healthz
  | listAtespaces
  | createAtespace
  | deleteAtespace
  | listActors
  | createActor
  | getActor
  | updateActor
  | deleteActor
  | suspendActor
  | pauseActor
  | resumeActor
  | proxyActor
  | listWorkers
  | listActorTemplates
  | createActorTemplate
  | deleteActorTemplate
  | listWorkerPools
  | createWorkerPool
  | deleteWorkerPool
  | listSecrets
  | createSecret
  | deleteSecret
  | gatewayInfo
  | listGatewayKeys
  | createGatewayKey
  | deleteGatewayKey
  | listGatewayModels
  | registerGatewayModel
  | deleteGatewayModel
  | metricsOverview
  | metricsSpendLogs
  | static
  deriving DecidableEq, Repr

/-- A literal segment. -/
def lit (s : String) : Segment := .literal (utf8 s.toList)

def route (method : String) (segments : List Segment) (e : Endpoint) : Route Endpoint :=
  ⟨⟨method, segments⟩, e⟩

/-- A pattern below `/api`. -/
def api (method : String) (segments : List Segment) (e : Endpoint) : Route Endpoint :=
  route method (lit "api" :: segments) e

/-- The patterns of `Server.Handler`. -/
def routes : List (Route Endpoint) :=
  [ api "GET" [lit "healthz"] .healthz,
    api "GET" [lit "atespaces"] .listAtespaces,
    api "POST" [lit "atespaces"] .createAtespace,
    api "DELETE" [lit "atespaces", .wildcard "name"] .deleteAtespace,
    api "GET" [lit "actors"] .listActors,
    api "POST" [lit "actors"] .createActor,
    api "GET" [lit "actors", .wildcard "atespace", .wildcard "name"] .getActor,
    api "PATCH" [lit "actors", .wildcard "atespace", .wildcard "name"] .updateActor,
    api "DELETE" [lit "actors", .wildcard "atespace", .wildcard "name"] .deleteActor,
    api "POST" [lit "actors", .wildcard "atespace", .wildcard "name", lit "suspend"] .suspendActor,
    api "POST" [lit "actors", .wildcard "atespace", .wildcard "name", lit "pause"] .pauseActor,
    api "POST" [lit "actors", .wildcard "atespace", .wildcard "name", lit "resume"] .resumeActor,
    api "POST" [lit "actors", .wildcard "atespace", .wildcard "name", lit "proxy"] .proxyActor,
    api "GET" [lit "workers"] .listWorkers,
    api "GET" [lit "actortemplates"] .listActorTemplates,
    api "POST" [lit "actortemplates"] .createActorTemplate,
    api "DELETE" [lit "actortemplates", .wildcard "namespace", .wildcard "name"]
      .deleteActorTemplate,
    api "GET" [lit "workerpools"] .listWorkerPools,
    api "POST" [lit "workerpools"] .createWorkerPool,
    api "DELETE" [lit "workerpools", .wildcard "namespace", .wildcard "name"] .deleteWorkerPool,
    api "GET" [lit "secrets"] .listSecrets,
    api "POST" [lit "secrets"] .createSecret,
    api "DELETE" [lit "secrets", .wildcard "namespace", .wildcard "name"] .deleteSecret,
    api "GET" [lit "gateway", lit "info"] .gatewayInfo,
    api "GET" [lit "gateway", lit "keys"] .listGatewayKeys,
    api "POST" [lit "gateway", lit "keys"] .createGatewayKey,
    api "DELETE" [lit "gateway", lit "keys", .wildcard "key"] .deleteGatewayKey,
    api "GET" [lit "gateway", lit "models"] .listGatewayModels,
    api "POST" [lit "gateway", lit "models"] .registerGatewayModel,
    api "DELETE" [lit "gateway", lit "models", .wildcard "id"] .deleteGatewayModel,
    api "GET" [lit "metrics", lit "overview"] .metricsOverview,
    api "GET" [lit "metrics", lit "spendlogs"] .metricsSpendLogs,
    route "GET" [.rest] .static ]

theorem routes_onlyRootSlash : OnlyRootSlash routes := by
  unfold OnlyRootSlash
  decide

theorem routes_no_connect : ∀ r ∈ routes, r.pattern.method ≠ "CONNECT" := by decide

/-- Different routes have different handlers. -/
theorem route_unique : ∀ r ∈ routes, ∀ r' ∈ routes, r.handler = r'.handler → r = r' := by decide

theorem routes_unambiguous : Unambiguous routes := by
  unfold Unambiguous
  decide

end Api
