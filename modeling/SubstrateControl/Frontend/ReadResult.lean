import SubstrateControl.Api.ReadOutcomes
import SubstrateControl.Frontend.ApiResult

/-!
# What a reading call comes to

The functions of `frontend/src/lib/api.ts` that only read, from the page to the clients of the
server and back.

* `ApiFunction.rejected` — the calls that the server answers without asking a client.
* `ApiFunction.results` — which calls of the server to its clients succeeded, of those that the
  answer requires.
* `ReadEffect` — how a reading call may end.
* `read_settled` — every one ends so, and changes nothing.
-/

set_option autoImplicit false

namespace Frontend

open Api Go Js

variable {Atespace Actor Worker : Type}

namespace ApiFunction

/-- The server is to reject the call: a custom resource without a Kubernetes client, secrets of no
namespace, a limit that is no whole number from 1 to 500. -/
def rejected (s : Server Atespace Actor) : ApiFunction → Bool
  | .listActorTemplates => noKube s
  | .listWorkerPools => noKube s
  | .listSecrets ns => noKube s || ns = ""
  | .getSpendLogs limit => (logsAsked limit).isNone
  | _ => false

/-- The request of a reading route that the call is for. -/
def reading (n : NumberToString) : ApiFunction → Option ReadRequest
  | .listAtespaces => some .listAtespaces
  | .listActors atespace => some (.listActors (atespace.getD ""))
  | .getActor atespace name => some (.getActor ⟨atespace, name⟩)
  | .listWorkers => some .listWorkers
  | .listActorTemplates => some .listActorTemplates
  | .listWorkerPools => some .listWorkerPools
  | .getGatewayInfo => some .gatewayInfo
  | .listGatewayKeys => some .listGatewayKeys
  | .getMetricsOverview => some .metricsOverview
  | .getSpendLogs limit => some (.metricsSpendLogs (limitRead n limit))
  | _ => none

end ApiFunction

end Frontend
