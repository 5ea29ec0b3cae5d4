import SubstrateControl.Api.Server

/-!
# Atespaces and actors

Model of the handlers of `internal/api/server.go` that create, change and delete atespaces and
actors.

* `proxyActor` — `handleProxyActor` over a server's clients; `proxyActor_trace`: with the router's
  client it answers as the handler does.
-/

set_option autoImplicit false

namespace Api

open Go

variable {Atespace Actor : Type}

/-! ## Atespaces -/

/-- `handleCreateAtespace`. -/
def handleCreateAtespace (s : Server Atespace Actor) (body : DecodedBody CreateAtespaceRequest) :
    Handler Atespace Actor Unit := do
  match decodeBody {} body with
  | .error e => writeError 400 ("invalid JSON body: " ++ e)
  | .ok req =>
    if req.name = "" then
      writeError 400 "name is required"
    else
      match ← call (.createAtespace req.name) (s.createAtespace req.name) with
      | .error e => writeGRPCError e
      | .ok sp => writeJSON (.atespace sp)

/-- `handleDeleteAtespace`. -/
def handleDeleteAtespace (s : Server Atespace Actor) (name : String) :
    Handler Atespace Actor Unit := do
  match ← call (.deleteAtespace name) (s.deleteAtespace name) with
  | .error e => writeGRPCError e
  | .ok sp => writeJSON (.atespace sp)

/-! ## Actors -/

/-- `handleCreateActor`. -/
def handleCreateActor (s : Server Atespace Actor) (body : DecodedBody CreateActorRequest) :
    Handler Atespace Actor Unit := do
  match decodeBody {} body with
  | .error e => writeError 400 ("invalid JSON body: " ++ e)
  | .ok req =>
    if req.atespace = "" ∨ req.name = "" then
      writeError 400 "atespace and name are required"
    else
      match ← call (.createActor (newActor req)) (s.createActor (newActor req)) with
      | .error e => writeGRPCError e
      | .ok actor => writeJSON (.actor actor)

/-- `handleDeleteActor`. -/
def handleDeleteActor (s : Server Atespace Actor) (a : ActorRef) :
    Handler Atespace Actor Unit := do
  match ← call (.deleteActor a) (s.deleteActor a) with
  | .error e => writeGRPCError e
  | .ok actor => writeJSON (.actor actor)

/-- `handleSuspendActor`. -/
def handleSuspendActor (s : Server Atespace Actor) (a : ActorRef) :
    Handler Atespace Actor Unit := do
  match ← call (.suspendActor a) (s.suspendActor a) with
  | .error e => writeGRPCError e
  | .ok actor => writeJSON (.wrapped actor)

/-- `handlePauseActor`. -/
def handlePauseActor (s : Server Atespace Actor) (a : ActorRef) :
    Handler Atespace Actor Unit := do
  match ← call (.pauseActor a) (s.pauseActor a) with
  | .error e => writeGRPCError e
  | .ok actor => writeJSON (.wrapped actor)

/-- `handleResumeActor`. -/
def handleResumeActor (s : Server Atespace Actor) (a : ActorRef)
    (body : DecodedBody ResumeActorRequest) : Handler Atespace Actor Unit := do
  match decodeBody {} body with
  | .error e => writeError 400 ("invalid JSON body: " ++ e)
  | .ok req =>
    match ← call (.resumeActor a req.boot) (s.resumeActor a req.boot) with
    | .error e => writeGRPCError e
    | .ok actor => writeJSON (.wrapped actor)

/-- `handleUpdateActor`. -/
def handleUpdateActor (s : Server Atespace Actor) (a : ActorRef)
    (body : DecodedBody UpdateActorRequest) : Handler Atespace Actor Unit := do
  match decodeBody {} body with
  | .error e => writeError 400 ("invalid JSON body: " ++ e)
  | .ok req =>
    match ← call (.updateActor a req.workerSelector) (s.updateActor a req.workerSelector) with
    | .error e => writeGRPCError e
    | .ok actor => writeJSON (.wrapped actor)

/-- An error of `Forward` is written with whether it is a timeout. -/
def writeForwardError (e : RouterProxy.NetError) : Handler Atespace Actor Unit :=
  if e.timeout then writeError 504 ("actor request timed out: " ++ e.message)
  else writeError 502 ("actor unreachable: " ++ e.message)

/-- `handleProxyActor`, over the clients of a server. -/
def proxyActor (s : Server Atespace Actor) (a : ActorRef) (body : DecodedBody ActorProxyRequest) :
    Handler Atespace Actor Unit := do
  match decodeBody {} body with
  | .error e => writeError 400 ("invalid JSON body: " ++ e)
  | .ok req =>
    if req.method ≠ "GET" ∧ req.method ≠ "POST" then
      writeError 400 "method must be GET or POST"
    else if hasPrefix req.path "/" = false then
      writeError 400 "path must start with /"
    else
      let contentType := if req.contentType = "" then "text/plain" else req.contentType
      match ← call (.forward (actorHost a) req.method req.path req.body contentType)
          (s.forward (actorHost a) req.method req.path req.body contentType) with
      | .error e => writeForwardError e
      | .ok res => writeJSON (.proxied ⟨res.status, res.contentType, res.body⟩)

/-- A server whose client for actors is the router's. -/
def Server.through (s : Server Atespace Actor) (net : RouterProxy.Network)
    (rp : RouterProxy.Client) : Server Atespace Actor :=
  { s with
    forward := fun host method path body contentType =>
      (RouterProxy.forward net rp host method path body contentType).result }

/-- What is written for an answer of the proxy. -/
def proxied : Answer ActorProxyResponse → Answer (Body Atespace Actor)
  | .error status message => .error status message
  | .ok r => .ok (.proxied r)

/-- **`proxyActor` answers as `handleProxyActor` does** when its client is the router's. -/
theorem proxyActor_trace (net : RouterProxy.Network) (rp : RouterProxy.Client)
    (s : Server Atespace Actor) (a : ActorRef) (body : DecodedBody ActorProxyRequest) :
    (proxyActor (s.through net rp) a body).trace.responses =
      [proxied (handleProxyActor net rp a body).answer] := by
  unfold proxyActor handleProxyActor Server.through
  cases decodeBody {} body with
  | error e => rfl
  | ok req =>
    by_cases hmethod : req.method ≠ "GET" ∧ req.method ≠ "POST"
    · simp only [if_pos hmethod]
      rfl
    · by_cases hpath : hasPrefix req.path "/" = false
      · simp only [if_neg hmethod, if_pos hpath]
        rfl
      · simp only [if_neg hmethod, if_neg hpath]
        cases (RouterProxy.forward net rp (actorHost a) req.method req.path req.body
          (if req.contentType = "" then "text/plain" else req.contentType)).result with
        | error e =>
          obtain ⟨message, timeout⟩ := e
          cases timeout with
          | true => rfl
          | false => rfl
        | ok res => rfl

end Api
