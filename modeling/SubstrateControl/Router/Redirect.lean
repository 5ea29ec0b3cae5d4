import SubstrateControl.Router.Proxy

/-!
# Redirects

How `http.Client` turns one request into the requests it sends, and what the policy of
`internal/routerproxy/routerproxy.go` makes of it.

* `Transport` — what one round trip gives, and where a redirect answer points.
* `clientDo` — the loop of `http.Client.Do`: send, then ask `CheckRedirect` before the next hop.
* `checkRedirect` — the policy of `NewClient`.
* `clientDo_checkRedirect` — under it the loop ends with its first answer, whatever that is.
-/

set_option autoImplicit false

namespace RouterProxy

/-- What happens to one request, and the request a redirect answer to it asks for, if it is one
with a `Location`, or why that `Location` makes none. -/
structure Transport where
  roundTrip : Outgoing → Exchange
  redirect : Outgoing → Option (Except NetError Outgoing)

/-- What `CheckRedirect` returns: nil, `http.ErrUseLastResponse` or another error. -/
inductive RedirectCheck where
  | follow
  | useLastResponse
  | refuse (e : NetError)
  deriving DecidableEq, Repr

/-- `http.Client.Do` for at most `rounds` hops: the requests sent, and what the caller gets.
None while the loop is still running. -/
def clientDo (t : Transport) (check : Outgoing → List Outgoing → RedirectCheck) :
    (rounds : ℕ) → (via : List Outgoing) → Outgoing → Option (List Outgoing × Exchange)
  | 0, _, _ => none
  | rounds + 1, via, req =>
    let reqs := via ++ [req]
    match t.roundTrip req with
    | .failed e => some (reqs, .failed e)
    | resp =>
      match t.redirect req with
      | none => some (reqs, resp)
      | some (.error e) => some (reqs, .failed e)
      | some (.ok next) =>
        match check next reqs with
        | .follow => clientDo t check rounds reqs next
        | .useLastResponse => some (reqs, resp)
        | .refuse e => some (reqs, .failed e)

/-- `CheckRedirect` of the client `NewClient` builds. -/
def checkRedirect (_ : Outgoing) (_ : List Outgoing) : RedirectCheck := .useLastResponse

/-- What the caller of `Do` gets under `checkRedirect`: the answer to its own request, unless that
points to a `Location` that is none. -/
def Transport.lastResponse (t : Transport) (req : Outgoing) : Exchange :=
  match t.roundTrip req, t.redirect req with
  | .failed e, _ => .failed e
  | _, some (.error e) => .failed e
  | resp, _ => resp

/-- The network `Forward` works on, with the client's loop under it. -/
def Transport.network (t : Transport) (newRequest : (method url : String) → Option NetError) :
    Network := ⟨newRequest, t.lastResponse⟩

/-- **No redirect is followed**: the loop sends the request it was given and returns. -/
theorem clientDo_checkRedirect (t : Transport) (rounds : ℕ) (req : Outgoing) :
    clientDo t checkRedirect (rounds + 1) [] req = some ([req], t.lastResponse req) := by
  unfold clientDo Transport.lastResponse
  cases t.roundTrip req with
  | failed e => rfl
  | readFailed e =>
    cases t.redirect req with
    | none => rfl
    | some next => cases next <;> rfl
  | answered status ct body =>
    cases t.redirect req with
    | none => rfl
    | some next => cases next <;> rfl

/-- What `Forward` sends is built from its arguments, below the router's address. -/
theorem forward_sent {net : Network} {c : Client} {host method path body contentType : String}
    {req : Outgoing} (h : (forward net c host method path body contentType).sent = some req) :
    req.method = method ∧ req.url = c.addr ++ path ∧ req.host = host := by
  unfold forward at h
  split at h
  · cases h
  · simp only at h
    split at h <;> cases h <;> exact ⟨rfl, rfl, rfl⟩

end RouterProxy
