import SubstrateControl.Go.Strings

/-!
# Requests through the atenet router

Model of `internal/routerproxy/routerproxy.go`.

* `Client`, `newClient` — the address of the router's ingress.
* `Outgoing` — the request handed to `net/http`; its `host` is `http.Request.Host`, which
  `net/http` cleans before it is written as the Host header.
* `forward` — `Client.Forward`, which also gives the request it sent, if any.
-/

set_option autoImplicit false

namespace RouterProxy

open Go

/-- `DefaultAddr`. -/
def defaultAddr : String := "http://100.125.72.76:31358"

/-- `maxBody`: 1 MiB. -/
def maxBody : ℕ := 1 <<< 20

/-- `Client`; redirects are not followed. -/
structure Client where
  addr : String
  deriving DecidableEq, Repr

/-- `NewClient`. -/
def newClient (addr : String) : Client :=
  ⟨trimSuffix (if addr = "" then defaultAddr else addr) "/"⟩

/-- The HTTP request handed to `net/http`; without a body the reader is nil, without a content
type the header is not set. -/
structure Outgoing where
  method : String
  url : String
  host : String
  body : Option String
  contentType : Option String
  deriving DecidableEq, Repr

/-- An error of `net/http`, and whether it is a `net.Error` with `Timeout()`. -/
structure NetError where
  message : String
  timeout : Bool
  deriving DecidableEq, Repr

/-- What comes back for a request; a header value, like a body, is any sequence of bytes. -/
inductive Exchange where
  | failed (e : NetError)
  | readFailed (e : NetError)
  | answered (status : ℕ) (contentType : List UInt8) (body : List UInt8)
  deriving Repr

/-- `net/http`: which methods and URLs `NewRequestWithContext` refuses, and what `Do` gives. -/
structure Network where
  newRequest : (method url : String) → Option NetError
  exchange : Outgoing → Exchange

/-- `Result`. -/
structure Result where
  status : ℕ
  contentType : List UInt8
  body : List UInt8
  deriving DecidableEq, Repr

/-- Appended to a body that was cut. -/
def truncationMarker : List UInt8 := "\n...[truncated by substrate-control]".toUTF8.toList

/-- The relayed body: at most `maxBody + 1` bytes are read, and one too many is cut with a mark. -/
def relayBody (body : List UInt8) : List UInt8 :=
  let data := body.take (maxBody + 1)
  if data.length > maxBody then data.take maxBody ++ truncationMarker else data

/-- A call of `Forward`: the request it sent and what it returned. -/
structure Forwarded where
  sent : Option Outgoing
  result : Except NetError Result

/-- `Client.Forward`. -/
def forward (net : Network) (c : Client) (host method path body contentType : String) :
    Forwarded :=
  match net.newRequest method (c.addr ++ path) with
  | some e => ⟨none, .error e⟩
  | none =>
    let req : Outgoing :=
      { method, url := c.addr ++ path, host
        body := if body = "" then none else some body
        contentType := if contentType = "" then none else some contentType }
    match net.exchange req with
    | .failed e => ⟨some req, .error e⟩
    | .readFailed e => ⟨some req, .error e⟩
    | .answered status ct data => ⟨some req, .ok ⟨status, ct, relayBody data⟩⟩

/-- Whatever `Forward` sends carries the host it was given. -/
theorem forward_host {net : Network} {c : Client} {host method path body contentType : String}
    {req : Outgoing} (h : (forward net c host method path body contentType).sent = some req) :
    req.host = host := by
  unfold forward at h
  split at h
  · cases h
  · simp only at h
    split at h <;> cases h <;> rfl

/-- `Forward` returns the answer to what it sent, with the body it relays. -/
theorem forward_answered {net : Network} {c : Client} {host method path body contentType : String}
    {req : Outgoing} {status : ℕ} {ct data : List UInt8}
    (hsent : (forward net c host method path body contentType).sent = some req)
    (hanswer : net.exchange req = .answered status ct data) :
    (forward net c host method path body contentType).result = .ok ⟨status, ct, relayBody data⟩ := by
  unfold forward at hsent ⊢
  split at hsent
  · cases hsent
  · have hreq : req =
        { method, url := c.addr ++ path, host
          body := if body = "" then none else some body
          contentType := if contentType = "" then none else some contentType } := by
      simp only at hsent
      split at hsent <;> cases hsent <;> rfl
    subst hreq
    simp only [hanswer]

end RouterProxy
