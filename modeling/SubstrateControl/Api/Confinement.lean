import SubstrateControl.Api.Actors
import SubstrateControl.Api.Proxy
import SubstrateControl.Kit.Url
import SubstrateControl.Router.Redirect

/-!
# The proxy stays at the router

`handleProxyActor` and `Forward` build a URL by writing the path of a request behind the router's
address.

* `wire` — the requests that leave the console for a handled request, redirects included.
* `handleProxyActor_sent` — what a sent request is made of.
* `newClient_url` — cutting the last slash of the address keeps its scheme and authority.
* `handleProxyActor_confined` — at most one request leaves, and it goes to the router.
-/

set_option autoImplicit false

namespace Api

open Go Kit RouterProxy

/-- The requests sent for a handled request within `rounds` hops. -/
def wire (t : Transport) (rounds : ℕ) (p : Proxied) : List Outgoing :=
  match p.sent with
  | none => []
  | some req => ((clientDo t checkRedirect rounds [] req).map Prod.fst).getD []

theorem wire_succ (t : Transport) (rounds : ℕ) (p : Proxied) :
    wire t (rounds + 1) p = p.sent.toList := by
  unfold wire
  cases p.sent with
  | none => rfl
  | some req => simp [clientDo_checkRedirect]

/-- The checks on the method and the path of a request. -/
def ActorProxyRequest.accepted (req : ActorProxyRequest) : Prop :=
  (req.method = "GET" ∨ req.method = "POST") ∧ hasPrefix req.path "/" = true

/-- What is sent passed the checks, and carries the request's method and path. -/
theorem handleProxyActor_sent {net : Network} {rp : Client} {actor : ActorRef}
    {body : DecodedBody ActorProxyRequest} {out : Outgoing}
    (h : (handleProxyActor net rp actor body).sent = some out) :
    ∃ req, decodeBody {} body = .ok req ∧ req.accepted ∧ out.method = req.method ∧
      out.url = rp.addr ++ req.path ∧ out.host = actorHost actor := by
  unfold handleProxyActor at h
  split at h
  · cases h
  · rename_i req hreq
    refine ⟨req, hreq, ?_⟩
    split at h
    · cases h
    · rename_i hmethod
      split at h
      · cases h
      · rename_i hpath
        have hacc : req.accepted := by
          refine ⟨?_, by simpa using hpath⟩
          by_contra hno
          rw [not_or] at hno
          exact hmethod hno
        simp only at h
        split at h
        · split at h
          · exact ⟨hacc, forward_sent h⟩
          · exact ⟨hacc, forward_sent h⟩
        · exact ⟨hacc, forward_sent h⟩

/-- A text with a last slash, and without it. -/
theorem trimSuffix_slash (s : String) :
    s.toList = (trimSuffix s "/").toList ++ ['/'] ∨ trimSuffix s "/" = s := by
  unfold trimSuffix
  split
  · rename_i hsuf
    obtain ⟨l, hl⟩ := List.isSuffixOf_iff_suffix.mp hsuf
    have hl : l ++ ['/'] = s.toList := hl
    refine Or.inl ?_
    rw [String.toList_ofList, ← hl]
    simp
  · exact Or.inr rfl

/-- The address of a router: `scheme://authority[/prefix]`. -/
structure IsAddress (addr : String) (base : Url) : Prop where
  parse : Url.parse (if addr = "" then defaultAddr else addr).toList = some base
  authority : base.authority ≠ []
  query : base.query = none
  fragment : base.fragment = none

/-- The client's address has the scheme and the authority of the configured one. -/
theorem newClient_url {addr : String} {base : Url} (h : IsAddress addr base) :
    ∃ u, Url.parse (newClient addr).addr.toList = some u ∧ u.scheme = base.scheme ∧
      u.authority = base.authority ∧ u.query = none ∧ u.fragment = none := by
  unfold newClient
  rcases trimSuffix_slash (if addr = "" then defaultAddr else addr) with hslash | hsame
  · have hparse := h.parse
    rw [hslash] at hparse
    exact ⟨_, Url.parse_dropSlash hparse h.query h.fragment h.authority, rfl, rfl, h.query,
      h.fragment⟩
  · rw [hsame]
    exact ⟨base, h.parse, rfl, rfl, h.query, h.fragment⟩

/-- A path behind the client's address leaves scheme and authority alone. -/
theorem url_confined {addr path : String} {base : Url} (h : IsAddress addr base)
    (hpath : hasPrefix path "/" = true) :
    ∃ u, Url.parse ((newClient addr).addr ++ path).toList = some u ∧ u.scheme = base.scheme ∧
      u.authority = base.authority := by
  obtain ⟨t, ht⟩ := List.isPrefixOf_iff_prefix.mp hpath
  have ht : path.toList = '/' :: t := ht.symm
  obtain ⟨u, hu, hscheme, hauthority, hquery, hfragment⟩ := newClient_url h
  obtain ⟨v, hv, hvs, hva, -⟩ := Url.parse_append_slash hu hquery hfragment t
  refine ⟨v, ?_, hvs.trans hscheme, hva.trans hauthority⟩
  rw [String.toList_append, ht]
  exact hv

/-- **The proxy stays at the router.** Whatever the body of the request, the actor and the answers,
at most one request leaves; it goes to the configured scheme and authority, with method GET or POST
and the actor's Host, and a redirect answered to it is not followed.  A request that is not decoded
or fails a check sends nothing.  A server whose client this is answers the same. -/
theorem handleProxyActor_confined (t : Transport)
    (newRequest : (method url : String) → Option NetError) (rounds : ℕ) {addr : String} {base : Url}
    (haddr : IsAddress addr base) (actor : ActorRef) (body : DecodedBody ActorProxyRequest) :
    let p := handleProxyActor (t.network newRequest) (newClient addr) actor body
    (wire t (rounds + 1) p).length ≤ 1 ∧
    (∀ out ∈ wire t (rounds + 1) p,
      (∃ u, Url.parse out.url.toList = some u ∧ u.scheme = base.scheme ∧
        u.authority = base.authority) ∧
      (out.method = "GET" ∨ out.method = "POST") ∧ out.host = actorHost actor) ∧
    ((∀ req, decodeBody {} body = .ok req → ¬ req.accepted) → wire t (rounds + 1) p = []) ∧
    ∀ {Atespace Actor : Type} (s : Server Atespace Actor),
      (proxyActor (s.through (t.network newRequest) (newClient addr)) actor
        body).trace.responses = [proxied p.answer] := by
  intro p
  rw [wire_succ]
  refine ⟨?_, ?_, ?_, fun s => proxyActor_trace _ _ s actor body⟩
  · cases p.sent <;> simp
  · intro out hout
    obtain ⟨req, -, ⟨hmethod, hpath⟩, hm, hu, hh⟩ :=
      handleProxyActor_sent (Option.mem_toList.mp hout)
    refine ⟨?_, by rwa [hm], hh⟩
    rw [hu]
    exact url_confined haddr hpath
  · intro hrejected
    cases hsent : p.sent with
    | none => rfl
    | some out =>
      obtain ⟨req, hreq, hacc, -⟩ := handleProxyActor_sent hsent
      exact absurd hacc (hrejected req hreq)

/-- A router that redirects every request to the node's metadata service. -/
def redirectingRouter : Transport :=
  ⟨fun _ => .answered 301 [] [], fun req => some (.ok { req with url := "http://169.254.169.254/" })⟩

/-- A path with an authority of its own, and a router that redirects. -/
theorem handleProxyActor_confined_redirect :
    (wire redirectingRouter 5 (handleProxyActor (redirectingRouter.network fun _ _ => none)
      (newClient "http://router:80/ingress/") ⟨"dev", "bot"⟩
      (.value ⟨"GET", "//evil@host/..?x#y", "", ""⟩))).length ≤ 1 ∧
    ∃ u, Url.parse "http://router:80/ingress//evil@host/..?x#y".toList = some u ∧
      u.authority = "router:80".toList := by
  have haddr : IsAddress "http://router:80/ingress/"
      ⟨"http".toList, "router:80".toList, "/ingress/".toList, none, none⟩ :=
    ⟨by decide, by decide, rfl, rfl⟩
  have h := handleProxyActor_confined redirectingRouter (fun _ _ => none) 4 haddr ⟨"dev", "bot"⟩
    (.value ⟨"GET", "//evil@host/..?x#y", "", ""⟩)
  refine ⟨h.1, ?_⟩
  obtain ⟨u, hu, -, hauthority⟩ := (h.2.1 ⟨"GET", "http://router:80/ingress//evil@host/..?x#y",
    "bot.dev.actors.resources.substrate.ate.dev", none, some "text/plain"⟩
    (by rw [wire_succ]; decide)).1
  exact ⟨u, hu, hauthority⟩

end Api
