import SubstrateControl.Router.Proxy
import SubstrateControl.Kit.Separator

/-!
# Tasks sent to actors

Model of `handleProxyActor` (`internal/api/server.go`), which forwards an HTTP request to an actor
by the Host `<name>.<atespace>` in the router's domain.

* `handleProxyActor` — the handler: what it answers and the request it sent, whose Host is the
  `http.Request.Host` it sets.
* `actorHost` — the Host of an actor.
* `host_eq_iff` — accepted requests for two actors have the same Host exactly when the actors are
  the same or one Host is read as the other's by splitting it at a later dot.
* `sameHost_iff` — hence for different actors, with what follows for dotless names.
-/

set_option autoImplicit false

namespace Api

open Go Kit RouterProxy

/-- `actorProxyRequest`. -/
structure ActorProxyRequest where
  method : String := ""
  path : String := ""
  body : String := ""
  contentType : String := ""
  deriving DecidableEq, Repr

/-- `actorProxyResponse`. -/
structure ActorProxyResponse where
  status : ℕ
  contentType : List UInt8
  body : List UInt8
  deriving DecidableEq, Repr

/-- What the JSON decoder finds in a request body. -/
inductive DecodedBody (α : Type) where
  | empty
  | malformed (message : String)
  | value (v : α)
  deriving Repr

/-- `decodeBody`: an empty body leaves the zero value. -/
def decodeBody {α : Type} (zero : α) : DecodedBody α → Except String α
  | .empty => .ok zero
  | .malformed message => .error message
  | .value v => .ok v

/-- An answer: `writeError`, or `writeJSON` with status 200. -/
inductive Answer (α : Type) where
  | error (status : ℕ) (message : String)
  | ok (body : α)
  deriving DecidableEq, Repr

/-- `actorProxyHostSuffix`. -/
def actorProxyHostSuffix : String := ".actors.resources.substrate.ate.dev"

/-- The path values of an actor's routes. -/
structure ActorRef where
  atespace : String
  name : String
  deriving DecidableEq, Repr

/-- The Host the router knows the actor by. -/
def actorHost (a : ActorRef) : String := a.name ++ "." ++ a.atespace ++ actorProxyHostSuffix

/-- A handled request: the answer, and the request sent to the router, if any. -/
structure Proxied where
  answer : Answer ActorProxyResponse
  sent : Option Outgoing

/-- `handleProxyActor`. -/
def handleProxyActor (net : Network) (rp : Client) (actor : ActorRef)
    (body : DecodedBody ActorProxyRequest) : Proxied :=
  match decodeBody {} body with
  | .error e => ⟨.error 400 ("invalid JSON body: " ++ e), none⟩
  | .ok req =>
    if req.method ≠ "GET" ∧ req.method ≠ "POST" then
      ⟨.error 400 "method must be GET or POST", none⟩
    else if hasPrefix req.path "/" = false then
      ⟨.error 400 "path must start with /", none⟩
    else
      let contentType := if req.contentType = "" then "text/plain" else req.contentType
      let f := forward net rp (actorHost actor) req.method req.path req.body contentType
      match f.result with
      | .error e =>
        if e.timeout then ⟨.error 504 ("actor request timed out: " ++ e.message), f.sent⟩
        else ⟨.error 502 ("actor unreachable: " ++ e.message), f.sent⟩
      | .ok res => ⟨.ok ⟨res.status, res.contentType, res.body⟩, f.sent⟩

/-- **What is sent for an actor carries the actor's Host.** -/
theorem handleProxyActor_host {net : Network} {rp : Client} {actor : ActorRef}
    {body : DecodedBody ActorProxyRequest} {out : Outgoing}
    (h : (handleProxyActor net rp actor body).sent = some out) : out.host = actorHost actor := by
  unfold handleProxyActor at h
  split at h
  · cases h
  · split at h
    · cases h
    · split at h
      · cases h
      · simp only at h
        split at h
        · split at h
          · exact forward_host h
          · exact forward_host h
        · exact forward_host h

/-! ## Hosts of different actors -/

/-- The Host of `a` is also that of `b`: `b`'s name runs past `a`'s into its atespace. -/
def ReadsAs (a b : ActorRef) : Prop :=
  ∃ mid, b.name = a.name ++ "." ++ mid ∧ a.atespace = mid ++ "." ++ b.atespace

theorem readsAs_iff (a b : ActorRef) : ReadsAs a b ↔
    Separator.SplitsLater '.' a.name.toList a.atespace.toList b.name.toList b.atespace.toList := by
  constructor
  · rintro ⟨mid, hname, hatespace⟩
    exact ⟨mid.toList, by simp [hname], by simp [hatespace]⟩
  · rintro ⟨m, hname, hatespace⟩
    refine ⟨String.ofList m, ?_, ?_⟩ <;> apply String.toList_inj.mp
    · simp [hname]
    · simp [hatespace]

/-- **Two actors have one Host** exactly when they are the same or one reads as the other. -/
theorem actorHost_eq_iff (a b : ActorRef) :
    actorHost a = actorHost b ↔ a = b ∨ ReadsAs a b ∨ ReadsAs b a := by
  have hchars : ∀ x : ActorRef, (actorHost x).toList =
      (x.name.toList ++ '.' :: x.atespace.toList) ++ actorProxyHostSuffix.toList := by
    intro x
    simp [actorHost]
  have heq : a = b ↔ a.name.toList = b.name.toList ∧ a.atespace.toList = b.atespace.toList := by
    rw [String.toList_inj, String.toList_inj]
    cases a
    cases b
    simp [and_comm]
  rw [← String.toList_inj, hchars, hchars, List.append_left_inj, Separator.append_sep_inj_iff,
    heq, readsAs_iff, readsAs_iff]

/-- An actor reads as another only through a dot in the other's name and one in its own atespace,
and never as one of its own atespace. -/
theorem ReadsAs.dots {a b : ActorRef} (h : ReadsAs a b) :
    '.' ∈ b.name.toList ∧ '.' ∈ a.atespace.toList ∧ a.atespace ≠ b.atespace := by
  rw [readsAs_iff] at h
  refine ⟨h.mem_left, h.mem_right, fun heq => ?_⟩
  have hlt := h.length_lt
  rw [heq] at hlt
  omega

/-- **Isolation up to dots**: the requests accepted for two different actors are handed to
`net/http` with the same Host exactly when one actor reads as the other.  They never are when both
names are without a dot, when both atespaces are, or within one atespace. -/
theorem sameHost_iff {net net' : Network} {rp : Client} {a b : ActorRef}
    {body body' : DecodedBody ActorProxyRequest} {out out' : Outgoing}
    (ha : (handleProxyActor net rp a body).sent = some out)
    (hb : (handleProxyActor net' rp b body').sent = some out') (hne : a ≠ b) :
    (out.host = out'.host ↔ ReadsAs a b ∨ ReadsAs b a) ∧
    (('.' ∉ a.name.toList ∧ '.' ∉ b.name.toList) ∨
      ('.' ∉ a.atespace.toList ∧ '.' ∉ b.atespace.toList) ∨ a.atespace = b.atespace →
      out.host ≠ out'.host) := by
  have hiff : out.host = out'.host ↔ ReadsAs a b ∨ ReadsAs b a := by
    rw [handleProxyActor_host ha, handleProxyActor_host hb, actorHost_eq_iff]
    simp [hne]
  refine ⟨hiff, fun hdots hsame => ?_⟩
  rcases hiff.mp hsame with h | h
  · obtain ⟨h1, h2, h3⟩ := h.dots
    rcases hdots with ⟨_, h⟩ | ⟨h, _⟩ | h
    · exact h h1
    · exact h h2
    · exact h3 h
  · obtain ⟨h1, h2, h3⟩ := h.dots
    rcases hdots with ⟨h, _⟩ | ⟨_, h⟩ | h
    · exact h h1
    · exact h h2
    · exact h3 h.symm

/-- A router that answers everything. -/
def openNetwork : Network :=
  ⟨fun _ _ => none, fun _ => .answered 200 "text/plain".toUTF8.toList []⟩

/-- Two actors of one name in two atespaces. -/
theorem sameHost_iff_twoAtespaces :
    ∃ out out', (handleProxyActor openNetwork (newClient "") ⟨"dev", "bot"⟩
        (.value ⟨"GET", "/ask", "", ""⟩)).sent = some out ∧
      (handleProxyActor openNetwork (newClient "") ⟨"prod", "bot"⟩
        (.value ⟨"GET", "/ask", "", ""⟩)).sent = some out' ∧ out.host ≠ out'.host := by
  refine ⟨_, _, rfl, rfl, ?_⟩
  have hiff := @sameHost_iff openNetwork openNetwork (newClient "") ⟨"dev", "bot"⟩ ⟨"prod", "bot"⟩
    (.value ⟨"GET", "/ask", "", ""⟩) (.value ⟨"GET", "/ask", "", ""⟩) _ _ rfl rfl (by decide)
  exact hiff.2 (Or.inl (by decide))

/-- The actor `bot` of the atespace `team.dev` and the actor `bot.team` of the atespace `dev`. -/
theorem sameHost_counterexample :
    ∃ out out', (handleProxyActor openNetwork (newClient "") ⟨"team.dev", "bot"⟩
        (.value ⟨"POST", "/ask", "task", ""⟩)).sent = some out ∧
      (handleProxyActor openNetwork (newClient "") ⟨"dev", "bot.team"⟩
        (.value ⟨"POST", "/ask", "task", ""⟩)).sent = some out' ∧
      (⟨"team.dev", "bot"⟩ : ActorRef) ≠ ⟨"dev", "bot.team"⟩ ∧ out.host = out'.host ∧
      out.host = "bot.team.dev.actors.resources.substrate.ate.dev" :=
  ⟨_, _, rfl, rfl, by decide, by decide, by decide⟩

end Api
