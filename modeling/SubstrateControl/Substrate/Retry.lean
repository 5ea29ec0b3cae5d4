import SubstrateControl.Substrate.Client
import SubstrateControl.Substrate.Token
import SubstrateControl.Substrate.FileToken

/-!
# RPCs that share a token source, and the retry after `Unauthenticated`

Model of `TokenSource`, `perRPCCreds` and `unauthenticatedRetryInterceptor`
(`internal/substrate/token.go`).

* `TokenSource` — what the interface's implementations have in common: a call of `Get` returns the
  cached token, fetches like `ForceRefresh`, or fails; a fetch that fails changes nothing.
  `TokenProvider` and `FileTokenProvider` are instances.
* `LoggedSource` — a source with the log of its fetches; each fetch carries the number of the call
  that made it.
* `RpcSystem.step` — any number of RPCs over one source.  Lookups and refreshes are atomic; how an
  attempt ends, when, and whether it asks for metadata at all is up to the event.
* `RpcInv`, `rpc_step_inv` — where an RPC stands and what it has done so far.
* `run_refreshes` — the refreshes an RPC logs are the calls of `ForceRefresh` made for it.
* `retry_safe` — attempts, refreshes and results of every RPC over every run, for both providers;
  `returned_eq_interceptor`: what an RPC returns is what the interceptor computes from the answers
  it got.
-/

set_option autoImplicit false

namespace Substrate

open Kit

/-- `TokenSource`: `ε` is what the surroundings contribute to one call. -/
class TokenSource (σ : Type) (ε : outParam Type) where
  token : σ → String
  usesCache : σ → ε → Bool
  get : σ → ε → Except String String × σ
  forceRefresh : σ → ε → Except String String × σ
  get_cached : ∀ p env, usesCache p env = true →
    token p ≠ "" ∧ get p env = (.ok (token p), p)
  get_fetches : ∀ p env, usesCache p env = false →
    get p env = forceRefresh p env ∨ ∃ e, get p env = (.error e, p)
  forceRefresh_cases : ∀ p env,
    (∃ tok p', forceRefresh p env = (.ok tok, p') ∧ token p' = tok) ∨
      ∃ e, forceRefresh p env = (.error e, p)

/-- What a call of a `TokenProvider` meets: the clock, and a run of kubectl. -/
structure MintAnswers where
  now : ℤ
  mint : MintRun

instance TokenProvider.tokenSource : TokenSource TokenProvider MintAnswers where
  token p := p.token
  usesCache p env := p.cached env.now
  get p env := p.get env.now env.mint
  forceRefresh p env := p.forceRefresh env.mint
  get_cached p env h := by
    have htest : p.token ≠ "" ∧ env.now < p.expiry := by
      simpa [TokenProvider.cached] using h
    exact ⟨htest.1, by simp [TokenProvider.get, h]⟩
  get_fetches p env h := by
    left
    simp [TokenProvider.get, TokenProvider.forceRefresh, h]
  forceRefresh_cases p env := by
    rcases p.mintLocked_cases env.mint with ⟨tok, _, hm⟩ | ⟨_, h⟩
    · exact Or.inl ⟨tok, _, hm, rfl⟩
    · exact Or.inr h

/-- What a call of a `FileTokenProvider` meets: the answers of its file operations. -/
structure FileAnswers where
  stat : Except String ℤ
  read : Except String String
  restat : Except String ℤ

/-- The first stat gives the cached mtime. -/
def FileTokenProvider.usesCache (p : FileTokenProvider) (env : FileAnswers) : Bool :=
  match env.stat with
  | .error _ => false
  | .ok modTime => p.cached modTime

instance FileTokenProvider.tokenSource : TokenSource FileTokenProvider FileAnswers where
  token p := p.token
  usesCache := FileTokenProvider.usesCache
  get p env := p.get env.stat env.read env.restat
  forceRefresh p env := p.forceRefresh env.read env.restat
  get_cached p env h := by
    unfold FileTokenProvider.usesCache at h
    split at h
    · cases h
    · rename_i modTime hstat
      have htest : p.token ≠ "" ∧ modTime = p.mtime := by
        simpa [FileTokenProvider.cached] using h
      exact ⟨htest.1, by simp [FileTokenProvider.get, hstat, h]⟩
  get_fetches p env h := by
    unfold FileTokenProvider.usesCache at h
    split at h
    · rename_i e hstat
      exact Or.inr ⟨e, by simp [FileTokenProvider.get, hstat]⟩
    · rename_i modTime hstat
      exact Or.inl (by simp [FileTokenProvider.get, FileTokenProvider.forceRefresh, hstat, h])
  forceRefresh_cases p env := by
    rcases p.readLocked_cases env.read env.restat with ⟨tok, _, _, hr⟩ | h
    · exact Or.inl ⟨tok, _, hr, rfl⟩
    · exact Or.inr h

/-! ## A source and the log of its fetches -/

/-- A token that was minted or read, and the number of the call of the source that did it. -/
structure Fetch where
  call : ℕ
  token : String
  deriving DecidableEq, Repr

/-- A source, the number of calls made of it, and its fetches, the newest first. -/
structure LoggedSource (σ : Type) where
  source : σ
  calls : ℕ
  fetches : List Fetch

namespace LoggedSource

variable {σ ε : Type} [TokenSource σ ε]

/-- The log after a fetch that gave `r`. -/
def logged (s : LoggedSource σ) (r : Except String String) : List Fetch :=
  match r with
  | .ok tok => ⟨s.calls, tok⟩ :: s.fetches
  | .error _ => s.fetches

/-- One `Get`. -/
def get (s : LoggedSource σ) (env : ε) : Except String String × LoggedSource σ :=
  let r := TokenSource.get s.source env
  (r.1, ⟨r.2, s.calls + 1,
    if TokenSource.usesCache s.source env then s.fetches else s.logged r.1⟩)

/-- One `ForceRefresh`. -/
def forceRefresh (s : LoggedSource σ) (env : ε) : Except String String × LoggedSource σ :=
  let r := TokenSource.forceRefresh s.source env
  (r.1, ⟨r.2, s.calls + 1, s.logged r.1⟩)

/-- The cached token is the newest fetch's, and every fetch was made by an earlier call. -/
structure Inv (s : LoggedSource σ) : Prop where
  newest : TokenSource.token s.source ≠ "" →
    ∃ f rest, s.fetches = f :: rest ∧ f.token = TokenSource.token s.source
  earlier : ∀ f ∈ s.fetches, f.call < s.calls

/-- What one call does to the log: nothing, or a fetch by that call goes on top. -/
def Extends (s s' : LoggedSource σ) : Prop :=
  s'.fetches = s.fetches ∨ ∃ tok, s'.fetches = ⟨s.calls, tok⟩ :: s.fetches

/-- A refresh keeps the invariant; one that succeeds puts its fetch on top of the log. -/
theorem forceRefresh_spec {s : LoggedSource σ} (hinv : s.Inv) (env : ε) :
    (s.forceRefresh env).2.Inv ∧ s.Extends (s.forceRefresh env).2 ∧
      ∀ tok, (s.forceRefresh env).1 = .ok tok →
        (s.forceRefresh env).2.fetches = ⟨s.calls, tok⟩ :: s.fetches := by
  unfold forceRefresh
  rcases TokenSource.forceRefresh_cases s.source env with ⟨tok, p', hr, htok⟩ | ⟨e, hr⟩
  · simp only [hr, logged]
    refine ⟨⟨fun _ => ⟨_, _, rfl, htok.symm⟩, ?_⟩, Or.inr ⟨tok, rfl⟩, ?_⟩
    · intro f hf
      rcases List.mem_cons.mp hf with rfl | hf
      · exact Nat.lt_succ_self _
      · exact Nat.lt_succ_of_lt (hinv.earlier f hf)
    · intro tok' h
      cases h
      rfl
  · simp only [hr, logged]
    refine ⟨⟨hinv.newest, fun f hf => Nat.lt_succ_of_lt (hinv.earlier f hf)⟩, Or.inl rfl, ?_⟩
    intro tok h
    cases h

/-- A lookup keeps the invariant; the token it returns is that of the newest fetch. -/
theorem get_spec {s : LoggedSource σ} (hinv : s.Inv) (env : ε) :
    (s.get env).2.Inv ∧ s.Extends (s.get env).2 ∧
      ∀ tok, (s.get env).1 = .ok tok →
        ∃ f rest, (s.get env).2.fetches = f :: rest ∧ f.token = tok := by
  cases hcache : TokenSource.usesCache s.source env with
  | true =>
    obtain ⟨hne, hget⟩ := TokenSource.get_cached s.source env hcache
    simp only [get, hget, hcache, if_true]
    refine ⟨⟨hinv.newest, fun f hf => Nat.lt_succ_of_lt (hinv.earlier f hf)⟩, Or.inl rfl, ?_⟩
    intro tok h
    cases h
    exact hinv.newest hne
  | false =>
    rcases TokenSource.get_fetches s.source env hcache with hget | ⟨e, hget⟩
    · -- the lookup fetches: it is a refresh
      have hsame : s.get env = s.forceRefresh env := by
        simp [get, forceRefresh, hget, hcache]
      obtain ⟨h1, h2, h3⟩ := forceRefresh_spec hinv env
      rw [hsame]
      exact ⟨h1, h2, fun tok h => ⟨_, _, h3 tok h, rfl⟩⟩
    · simp only [get, hget, hcache, logged, Bool.false_eq_true, if_false]
      refine ⟨⟨hinv.newest, fun f hf => Nat.lt_succ_of_lt (hinv.earlier f hf)⟩, Or.inl rfl, ?_⟩
      intro tok h
      cases h

end LoggedSource

/-! ## The interceptor -/

variable {ρ : Type}

/-- `status.Code`. -/
def statusCode (out : Except Status ρ) : Code :=
  match out with
  | .ok _ => .ok
  | .error e => e.code

/-- What a call through the interceptor returned, how its attempts ended, and what its refreshes
gave. -/
structure Intercepted (ρ : Type) where
  result : Except Status ρ
  attempts : List (Except Status ρ)
  refreshes : List (Except String String)

/-- `unauthenticatedRetryInterceptor`, given what its calls of `invoker` and of `ForceRefresh`
return. -/
def unauthenticatedRetryInterceptor (first : Except Status ρ) (refresh : Except String String)
    (second : Except Status ρ) : Intercepted ρ :=
  if statusCode first ≠ .unauthenticated then ⟨first, [first], []⟩
  else
    match refresh with
    | .error _ => ⟨first, [first], [refresh]⟩
    | .ok _ => ⟨second, [first, second], [refresh]⟩

/-- The headers of a request. -/
abbrev Metadata := List (String × String)

/-- The metadata that carries `tok`. -/
def bearer (tok : String) : Metadata := [("authorization", "Bearer " ++ tok)]

/-- `GetRequestMetadata`, given what `Get` returns. -/
def getRequestMetadata (r : Except String String) : Except String Metadata :=
  match r with
  | .error e => .error e
  | .ok tok => .ok (bearer tok)

/-! ## RPCs -/

/-- One run of `invoker`: the metadata it was given once it has asked, the newest fetch at that
moment, and how it ended. -/
structure Attempt (ρ : Type) where
  metadata : Option (Except String Metadata) := none
  origin : Option Fetch := none
  outcome : Option (Except Status ρ) := none

/-- A `ForceRefresh` and the number of its call of the source. -/
structure Refresh where
  call : ℕ
  result : Except String String

/-- Where the interceptor stands: in its first `invoker`, before `ForceRefresh` with the error at
hand, in its second `invoker`, or past its return. -/
inductive RpcPc (ρ : Type) where
  | idle
  | first
  | rejected (err : Except Status ρ)
  | second
  | returned (out : Except Status ρ)

/-- An RPC with its attempts and refreshes so far, the newest first. -/
structure Rpc (ρ : Type) where
  pc : RpcPc ρ := .idle
  attempts : List (Attempt ρ) := []
  refreshes : List Refresh := []

namespace Rpc

/-- The RPC is called: its first attempt begins. -/
def call (r : Rpc ρ) : Rpc ρ :=
  match r.pc with
  | .idle => { r with pc := .first, attempts := {} :: r.attempts }
  | _ => r

/-- An attempt is running that has not asked for metadata. -/
def asks (r : Rpc ρ) : Bool :=
  match r.attempts with
  | [] => false
  | a :: _ => a.metadata.isNone && a.outcome.isNone

/-- The running attempt is given metadata. -/
def metadata (r : Rpc ρ) (md : Except String Metadata) (origin : Option Fetch) : Rpc ρ :=
  match r.attempts with
  | [] => r
  | a :: earlier =>
    { r with attempts := { a with metadata := some md, origin := origin } :: earlier }

/-- The running attempt ends with `out`, which `invoker` returns. -/
def outcome (r : Rpc ρ) (out : Except Status ρ) : Rpc ρ :=
  match r.pc, r.attempts with
  | .first, a :: earlier =>
    { r with
      pc := if statusCode out ≠ .unauthenticated then .returned out else .rejected out
      attempts := { a with outcome := some out } :: earlier }
  | .second, a :: earlier =>
    { r with pc := .returned out, attempts := { a with outcome := some out } :: earlier }
  | _, _ => r

/-- The interceptor is about to call `ForceRefresh`. -/
def rejected (r : Rpc ρ) : Bool :=
  match r.pc with
  | .rejected _ => true
  | _ => false

/-- `ForceRefresh` returns. -/
def refresh (r : Rpc ρ) (call : ℕ) (result : Except String String) : Rpc ρ :=
  match r.pc, result with
  | .rejected err, .error _ =>
    { r with pc := .returned err, refreshes := ⟨call, result⟩ :: r.refreshes }
  | .rejected _, .ok _ =>
    ⟨.second, {} :: r.attempts, ⟨call, result⟩ :: r.refreshes⟩
  | _, _ => r

end Rpc

structure RpcSystem (σ ι ρ : Type) where
  shared : LoggedSource σ
  rpcs : ι → Rpc ρ

inductive RpcEvent (ε ι ρ : Type) where
  /-- RPC `i` is called -/
  | call (i : ι)
  /-- grpc-go asks for the metadata of `i`'s attempt -/
  | metadata (i : ι) (env : ε)
  /-- `i`'s attempt ends -/
  | outcome (i : ι) (out : Except Status ρ)
  /-- `i` calls `ForceRefresh` -/
  | refresh (i : ι) (env : ε)
  /-- a lookup outside any RPC, as at start-up -/
  | get (env : ε)

namespace RpcSystem

variable {σ ε ι : Type} [TokenSource σ ε] [DecidableEq ι]

/-- No RPC has been called and nothing has been fetched. -/
def init (p : σ) : RpcSystem σ ι ρ := ⟨⟨p, 0, []⟩, fun _ => {}⟩

/-- One event; events that do not apply change nothing. -/
def step (s : RpcSystem σ ι ρ) : RpcEvent ε ι ρ → RpcSystem σ ι ρ
  | .call i => { s with rpcs := Function.update s.rpcs i (s.rpcs i).call }
  | .metadata i env =>
    if (s.rpcs i).asks then
      let r := s.shared.get env
      ⟨r.2, Function.update s.rpcs i
        ((s.rpcs i).metadata (getRequestMetadata r.1) r.2.fetches.head?)⟩
    else s
  | .outcome i out => { s with rpcs := Function.update s.rpcs i ((s.rpcs i).outcome out) }
  | .refresh i env =>
    if (s.rpcs i).rejected then
      let r := s.shared.forceRefresh env
      ⟨r.2, Function.update s.rpcs i ((s.rpcs i).refresh s.shared.calls r.1)⟩
    else s
  | .get env => { s with shared := (s.shared.get env).2 }

/-- The `ForceRefresh` that an event calls for RPC `i`. -/
def refreshCall (i : ι) (s : RpcSystem σ ι ρ) : RpcEvent ε ι ρ → Option Refresh
  | .refresh j env =>
    if j = i ∧ (s.rpcs j).rejected then some ⟨s.shared.calls, (s.shared.forceRefresh env).1⟩
    else none
  | _ => none

end RpcSystem

/-! ## What an RPC has done -/

/-- The metadata an attempt carries is its origin's token, and the origin was really fetched. -/
structure Attempt.Sound (fetches : List Fetch) (a : Attempt ρ) : Prop where
  origin_mem : ∀ f, a.origin = some f → f ∈ fetches
  carries : ∀ md, a.metadata = some (.ok md) → ∃ f, a.origin = some f ∧ md = bearer f.token

/-- A retry across the refresh numbered `call`: `a` looked up before it, `b` after it, and whoever
looks up now finds a fetch no older than it. -/
structure Renewed (fetches : List Fetch) (call : ℕ) (a b : Attempt ρ) : Prop where
  before : ∀ f, a.origin = some f → f.call < call
  after : ∀ f, b.origin = some f → call ≤ f.call
  newest : ∃ f rest, fetches = f :: rest ∧ call ≤ f.call

/-- Where an RPC can stand, with all it has done until then. -/
inductive RpcInv (fetches : List Fetch) : Rpc ρ → Prop
  | idle : RpcInv fetches ⟨.idle, [], []⟩
  | first {a : Attempt ρ} (ha : a.Sound fetches) (hrun : a.outcome = none) :
      RpcInv fetches ⟨.first, [a], []⟩
  | rejected {a : Attempt ρ} {err : Except Status ρ} (ha : a.Sound fetches)
      (hout : a.outcome = some err) (hcode : statusCode err = .unauthenticated) :
      RpcInv fetches ⟨.rejected err, [a], []⟩
  | final {a : Attempt ρ} {out : Except Status ρ} (ha : a.Sound fetches)
      (hout : a.outcome = some out) (hcode : statusCode out ≠ .unauthenticated) :
      RpcInv fetches ⟨.returned out, [a], []⟩
  | refreshFailed {a : Attempt ρ} {err : Except Status ρ} {call : ℕ} {e : String}
      (ha : a.Sound fetches) (hout : a.outcome = some err)
      (hcode : statusCode err = .unauthenticated) :
      RpcInv fetches ⟨.returned err, [a], [⟨call, .error e⟩]⟩
  | second {a b : Attempt ρ} {err : Except Status ρ} {call : ℕ} {tok : String}
      (ha : a.Sound fetches) (hb : b.Sound fetches) (hout : a.outcome = some err)
      (hcode : statusCode err = .unauthenticated) (hrun : b.outcome = none)
      (hnew : Renewed fetches call a b) :
      RpcInv fetches ⟨.second, [b, a], [⟨call, .ok tok⟩]⟩
  | retried {a b : Attempt ρ} {err out : Except Status ρ} {call : ℕ} {tok : String}
      (ha : a.Sound fetches) (hb : b.Sound fetches) (hout : a.outcome = some err)
      (hcode : statusCode err = .unauthenticated) (hout' : b.outcome = some out)
      (hnew : Renewed fetches call a b) :
      RpcInv fetches ⟨.returned out, [b, a], [⟨call, .ok tok⟩]⟩

section Invariant

variable {σ ε ι : Type} [TokenSource σ ε] [DecidableEq ι]

theorem Attempt.Sound.mono {fetches fetches' : List Fetch} (hsub : fetches ⊆ fetches')
    {a : Attempt ρ} (ha : a.Sound fetches) : a.Sound fetches' :=
  ⟨fun f hf => hsub (ha.origin_mem f hf), ha.carries⟩

theorem LoggedSource.Extends.subset {s s' : LoggedSource σ} (h : s.Extends s') :
    s.fetches ⊆ s'.fetches := by
  rcases h with h | ⟨tok, h⟩ <;> rw [h]
  · exact List.Subset.refl _
  · exact List.subset_cons_self _ _

/-- Whoever's call of the source comes next, a retry stays across its refresh. -/
theorem Renewed.extends {s s' : LoggedSource σ} (hinv : s.Inv) (h : s.Extends s') {call : ℕ}
    {a b : Attempt ρ} (hnew : Renewed s.fetches call a b) : Renewed s'.fetches call a b := by
  refine ⟨hnew.before, hnew.after, ?_⟩
  obtain ⟨f, rest, hf, hcall⟩ := hnew.newest
  rcases h with h | ⟨tok, h⟩ <;> rw [h]
  · exact ⟨f, rest, hf, hcall⟩
  · have hlt : f.call < s.calls := hinv.earlier f (by rw [hf]; exact List.mem_cons_self)
    exact ⟨⟨s.calls, tok⟩, s.fetches, rfl, by show call ≤ s.calls; omega⟩

/-- **A call of the source leaves every RPC where it stands.** -/
theorem RpcInv.extends {s s' : LoggedSource σ} (hinv : s.Inv) (h : s.Extends s') {r : Rpc ρ}
    (hr : RpcInv s.fetches r) : RpcInv s'.fetches r := by
  have hsub := h.subset
  cases hr with
  | idle => exact .idle
  | first ha hrun => exact .first (ha.mono hsub) hrun
  | rejected ha hout hcode => exact .rejected (ha.mono hsub) hout hcode
  | final ha hout hcode => exact .final (ha.mono hsub) hout hcode
  | refreshFailed ha hout hcode => exact .refreshFailed (ha.mono hsub) hout hcode
  | second ha hb hout hcode hrun hnew =>
    exact .second (ha.mono hsub) (hb.mono hsub) hout hcode hrun (hnew.extends hinv h)
  | retried ha hb hout hcode hout' hnew =>
    exact .retried (ha.mono hsub) (hb.mono hsub) hout hcode hout' (hnew.extends hinv h)

/-- A new attempt has looked nothing up. -/
theorem Attempt.Sound.fresh (fetches : List Fetch) : Attempt.Sound fetches ({} : Attempt ρ) :=
  ⟨fun _ h => (by cases h), fun _ h => (by cases h)⟩

theorem Attempt.Sound.ended {fetches : List Fetch} {a : Attempt ρ} (ha : a.Sound fetches)
    (out : Except Status ρ) : Attempt.Sound fetches { a with outcome := some out } :=
  ⟨ha.origin_mem, ha.carries⟩

/-- An attempt given what a lookup returned carries the newest fetch's token. -/
theorem Attempt.Sound.given {fetches : List Fetch} {r : Except String String}
    (hget : ∀ tok, r = .ok tok → ∃ f rest, fetches = f :: rest ∧ f.token = tok)
    (out : Option (Except Status ρ)) :
    Attempt.Sound fetches ⟨some (getRequestMetadata r), fetches.head?, out⟩ := by
  refine ⟨fun f hf => List.mem_of_head? hf, fun md hmd => ?_⟩
  cases r with
  | error e => cases hmd
  | ok tok =>
    obtain ⟨f, rest, hf, htok⟩ := hget tok rfl
    cases hmd
    exact ⟨f, by rw [hf]; rfl, by rw [htok]⟩

theorem RpcInv.call {fetches : List Fetch} {r : Rpc ρ} (hr : RpcInv fetches r) :
    RpcInv fetches r.call := by
  cases hr with
  | idle => exact .first (.fresh _) rfl
  | first ha hrun => exact .first ha hrun
  | rejected ha hout hcode => exact .rejected ha hout hcode
  | final ha hout hcode => exact .final ha hout hcode
  | refreshFailed ha hout hcode => exact .refreshFailed ha hout hcode
  | second ha hb hout hcode hrun hnew => exact .second ha hb hout hcode hrun hnew
  | retried ha hb hout hcode hout' hnew => exact .retried ha hb hout hcode hout' hnew

theorem RpcInv.outcome {fetches : List Fetch} {r : Rpc ρ} (hr : RpcInv fetches r)
    (out : Except Status ρ) : RpcInv fetches (r.outcome out) := by
  cases hr with
  | idle => exact .idle
  | first ha hrun =>
    by_cases hcode : statusCode out = .unauthenticated
    · simp only [Rpc.outcome, hcode, ne_eq, not_true_eq_false, if_false]
      exact .rejected (ha.ended out) rfl hcode
    · simp only [Rpc.outcome, hcode, ne_eq, not_false_eq_true, if_true]
      exact .final (ha.ended out) rfl hcode
  | rejected ha hout hcode => exact .rejected ha hout hcode
  | final ha hout hcode => exact .final ha hout hcode
  | refreshFailed ha hout hcode => exact .refreshFailed ha hout hcode
  | second ha hb hout hcode hrun hnew =>
    exact .retried ha (hb.ended out) hout hcode rfl ⟨hnew.before, hnew.after, hnew.newest⟩
  | retried ha hb hout hcode hout' hnew => exact .retried ha hb hout hcode hout' hnew

/-- A lookup for a running attempt: a second attempt finds a fetch no older than the refresh. -/
theorem RpcInv.metadata {fetches : List Fetch} {r : Rpc ρ} (hr : RpcInv fetches r)
    (hasks : r.asks = true) {res : Except String String}
    (hget : ∀ tok, res = .ok tok → ∃ f rest, fetches = f :: rest ∧ f.token = tok) :
    RpcInv fetches (r.metadata (getRequestMetadata res) fetches.head?) := by
  cases hr with
  | idle => cases hasks
  | first ha hrun => exact .first (.given hget _) hrun
  | second ha hb hout hcode hrun hnew =>
    refine .second ha (.given hget _) hout hcode hrun ⟨hnew.before, fun f hf => ?_, hnew.newest⟩
    obtain ⟨g, rest, hg, hcall⟩ := hnew.newest
    rw [hg] at hf
    cases hf
    exact hcall
  | rejected ha hout hcode | final ha hout hcode | refreshFailed ha hout hcode =>
    simp [Rpc.asks, hout] at hasks
  | retried ha hb hout hcode hout' hnew => simp [Rpc.asks, hout'] at hasks

/-- The refresh of a rejected RPC: all lookups so far were made by earlier calls. -/
theorem RpcInv.refresh {s : LoggedSource σ} (hinv : s.Inv) {r : Rpc ρ}
    (hr : RpcInv s.fetches r) (hrej : r.rejected = true) (env : ε) :
    RpcInv (s.forceRefresh env).2.fetches (r.refresh s.calls (s.forceRefresh env).1) := by
  obtain ⟨_, hext, hfetch⟩ := LoggedSource.forceRefresh_spec hinv env
  cases hr with
  | rejected ha hout hcode =>
    have ha' := ha.mono hext.subset
    cases hres : (s.forceRefresh env).1 with
    | error e => exact .refreshFailed ha' hout hcode
    | ok tok =>
      refine .second ha' (.fresh _) hout hcode rfl ⟨fun f hf => ?_, fun f hf => (by cases hf), ?_⟩
      · exact hinv.earlier f (ha.origin_mem f hf)
      · exact ⟨_, _, hfetch tok hres, Nat.le_refl _⟩
  | _ => cases hrej

structure RpcSystemInv (s : RpcSystem σ ι ρ) : Prop where
  shared : s.shared.Inv
  rpcs : ∀ i, RpcInv s.shared.fetches (s.rpcs i)

/-- Updating one RPC: the others only see the source change. -/
theorem RpcSystemInv.update {s : RpcSystem σ ι ρ} (hinv : RpcSystemInv s) {sh : LoggedSource σ}
    (hsh : sh.Inv) (hext : s.shared.Extends sh) {i : ι} {r : Rpc ρ}
    (hr : RpcInv sh.fetches r) : RpcSystemInv ⟨sh, Function.update s.rpcs i r⟩ := by
  refine ⟨hsh, fun j => ?_⟩
  by_cases hj : j = i
  · subst hj
    simpa using hr
  · simpa [hj] using (hinv.rpcs j).extends hinv.shared hext

omit [DecidableEq ι] in
theorem RpcSystemInv.init {p : σ} (hp : TokenSource.token p = "") :
    RpcSystemInv (RpcSystem.init p : RpcSystem σ ι ρ) :=
  ⟨⟨fun h => absurd hp h, fun _ h => (by cases h)⟩, fun _ => .idle⟩

/-- **One event, in any order with the other RPCs' events, keeps the invariant.** -/
theorem rpc_step_inv (s : RpcSystem σ ι ρ) (e : RpcEvent ε ι ρ) (hinv : RpcSystemInv s) :
    RpcSystemInv (s.step e) := by
  cases e with
  | call i => exact hinv.update hinv.shared (Or.inl rfl) (hinv.rpcs i).call
  | outcome i out => exact hinv.update hinv.shared (Or.inl rfl) ((hinv.rpcs i).outcome out)
  | metadata i env =>
    obtain ⟨hsh, hext, hget⟩ := LoggedSource.get_spec hinv.shared env
    simp only [RpcSystem.step]
    split
    · rename_i hasks
      exact hinv.update hsh hext (((hinv.rpcs i).extends hinv.shared hext).metadata hasks hget)
    · exact hinv
  | refresh i env =>
    obtain ⟨hsh, hext, _⟩ := LoggedSource.forceRefresh_spec hinv.shared env
    simp only [RpcSystem.step]
    split
    · rename_i hrej
      exact hinv.update hsh hext ((hinv.rpcs i).refresh hinv.shared hrej env)
    · exact hinv
  | get env =>
    obtain ⟨hsh, hext, _⟩ := LoggedSource.get_spec hinv.shared env
    exact ⟨hsh, fun i => (hinv.rpcs i).extends hinv.shared hext⟩

theorem reachable_inv {p : σ} (hp : TokenSource.token p = "") (events : List (RpcEvent ε ι ρ)) :
    RpcSystemInv (Machine.run RpcSystem.step (RpcSystem.init p : RpcSystem σ ι ρ) events) :=
  Machine.run_invariant rpc_step_inv events _ (RpcSystemInv.init hp)

end Invariant

/-! ## Results -/

/-- What holds of an RPC over a source with the log `fetches`: at most two attempts and one
refresh; an attempt that ends with anything but `Unauthenticated` is the last and its outcome is
returned; after a failed refresh the first attempt's outcome is returned and there is no second;
the token of a second attempt was fetched by the RPC's own refresh or by a later call of the
source, that of the first attempt by an earlier one; and what the RPC returns is what the
interceptor computes from the answers it got. -/
structure RpcSafe (fetches : List Fetch) (r : Rpc ρ) : Prop where
  attempts_le : r.attempts.length ≤ 2
  refreshes_le : r.refreshes.length ≤ 1
  final : ∀ a ∈ r.attempts, ∀ out, a.outcome = some out → statusCode out ≠ .unauthenticated →
    r.attempts.head? = some a ∧ r.pc = .returned out
  refresh_failed : ∀ f ∈ r.refreshes, ∀ e, f.result = .error e →
    ∃ a err, r.attempts = [a] ∧ a.outcome = some err ∧ r.pc = .returned err
  renewed : ∀ first second, r.attempts = [second, first] →
    ∃ f, r.refreshes = [f] ∧ (∀ g, first.origin = some g → g.call < f.call) ∧
      ∀ md, second.metadata = some (.ok md) →
        ∃ g ∈ fetches, second.origin = some g ∧ md = bearer g.token ∧ f.call ≤ g.call
  returned : ∀ out, r.pc = .returned out → ∃ first refresh second,
    unauthenticatedRetryInterceptor first refresh second =
      ⟨out, r.attempts.reverse.filterMap (·.outcome), r.refreshes.map (·.result)⟩

/-- **What an RPC returns is what the interceptor returns** on the answers the RPC got, with the
same attempts and refreshes. -/
theorem RpcInv.returned_eq {fetches : List Fetch} {r : Rpc ρ} (hr : RpcInv fetches r)
    {out : Except Status ρ} (hpc : r.pc = .returned out) :
    ∃ first refresh second, unauthenticatedRetryInterceptor first refresh second =
        ⟨out, r.attempts.reverse.filterMap (·.outcome), r.refreshes.map (·.result)⟩ := by
  cases hr with
  | final ha hout hcode =>
    cases hpc
    exact ⟨out, .error "", out, by simp [unauthenticatedRetryInterceptor, hcode, hout]⟩
  | @refreshFailed _ _ _ e ha hout hcode =>
    cases hpc
    exact ⟨out, .error e, out, by simp [unauthenticatedRetryInterceptor, hcode, hout]⟩
  | @retried _ _ err _ _ tok ha hb hout hcode hout' hnew =>
    cases hpc
    exact ⟨err, .ok tok, out, by simp [unauthenticatedRetryInterceptor, hcode, hout, hout']⟩
  | _ => cases hpc

/-- A retry across its refresh carries what was fetched since. -/
theorem Renewed.carries {fetches : List Fetch} {call : ℕ} {a b : Attempt ρ}
    (hnew : Renewed fetches call a b) (hb : b.Sound fetches) (md : Metadata)
    (hmd : b.metadata = some (.ok md)) :
    ∃ g ∈ fetches, b.origin = some g ∧ md = bearer g.token ∧ call ≤ g.call := by
  obtain ⟨g, hg, htok⟩ := hb.carries md hmd
  exact ⟨g, hb.origin_mem g hg, hg, htok, hnew.after g hg⟩

/-- **Wherever an RPC can stand, it is safe.** -/
theorem RpcInv.safe {fetches : List Fetch} {r : Rpc ρ} (hr : RpcInv fetches r) :
    RpcSafe fetches r := by
  have hret := fun out (hpc : r.pc = .returned out) => hr.returned_eq hpc
  cases hr with
  | idle => exact ⟨by simp, by simp, by simp, by simp, by simp, hret⟩
  | first ha hrun => exact ⟨by simp, by simp, by simp [hrun], by simp, by simp, hret⟩
  | rejected ha hout hcode =>
    exact ⟨by simp, by simp, by simp [hout, hcode], by simp, by simp, hret⟩
  | final ha hout hcode => exact ⟨by simp, by simp, by simp [hout], by simp, by simp, hret⟩
  | refreshFailed ha hout hcode =>
    exact ⟨by simp, by simp, by simp [hout, hcode], by simp [hout], by simp, hret⟩
  | second ha hb hout hcode hrun hnew =>
    refine ⟨by simp, by simp, by simp [hout, hcode, hrun], by simp, ?_, hret⟩
    intro a b hab
    cases hab
    exact ⟨_, rfl, hnew.before, hnew.carries hb⟩
  | retried ha hb hout hcode hout' hnew =>
    refine ⟨by simp, by simp, by simp [hout, hcode, hout'], by simp, ?_, hret⟩
    intro a b hab
    cases hab
    exact ⟨_, rfl, hnew.before, hnew.carries hb⟩

section Results

variable {σ ε ι : Type} [TokenSource σ ε] [DecidableEq ι]

/-- No event applies to an RPC that has returned. -/
theorem RpcInv.over {fetches : List Fetch} {r : Rpc ρ} (hr : RpcInv fetches r)
    {out : Except Status ρ} (hpc : r.pc = .returned out) :
    r.call = r ∧ r.asks = false ∧ (∀ o, r.outcome o = r) ∧ r.rejected = false := by
  cases hr with
  | final ha hout hcode => exact ⟨rfl, by simp [Rpc.asks, hout], fun _ => rfl, rfl⟩
  | refreshFailed ha hout hcode => exact ⟨rfl, by simp [Rpc.asks, hout], fun _ => rfl, rfl⟩
  | retried ha hb hout hcode hout' hnew =>
    exact ⟨rfl, by simp [Rpc.asks, hout'], fun _ => rfl, rfl⟩
  | _ => cases hpc

theorem step_returned {s : RpcSystem σ ι ρ} (hinv : RpcSystemInv s) {i : ι}
    {out : Except Status ρ} (hpc : (s.rpcs i).pc = .returned out) (e : RpcEvent ε ι ρ) :
    (s.step e).rpcs i = s.rpcs i := by
  obtain ⟨hcall, hasks, hout, hrej⟩ := (hinv.rpcs i).over hpc
  cases e with
  | call j =>
    by_cases hj : i = j
    · subst hj
      simp [RpcSystem.step, hcall]
    · simp [RpcSystem.step, hj]
  | outcome j o =>
    by_cases hj : i = j
    · subst hj
      simp [RpcSystem.step, hout]
    · simp [RpcSystem.step, hj]
  | metadata j env =>
    by_cases hj : i = j
    · subst hj
      simp [RpcSystem.step, hasks]
    · simp only [RpcSystem.step]
      split <;> simp [hj]
  | refresh j env =>
    by_cases hj : i = j
    · subst hj
      simp [RpcSystem.step, hrej]
    · simp only [RpcSystem.step]
      split <;> simp [hj]
  | get env => rfl

/-- **What an RPC has returned stays**, whatever the others do afterwards. -/
theorem run_returned {s : RpcSystem σ ι ρ} (hinv : RpcSystemInv s) {i : ι}
    {out : Except Status ρ} (hpc : (s.rpcs i).pc = .returned out) :
    ∀ later : List (RpcEvent ε ι ρ),
      (Machine.run RpcSystem.step s later).rpcs i = s.rpcs i := by
  intro later
  induction later generalizing s with
  | nil => rfl
  | cons e later ih =>
    have hsame := step_returned hinv hpc e
    rw [Machine.run_cons, ih (rpc_step_inv s e hinv) (by rw [hsame, hpc]), hsame]

@[simp] theorem Rpc.refreshes_call (r : Rpc ρ) : r.call.refreshes = r.refreshes := by
  unfold Rpc.call
  split <;> rfl

@[simp] theorem Rpc.refreshes_metadata (r : Rpc ρ) (md : Except String Metadata)
    (origin : Option Fetch) : (r.metadata md origin).refreshes = r.refreshes := by
  unfold Rpc.metadata
  split <;> rfl

@[simp] theorem Rpc.refreshes_outcome (r : Rpc ρ) (out : Except Status ρ) :
    (r.outcome out).refreshes = r.refreshes := by
  unfold Rpc.outcome
  split <;> rfl

theorem Rpc.refreshes_refresh {r : Rpc ρ} (hrej : r.rejected = true) (call : ℕ)
    (result : Except String String) :
    (r.refresh call result).refreshes = ⟨call, result⟩ :: r.refreshes := by
  unfold Rpc.rejected at hrej
  unfold Rpc.refresh
  split at hrej
  · rename_i err hpc
    rw [hpc]
    cases result <;> rfl
  · cases hrej

/-- One event: an RPC logs a refresh when its `ForceRefresh` is called, and only then. -/
theorem refreshes_step (i : ι) (s : RpcSystem σ ι ρ) (e : RpcEvent ε ι ρ) :
    ((s.step e).rpcs i).refreshes =
      (s.refreshCall i e).toList ++ (s.rpcs i).refreshes := by
  cases e with
  | call j | outcome j out =>
    by_cases hj : i = j
    · subst hj
      simp [RpcSystem.step, RpcSystem.refreshCall]
    · simp [RpcSystem.step, RpcSystem.refreshCall, hj]
  | metadata j env =>
    by_cases hj : i = j
    · subst hj
      simp only [RpcSystem.step, RpcSystem.refreshCall]
      split <;> simp
    · simp only [RpcSystem.step, RpcSystem.refreshCall]
      split <;> simp [hj]
  | refresh j env =>
    cases hrej : (s.rpcs j).rejected with
    | false => simp [RpcSystem.step, RpcSystem.refreshCall, hrej]
    | true =>
      by_cases hj : i = j
      · subst hj
        simp [RpcSystem.step, RpcSystem.refreshCall, hrej, Rpc.refreshes_refresh hrej]
      · have hj' : ¬ j = i := fun h => hj h.symm
        simp [RpcSystem.step, RpcSystem.refreshCall, hrej, hj, hj']
  | get env => rfl

/-- **The refreshes of an RPC are the calls of `ForceRefresh` made for it**, over every run. -/
theorem run_refreshes (p : σ) (i : ι) (events : List (RpcEvent ε ι ρ)) :
    ((Machine.run RpcSystem.step (RpcSystem.init p) events).rpcs i).refreshes =
      (Machine.outputs (RpcSystem.refreshCall i) RpcSystem.step (RpcSystem.init p)
        events).reverse := by
  rw [Machine.log_eq_outputs (fun s : RpcSystem σ ι ρ => (s.rpcs i).refreshes)
    (refreshes_step i)]
  simp [RpcSystem.init]

/-- Every RPC of every run from the source `p` is safe, its refreshes are the calls of
`ForceRefresh` made for it, and once it has returned nothing of it changes any more. -/
def RetrySafe (ι ρ : Type) [DecidableEq ι] (p : σ) : Prop :=
  ∀ (events : List (RpcEvent ε ι ρ)) (i : ι),
    let s := Machine.run RpcSystem.step (RpcSystem.init p) events
    RpcSafe s.shared.fetches (s.rpcs i) ∧
      (s.rpcs i).refreshes = (Machine.outputs (RpcSystem.refreshCall i) RpcSystem.step
        (RpcSystem.init p) events).reverse ∧
      ∀ out, (s.rpcs i).pc = .returned out → ∀ later : List (RpcEvent ε ι ρ),
        (Machine.run RpcSystem.step s later).rpcs i = s.rpcs i

/-- A source that has cached nothing yet is enough. -/
theorem retrySafe_of_empty {p : σ} (hp : TokenSource.token p = "") : RetrySafe ι ρ p := by
  intro events i s
  have hinv : RpcSystemInv s := reachable_inv hp events
  exact ⟨(hinv.rpcs i).safe, run_refreshes p i events, fun out hpc => run_returned hinv hpc⟩

/-- **Retry after an authentication failure**: over a fresh provider of either kind, shared by any
number of RPCs, every RPC of every run is safe. -/
theorem retry_safe (sa ns audience path : String) :
    RetrySafe ι ρ (TokenProvider.new sa ns audience) ∧
      RetrySafe ι ρ (FileTokenProvider.new path) :=
  ⟨retrySafe_of_empty rfl, retrySafe_of_empty rfl⟩

/-- Two RPCs are rejected; the retry of the first carries the refresh of the second, which came
later than its own. -/
theorem retry_safe_twoRejected :
    let mint (tok : String) : MintAnswers := ⟨0, ⟨0, fun _ _ => .output tok, 0⟩⟩
    let rejects : Except Status Unit := .error ⟨.unauthenticated, "token expired"⟩
    let events : List (RpcEvent MintAnswers Bool Unit) :=
      [.call true, .call false, .metadata true (mint "t1"), .metadata false (mint "t2"),
        .outcome true rejects, .outcome false rejects, .refresh true (mint "t3"),
        .refresh false (mint "t4"), .metadata true (mint "t5"), .outcome true (.ok ())]
    let s := Machine.run RpcSystem.step (RpcSystem.init (TokenProvider.new "sa" "ns" "aud")) events
    (s.rpcs true).attempts.map (·.origin) = [some ⟨3, "t4"⟩, some ⟨0, "t1"⟩] ∧
      (s.rpcs true).refreshes.map (·.call) = [2] ∧ RpcSafe s.shared.fetches (s.rpcs true) := by
  intro mint rejects events s
  exact ⟨by decide, by decide, ((retry_safe "sa" "ns" "aud" "").1 events true).1⟩

end Results

end Substrate
