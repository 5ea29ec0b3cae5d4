import SubstrateControl.Go.Strings
import SubstrateControl.Kit.Machine

/-!
# Minted tokens

Model of `TokenProvider` (`internal/substrate/token.go`), which mints ServiceAccount tokens with
`kubectl create token` and caches the last one for 80% of its lifetime.

* `mintLocked`, `TokenProvider.get`, `TokenProvider.forceRefresh` — the source's methods; what
  running kubectl gives, and when, is a `MintRun`.
* `History` — a run of calls with a clock, recording the last successful mint and every
  successful `Get`.  A call returns at its last reading of the clock.
* `mintLocked_fails_iff` — a mint gives the token that kubectl printed, and fails where it printed
  none.
* `HistoryInv`, `history_step_inv` — the invariant a call keeps: the cached pair is the last
  successful mint's token and its completion time plus 80% of the lifetime.
* `minted_tokens_valid` — over every history, what `Get` returns, when a mint fails, and what a
  failed mint leaves.
-/

set_option autoImplicit false

namespace Substrate

open Go Kit

/-- `time.Second`; moments and durations are integers, in nanoseconds. -/
def second : ℤ := 1000000000

/-- The requested ServiceAccount token duration: one hour. -/
def tokenLifetime : ℤ := 3600 * second

/-- 80% of the lifetime. -/
def tokenRefreshAfter : ℤ := tokenLifetime * 8 / 10

/-- The timeout of a mint: 15 seconds. -/
def mintTimeout : ℤ := 15 * second

/-- What `cmd.Output()` gives. -/
inductive CmdOutput where
  | output (stdout : String)
  | failed (err stderr : String)
  deriving DecidableEq, Repr

/-- One execution of `mintLocked`: when it starts, what running a command gives, and the clock
after the command has run. -/
structure MintRun where
  start : ℤ
  exec : String → List String → CmdOutput
  done : ℤ

/-- kubectl, run with `args`, succeeded and printed `tok`, up to white space around it. -/
def MintRun.Prints (m : MintRun) (kubectl : String) (args : List String) (tok : String) : Prop :=
  ∃ out, m.exec kubectl args = .output out ∧ trimSpace out = tok ∧ tok ≠ ""

structure TokenProvider where
  sa : String
  «namespace» : String
  audience : String
  kubectl : String
  token : String
  expiry : ℤ
  deriving DecidableEq, Repr

namespace TokenProvider

/-- `NewTokenProvider`: nothing is cached yet. -/
def new (sa ns audience : String) : TokenProvider := ⟨sa, ns, audience, "kubectl", "", 0⟩

/-- The arguments of kubectl; the duration is `tokenLifetime.String()`. -/
def mintArgs (p : TokenProvider) : List String :=
  ["create", "token", p.sa, "-n", p.namespace, "--audience=" ++ p.audience, "--duration=1h0m0s"]

/-- `mintLocked`. -/
def mintLocked (p : TokenProvider) (m : MintRun) : Except String String × TokenProvider :=
  match m.exec p.kubectl p.mintArgs with
  | .failed err stderr =>
    (.error ("kubectl create token: " ++ err ++ ": " ++ trimSpace stderr), p)
  | .output out =>
    if trimSpace out = "" then (.error "kubectl create token returned an empty token", p)
    else
      (.ok (trimSpace out), { p with token := trimSpace out, expiry := m.done + tokenRefreshAfter })

/-- The test `Get` makes before it mints. -/
def cached (p : TokenProvider) (now : ℤ) : Bool := p.token != "" && decide (now < p.expiry)

/-- `Get`, at clock `now`. -/
def get (p : TokenProvider) (now : ℤ) (m : MintRun) : Except String String × TokenProvider :=
  if p.cached now then (.ok p.token, p) else p.mintLocked m

/-- `ForceRefresh`. -/
def forceRefresh (p : TokenProvider) (m : MintRun) : Except String String × TokenProvider :=
  p.mintLocked m

/-- All that minting can do: succeed with the token that kubectl printed, which it caches until 80%
of the lifetime after `done`, or fail, when kubectl printed none, and leave the provider alone. -/
theorem mintLocked_cases (p : TokenProvider) (m : MintRun) :
    (∃ tok, m.Prints p.kubectl p.mintArgs tok ∧ p.mintLocked m =
      (.ok tok, { p with token := tok, expiry := m.done + tokenRefreshAfter })) ∨
    (∀ tok, ¬ m.Prints p.kubectl p.mintArgs tok) ∧ ∃ e, p.mintLocked m = (.error e, p) := by
  unfold mintLocked MintRun.Prints
  cases hexec : m.exec p.kubectl p.mintArgs with
  | failed err stderr =>
    right
    exact ⟨by simp, _, rfl⟩
  | output out =>
    by_cases hempty : trimSpace out = ""
    · right
      refine ⟨?_, _, if_pos hempty⟩
      rintro tok ⟨out', hout, htok, hne⟩
      cases hout
      exact hne (htok.symm.trans hempty)
    · left
      exact ⟨_, ⟨out, rfl, rfl, hempty⟩, if_neg hempty⟩

theorem mintLocked_error {p : TokenProvider} {m : MintRun} {e : String}
    (h : (p.mintLocked m).1 = .error e) : (p.mintLocked m).2 = p := by
  rcases p.mintLocked_cases m with ⟨tok, _, hm⟩ | ⟨_, e', hm⟩
  · rw [hm] at h; cases h
  · rw [hm]

/-- **A mint fails exactly when kubectl fails or prints nothing but white space.** -/
theorem mintLocked_fails_iff (p : TokenProvider) (m : MintRun) :
    (∃ e, (p.mintLocked m).1 = .error e) ↔ ∀ tok, ¬ m.Prints p.kubectl p.mintArgs tok := by
  rcases p.mintLocked_cases m with ⟨tok, hprints, hm⟩ | ⟨hnone, e, hm⟩
  · simp only [hm, reduceCtorEq, exists_const, false_iff, not_forall, not_not]
    exact ⟨tok, hprints⟩
  · simp only [hm, Except.error.injEq, exists_eq', true_iff]
    exact hnone

/-- **A failed `Get` leaves the cached token and expiry as they were.** -/
theorem get_error {p : TokenProvider} {now : ℤ} {m : MintRun} {e : String}
    (h : (p.get now m).1 = .error e) : (p.get now m).2 = p := by
  unfold get at h ⊢
  split at h
  · cases h
  · rename_i hc
    rw [if_neg hc]
    exact mintLocked_error h

end TokenProvider

/-! ## Histories -/

/-- A call of the history. -/
inductive TokenCall where
  | get (now : ℤ) (m : MintRun)
  | forceRefresh (m : MintRun)

/-- A successful `Get`: the token, the moment of its return, and the most recent successful mint
at that moment with the token it gave. -/
structure ServedToken where
  token : String
  returnedAt : ℤ
  mint : Option (String × MintRun)

structure History where
  provider : TokenProvider
  clock : ℤ
  lastMint : Option (String × MintRun)
  served : List ServedToken

def History.init (p : TokenProvider) (clock : ℤ) : History := ⟨p, clock, none, []⟩

/-- The most recent successful mint after `m` has run on `p`. -/
def mintedAfter (p : TokenProvider) (m : MintRun) (last : Option (String × MintRun)) :
    Option (String × MintRun) :=
  match (p.mintLocked m).1 with
  | .ok tok => some (tok, m)
  | .error _ => last

/-- The log of successful `Get`s after one that gave `r`. -/
def History.serve (s : History) (r : Except String String) (at_ : ℤ)
    (last : Option (String × MintRun)) : List ServedToken :=
  match r with
  | .ok tok => ⟨tok, at_, last⟩ :: s.served
  | .error _ => s.served

def History.step (s : History) : TokenCall → History
  | .get now m =>
    let r := s.provider.get now m
    if s.provider.cached now then
      { s with provider := r.2, clock := now, served := s.serve r.1 now s.lastMint }
    else
      let last := mintedAfter s.provider m s.lastMint
      ⟨r.2, m.done, last, s.serve r.1 m.done last⟩
  | .forceRefresh m =>
    { s with provider := (s.provider.forceRefresh m).2, clock := m.done,
             lastMint := mintedAfter s.provider m s.lastMint }

/-- The clock does not go back: not between calls and not within one. -/
def ClockOk (s : History) : TokenCall → Prop
  | .get now m =>
    s.clock ≤ now ∧ (s.provider.cached now = false → now ≤ m.start ∧ m.start ≤ m.done)
  | .forceRefresh m => s.clock ≤ m.start ∧ m.start ≤ m.done

/-- A served token is the last successful mint's, so kubectl printed it there; it is returned after
that mint completed, before 80% of the lifetime has passed, and unexpired whenever that mint kept to
its timeout: a token is issued no earlier than its mint starts and lives for `tokenLifetime`. -/
def ServedToken.Valid (kubectl : String) (args : List String) (g : ServedToken) : Prop :=
  ∃ m, g.mint = some (g.token, m) ∧ m.Prints kubectl args g.token ∧ m.done ≤ g.returnedAt ∧
    g.returnedAt - m.done < tokenRefreshAfter ∧
    ∀ issued, m.start ≤ issued → m.done - m.start ≤ mintTimeout →
      g.returnedAt < issued + tokenLifetime

/-- A mint within its timeout and 80% of the lifetime fit into the lifetime. -/
theorem refresh_before_expiry {start done now issued : ℤ} (hnow : now - done < tokenRefreshAfter)
    (hissued : start ≤ issued) (hmint : done - start ≤ mintTimeout) :
    now < issued + tokenLifetime := by
  have hsum : tokenRefreshAfter + mintTimeout < tokenLifetime := by decide
  omega

section Invariant

variable {kubectl : String} {args : List String}

/-- Between calls: mints still run `kubectl` with `args`; a cached token is what the last successful
one printed, good until 80% of the lifetime after it completed; and every token served so far was
valid. -/
structure HistoryInv (kubectl : String) (args : List String) (s : History) : Prop where
  config : s.provider.kubectl = kubectl ∧ s.provider.mintArgs = args
  cached : s.provider.token ≠ "" → ∃ m, s.lastMint = some (s.provider.token, m) ∧
    m.Prints kubectl args s.provider.token ∧
    s.provider.expiry = m.done + tokenRefreshAfter ∧ m.done ≤ s.clock
  served : ∀ g ∈ s.served, g.Valid kubectl args

theorem HistoryInv.init {p : TokenProvider} (hp : p.token = "") (clock : ℤ) :
    HistoryInv p.kubectl p.mintArgs (History.init p clock) :=
  ⟨⟨rfl, rfl⟩, fun h => absurd hp h, fun _ h => by cases h⟩

/-- A mint runs the same command the next time. -/
theorem mintLocked_config (p : TokenProvider) (m : MintRun) :
    (p.mintLocked m).2.kubectl = p.kubectl ∧ (p.mintLocked m).2.mintArgs = p.mintArgs := by
  rcases p.mintLocked_cases m with ⟨tok, _, hm⟩ | ⟨_, e, hm⟩
  · rw [hm]
    exact ⟨rfl, rfl⟩
  · rw [hm]
    exact ⟨rfl, rfl⟩

/-- A mint keeps what is cached described by the last successful mint. -/
theorem mint_cached {s : History} (hinv : HistoryInv kubectl args s) {m : MintRun}
    (hclock : s.clock ≤ m.done) :
    (s.provider.mintLocked m).2.token ≠ "" → ∃ m',
      mintedAfter s.provider m s.lastMint = some ((s.provider.mintLocked m).2.token, m') ∧
      m'.Prints kubectl args (s.provider.mintLocked m).2.token ∧
      (s.provider.mintLocked m).2.expiry = m'.done + tokenRefreshAfter ∧ m'.done ≤ m.done := by
  intro hne
  obtain ⟨hkubectl, hargs⟩ := hinv.config
  rcases s.provider.mintLocked_cases m with ⟨tok, hprints, hm⟩ | ⟨_, e, hm⟩
  · rw [hkubectl, hargs] at hprints
    rw [hm]
    exact ⟨m, by simp [mintedAfter, hm], hprints, rfl, Int.le_refl _⟩
  · rw [hm] at hne ⊢
    obtain ⟨m', hlast, hprints, hexp, hdone⟩ := hinv.cached hne
    exact ⟨m', by simp [mintedAfter, hm, hlast], hprints, hexp, by omega⟩

/-- A `Get` from the cache: the clock has just been compared with the expiry. -/
theorem HistoryInv.get_cached {s : History} (hinv : HistoryInv kubectl args s) {now : ℤ}
    (m : MintRun) (hnow : s.clock ≤ now) (hcache : s.provider.cached now = true) :
    HistoryInv kubectl args (s.step (.get now m)) := by
  have hget : s.provider.get now m = (.ok s.provider.token, s.provider) := by
    simp [TokenProvider.get, hcache]
  have htest : s.provider.token ≠ "" ∧ now < s.provider.expiry := by
    simpa [TokenProvider.cached] using hcache
  obtain ⟨m', hlast, hprints, hexp, hdone⟩ := hinv.cached htest.1
  have hdone' : m'.done ≤ now := by omega
  have hage : now - m'.done < tokenRefreshAfter := by omega
  simp only [History.step, hcache, if_true, hget, History.serve]
  refine ⟨hinv.config, fun _ => ⟨m', hlast, hprints, hexp, hdone'⟩, fun g hg => ?_⟩
  rcases List.mem_cons.mp hg with rfl | hg
  · exact ⟨m', hlast, hprints, hdone', hage,
      fun issued hi ht => refresh_before_expiry hage hi ht⟩
  · exact hinv.served g hg

/-- A `Get` that mints: what it returns has just been minted. -/
theorem HistoryInv.get_minted {s : History} (hinv : HistoryInv kubectl args s) {now : ℤ}
    {m : MintRun} (hclock : s.clock ≤ m.done) (hcache : s.provider.cached now = false) :
    HistoryInv kubectl args (s.step (.get now m)) := by
  have hget : s.provider.get now m = s.provider.mintLocked m := by
    simp [TokenProvider.get, hcache]
  obtain ⟨hkubectl, hargs⟩ := hinv.config
  obtain ⟨hkubectl', hargs'⟩ := mintLocked_config s.provider m
  simp only [History.step, hcache, hget, Bool.false_eq_true, if_false]
  refine ⟨⟨hkubectl'.trans hkubectl, hargs'.trans hargs⟩, mint_cached hinv hclock, fun g hg => ?_⟩
  rcases s.provider.mintLocked_cases m with ⟨tok, hprints, hm⟩ | ⟨_, e, hm⟩
  · simp only [History.serve, hm] at hg
    rcases List.mem_cons.mp hg with rfl | hg
    · rw [hkubectl, hargs] at hprints
      have hage : m.done - m.done < tokenRefreshAfter := by
        rw [Int.sub_self]
        decide
      exact ⟨m, by simp [mintedAfter, hm], hprints, Int.le_refl _, hage,
        fun issued hi ht => refresh_before_expiry hage hi ht⟩
    · exact hinv.served g hg
  · simp only [History.serve, hm] at hg
    exact hinv.served g hg

/-- **A call keeps the invariant.** -/
theorem history_step_inv (s : History) (c : TokenCall) (hc : ClockOk s c)
    (hinv : HistoryInv kubectl args s) : HistoryInv kubectl args (s.step c) := by
  cases c with
  | forceRefresh m =>
    obtain ⟨h1, h2⟩ := hc
    obtain ⟨hkubectl, hargs⟩ := mintLocked_config s.provider m
    exact ⟨⟨hkubectl.trans hinv.config.1, hargs.trans hinv.config.2⟩,
      mint_cached hinv (by omega), hinv.served⟩
  | get now m =>
    obtain ⟨hnow, hmint⟩ := hc
    cases hcache : s.provider.cached now with
    | true => exact hinv.get_cached m hnow hcache
    | false =>
      obtain ⟨h1, h2⟩ := hmint hcache
      exact hinv.get_minted (by omega) hcache

end Invariant

/-- **Validity of minted tokens**: over every history of calls with a clock that does not go back,
every token a `Get` returned was valid; `ForceRefresh`, and a `Get` past the expiry, fails exactly
when kubectl fails or prints nothing; and a mint that fails, in `Get` or in `ForceRefresh`, leaves
the provider as it was. -/
theorem minted_tokens_valid (sa ns audience : String) (clock : ℤ) (calls : List TokenCall)
    (hclock : Machine.Along ClockOk History.step
      (History.init (TokenProvider.new sa ns audience) clock) calls) :
    let s := Machine.run History.step (History.init (TokenProvider.new sa ns audience) clock) calls
    let args := ["create", "token", sa, "-n", ns, "--audience=" ++ audience, "--duration=1h0m0s"]
    (∀ g ∈ s.served, g.Valid "kubectl" args) ∧
    (∀ now m e, (s.provider.get now m).1 = .error e → (s.provider.get now m).2 = s.provider) ∧
    (∀ m e, (s.provider.forceRefresh m).1 = .error e →
      (s.provider.forceRefresh m).2 = s.provider) ∧
    (∀ now m, (∃ e, (s.provider.get now m).1 = .error e) ↔
      s.provider.cached now = false ∧ ∀ tok, ¬ m.Prints "kubectl" args tok) ∧
    ∀ m, (∃ e, (s.provider.forceRefresh m).1 = .error e) ↔
      ∀ tok, ¬ m.Prints "kubectl" args tok := by
  intro s args
  have hinv : HistoryInv "kubectl" args s :=
    Machine.run_invariant_along history_step_inv calls _ hclock
      (HistoryInv.init (p := TokenProvider.new sa ns audience) rfl clock)
  have hfails : ∀ m, (∃ e, (s.provider.mintLocked m).1 = .error e) ↔
      ∀ tok, ¬ m.Prints "kubectl" args tok := by
    intro m
    rw [s.provider.mintLocked_fails_iff m, hinv.config.1, hinv.config.2]
  refine ⟨hinv.served, fun _ _ _ h => TokenProvider.get_error h,
    fun _ _ h => TokenProvider.mintLocked_error h, fun now m => ?_, hfails⟩
  cases hcache : s.provider.cached now with
  | true => simp [TokenProvider.get, hcache]
  | false => simpa [TokenProvider.get, hcache] using hfails m

/-- Two `Get`s: the first mints, the second, ten minutes later, is served from the cache. -/
theorem minted_tokens_valid_twoGets :
    let mint : MintRun := ⟨0, fun _ _ => .output "tok\n", 2 * second⟩
    let calls : List TokenCall := [.get 0 mint, .get (600 * second) mint]
    let s := Machine.run History.step (History.init (TokenProvider.new "sa" "ns" "aud") 0) calls
    s.served.map (·.token) = ["tok", "tok"] ∧
      ∀ g ∈ s.served, g.Valid "kubectl"
        ["create", "token", "sa", "-n", "ns", "--audience=aud", "--duration=1h0m0s"] := by
  refine ⟨by decide, ?_⟩
  refine (minted_tokens_valid "sa" "ns" "aud" 0 _ ?_).1
  refine ⟨⟨by decide, fun _ => by decide⟩, ⟨by decide, fun h => absurd h (by decide)⟩, trivial⟩

end Substrate
