import SubstrateControl.Substrate.Retry

/-!
# What the control plane applies

RPCs through `unauthenticatedRetryInterceptor` (`internal/substrate/token.go`) against a control
plane that changes with the requests it serves.  A retry sends a request again, so it matters how
often one is applied.

* `Plane` — what an authenticated request does, a parameter; `RefusesCleanly`: a request that
  it refuses as unauthenticated changes nothing.
* `Cluster.step` — requests are sent with the metadata of an attempt, arrive late or never, are let
  in or not, and their answers may be lost; meanwhile the control plane changes by itself.
* `cluster_rpcs` — the RPCs of a cluster are those of an `RpcSystem`.
* `OnceInv`, `cluster_step_inv` — where the request of an RPC is, and how often it was applied.
* `applied_once` — over every run no request is applied twice, and one that returned a success was
  applied with just that answer.
-/

set_option autoImplicit false

namespace Substrate

open Kit

variable {σ ε ι ρ Ω Req : Type}

/-- What a request does that is let in, and how it is answered. -/
abbrev Plane (Ω Req ρ : Type) := Ω → Req → Except Status ρ × Ω

/-- A request that is refused as unauthenticated changes nothing. -/
def RefusesCleanly (plane : Plane Ω Req ρ) : Prop :=
  ∀ ω req, statusCode (plane ω req).1 = .unauthenticated → (plane ω req).2 = ω

/-! ## The cluster -/

/-- The request of an attempt between the client and the control plane, or its answer on the way
back. -/
inductive Wire (ρ : Type) where
  | request
  | answer (out : Except Status ρ)
  deriving DecidableEq

/-- A change of the control plane: it applied the request of an RPC, or it changed by itself. -/
inductive Change (ι ρ : Type) where
  | applied (i : ι) (out : Except Status ρ)
  | elsewhere

/-- RPCs over one source and a control plane, with its changes, the newest first. -/
structure Cluster (σ ι ρ Ω : Type) where
  rpcs : RpcSystem σ ι ρ
  plane : Ω
  wire : ι → Option (Wire ρ)
  history : List (Change ι ρ)

inductive ClusterEvent (ε ι Ω : Type) where
  /-- RPC `i` is called -/
  | call (i : ι)
  /-- grpc-go asks for the metadata of `i`'s attempt, and sends the request if it gets any -/
  | metadata (i : ι) (env : ε)
  /-- `i` calls `ForceRefresh` -/
  | refresh (i : ι) (env : ε)
  /-- a lookup outside any RPC -/
  | get (env : ε)
  /-- the request of `i` arrives, and its token is let in or not -/
  | deliver (i : ι) (accepted : Bool)
  /-- the answer to `i` arrives -/
  | answer (i : ι)
  /-- grpc-go gives the attempt of `i` up -/
  | fail (i : ι) (e : Status)
  /-- the control plane changes by itself -/
  | elsewhere (ω : Ω)

namespace Rpc

/-- The newest attempt was given metadata. -/
def carries (r : Rpc ρ) : Bool :=
  match r.attempts with
  | ⟨some (.ok _), _, _⟩ :: _ => true
  | _ => false

/-- The newest attempt got no metadata: `Get` failed. -/
def denied (r : Rpc ρ) : Bool :=
  match r.attempts with
  | ⟨some (.error _), _, _⟩ :: _ => true
  | _ => false

/-- How grpc-go may end an attempt without an answer: as unauthenticated only for want of
metadata. -/
def mayFail (r : Rpc ρ) (e : Status) : Bool := e.code != .unauthenticated || r.denied

end Rpc

/-- What comes of a request that arrives. -/
def Plane.serve (plane : Plane Ω Req ρ) (accepted : Bool) (ω : Ω) (req : Req) :
    Except Status ρ × Ω :=
  if accepted then plane ω req else (.error ⟨.unauthenticated, "invalid bearer token"⟩, ω)

namespace Cluster

variable [TokenSource σ ε] [DecidableEq ι] (plane : Plane Ω Req ρ) (req : ι → Req)

/-- No RPC has been called. -/
def init (p : σ) (ω : Ω) : Cluster σ ι ρ Ω := ⟨RpcSystem.init p, ω, fun _ => none, []⟩

/-- One event; events that do not apply change nothing. -/
def step (s : Cluster σ ι ρ Ω) : ClusterEvent ε ι Ω → Cluster σ ι ρ Ω
  | .call i => { s with rpcs := s.rpcs.step (.call i) }
  | .refresh i env => { s with rpcs := s.rpcs.step (.refresh i env) }
  | .get env => { s with rpcs := s.rpcs.step (.get env) }
  | .metadata i env =>
    let rpcs := s.rpcs.step (.metadata i env)
    { s with
      rpcs := rpcs
      wire := if (s.rpcs.rpcs i).asks && (rpcs.rpcs i).carries
        then Function.update s.wire i (some .request) else s.wire }
  | .deliver i accepted =>
    match s.wire i with
    | some .request =>
      let r := plane.serve accepted s.plane (req i)
      { s with
        plane := r.2
        wire := Function.update s.wire i (some (.answer r.1))
        history := if statusCode r.1 = .unauthenticated then s.history
          else .applied i r.1 :: s.history }
    | _ => s
  | .answer i =>
    match s.wire i with
    | some (.answer out) =>
      { s with rpcs := s.rpcs.step (.outcome i out), wire := Function.update s.wire i none }
    | _ => s
  | .fail i e =>
    if (s.rpcs.rpcs i).mayFail e then { s with rpcs := s.rpcs.step (.outcome i (.error e)) } else s
  | .elsewhere ω => { s with plane := ω, history := .elsewhere :: s.history }

/-- **The RPCs of a cluster are those of an `RpcSystem`.** -/
theorem step_rpcs (s : Cluster σ ι ρ Ω) (e : ClusterEvent ε ι Ω) :
    ∃ es, (s.step plane req e).rpcs = Machine.run RpcSystem.step s.rpcs es := by
  cases e with
  | call i => exact ⟨[.call i], rfl⟩
  | refresh i env => exact ⟨[.refresh i env], rfl⟩
  | get env => exact ⟨[.get env], rfl⟩
  | metadata i env => exact ⟨[.metadata i env], rfl⟩
  | deliver i accepted =>
    refine ⟨[], ?_⟩
    rw [step]
    split <;> rfl
  | answer i =>
    cases hwire : s.wire i with
    | none => exact ⟨[], by simp [step, hwire]⟩
    | some w =>
      cases w with
      | request => exact ⟨[], by simp [step, hwire]⟩
      | answer out => exact ⟨[.outcome i out], by simp [step, hwire]⟩
  | fail i e =>
    rw [step]
    split
    · exact ⟨[.outcome i (.error e)], rfl⟩
    · exact ⟨[], rfl⟩
  | elsewhere ω => exact ⟨[], rfl⟩

/-- The answers of the applications of `i`'s request. -/
def applications (s : Cluster σ ι ρ Ω) (i : ι) : List (Except Status ρ) :=
  s.history.filterMap fun
    | .applied j out => if j = i then some out else none
    | .elsewhere => none

end Cluster

/-! ## One RPC -/

/-- An attempt of the RPC is running. -/
def Rpc.running (r : Rpc ρ) : Prop := r.pc = .first ∨ r.pc = .second

/-- Where the request of an RPC can be, and the answers of its applications so far, by where the RPC
stands: a request that was given up may still arrive. -/
inductive OnceInv (r : Rpc ρ) : Option (Wire ρ) → List (Except Status ρ) → Prop where
  | unsent (hpc : ∀ out, r.pc ≠ .returned out) : OnceInv r none []
  | sent (hrun : r.running) (hcarries : r.carries = true) : OnceInv r (some .request) []
  | applied {out : Except Status ρ} (hrun : r.running) (hcarries : r.carries = true)
    (hcode : statusCode out ≠ .unauthenticated) : OnceInv r (some (.answer out)) [out]
  | refused {out : Except Status ρ} (hrun : r.running) (hcarries : r.carries = true)
    (hcode : statusCode out = .unauthenticated) : OnceInv r (some (.answer out)) []
  | answered {out : Except Status ρ} (hpc : r.pc = .returned out)
    (hcode : statusCode out ≠ .unauthenticated) : OnceInv r none [out]
  | rejected {out : Except Status ρ} (hpc : r.pc = .returned out)
    (hcode : statusCode out = .unauthenticated) : OnceInv r none []
  | failed {e : Status} {w : Option (Wire ρ)} {answers : List (Except Status ρ)}
    (hpc : r.pc = .returned (.error e)) (hcode : e.code ≠ .unauthenticated)
    (hle : answers.length ≤ 1) (hrequest : w = some .request → answers = []) :
    OnceInv r w answers

section

variable {fetches : List Fetch} {r : Rpc ρ} {w : Option (Wire ρ)}
  {answers : List (Except Status ρ)}

/-- The end of an attempt, where one is running. -/
theorem RpcInv.outcome_running (hr : RpcInv fetches r) (hrun : r.running)
    (out : Except Status ρ) :
    (statusCode out = .unauthenticated ∧ (r.outcome out).pc = .rejected out) ∨
      (r.outcome out).pc = .returned out := by
  cases hr with
  | first ha hout =>
    by_cases hcode : statusCode out = .unauthenticated
    · exact .inl ⟨hcode, if_neg (not_not.mpr hcode)⟩
    · exact .inr (if_pos hcode)
  | second => exact .inr rfl
  | _ => rcases hrun with h | h <;> cases h

theorem RpcInv.outcome_not_running (hr : RpcInv fetches r) (hrun : ¬ r.running)
    (out : Except Status ρ) : r.outcome out = r := by
  cases hr with
  | first => exact absurd (.inl rfl) hrun
  | second => exact absurd (.inr rfl) hrun
  | _ => rfl

/-- Only a running attempt asks for metadata, and only once. -/
theorem RpcInv.asks_running (hr : RpcInv fetches r) (hasks : r.asks = true) : r.running := by
  cases hr with
  | idle => cases hasks
  | first => exact .inl rfl
  | second => exact .inr rfl
  | rejected ha hout hcode | final ha hout hcode | refreshFailed ha hout hcode =>
    simp [Rpc.asks, hout] at hasks
  | retried ha hb hout hcode hout' hnew => simp [Rpc.asks, hout'] at hasks

theorem Rpc.carries_asks (hcarries : r.carries = true) : r.asks = false := by
  unfold Rpc.carries at hcarries
  split at hcarries
  · rename_i md origin outcome earlier hattempts
    simp [Rpc.asks, hattempts]
  · cases hcarries

theorem Rpc.carries_denied (hcarries : r.carries = true) : r.denied = false := by
  unfold Rpc.carries at hcarries
  split at hcarries
  · rename_i md origin outcome earlier hattempts
    simp [Rpc.denied, hattempts]
  · cases hcarries

theorem OnceInv.call (h : OnceInv r w answers) : OnceInv r.call w answers := by
  unfold Rpc.call
  split
  · rename_i hidle
    cases h with
    | unsent hpc => exact .unsent nofun
    | sent hrun | applied hrun | refused hrun =>
      rcases hrun with hpc | hpc <;> rw [hidle] at hpc <;> cases hpc
    | answered hpc | rejected hpc | failed hpc =>
      rw [hidle] at hpc
      cases hpc
  · exact h

/-- A lookup: the request is sent if there is metadata. -/
theorem OnceInv.metadata (hr : RpcInv fetches r) (h : OnceInv r w answers)
    (hasks : r.asks = true) (md : Except String Metadata) (origin : Option Fetch) :
    OnceInv (r.metadata md origin)
      (if (r.metadata md origin).carries then some .request else w) answers := by
  have hpc : (r.metadata md origin).pc = r.pc := by
    unfold Rpc.metadata
    split <;> rfl
  have hrun := hr.asks_running hasks
  cases h with
  | unsent hout =>
    split
    · rename_i hcarries
      refine .sent ?_ hcarries
      unfold Rpc.running
      rw [hpc]
      exact hrun
    · refine .unsent ?_
      rw [hpc]
      exact hout
  | sent _ hcarries | applied _ hcarries | refused _ hcarries =>
    rw [Rpc.carries_asks hcarries] at hasks
    cases hasks
  | answered hout | rejected hout | failed hout =>
    rcases hrun with hrun | hrun <;> rw [hout] at hrun <;> cases hrun

/-- `ForceRefresh` after a refusal: what is refused was not applied. -/
theorem OnceInv.refresh (hr : RpcInv fetches r) (h : OnceInv r w answers)
    (hrej : r.rejected = true) (call : ℕ) (result : Except String String) :
    OnceInv (r.refresh call result) w answers := by
  cases hr with
  | @rejected a err ha hout hcode =>
    cases h with
    | unsent hpc =>
      cases result with
      | error e => exact .rejected rfl hcode
      | ok tok => exact .unsent nofun
    | sent hrun | applied hrun | refused hrun => rcases hrun with hpc | hpc <;> cases hpc
    | answered hpc | rejected hpc | failed hpc => cases hpc
  | _ => cases hrej

/-- The request arrives. -/
theorem OnceInv.deliver (h : OnceInv r (some .request) answers) (out : Except Status ρ) :
    OnceInv r (some (.answer out))
      (if statusCode out = .unauthenticated then answers else out :: answers) := by
  split
  · rename_i hcode
    cases h with
    | sent hrun hcarries => exact .refused hrun hcarries hcode
    | failed hpc hfail hle hrequest => exact .failed hpc hfail hle nofun
  · rename_i hcode
    cases h with
    | sent hrun hcarries => exact .applied hrun hcarries hcode
    | failed hpc hfail hle hrequest =>
      rw [hrequest rfl]
      exact .failed hpc hfail (Nat.le_refl 1) nofun

/-- The answer arrives. -/
theorem OnceInv.answer {out : Except Status ρ} (hr : RpcInv fetches r)
    (h : OnceInv r (some (.answer out)) answers) : OnceInv (r.outcome out) none answers := by
  cases h with
  | applied hrun hcarries hcode =>
    rcases hr.outcome_running hrun out with ⟨hunauth, -⟩ | hpc
    · exact absurd hunauth hcode
    · exact .answered hpc hcode
  | refused hrun hcarries hcode =>
    rcases hr.outcome_running hrun out with ⟨-, hpc⟩ | hpc
    · refine .unsent ?_
      rw [hpc]
      exact nofun
    · exact .rejected hpc hcode
  | failed hpc hcode hle hrequest =>
    rw [(hr.over hpc).2.2.1 out]
    exact .failed hpc hcode hle nofun

/-- The attempt is given up: its request may have been applied, or be applied later. -/
theorem OnceInv.fail (hr : RpcInv fetches r) (h : OnceInv r w answers) {e : Status}
    (hfail : r.mayFail e = true) : OnceInv (r.outcome (.error e)) w answers := by
  unfold Rpc.mayFail at hfail
  -- a request that was sent cannot fail for want of metadata
  have hsent : r.running → r.carries = true →
      e.code ≠ .unauthenticated ∧ (r.outcome (.error e)).pc = .returned (.error e) := by
    intro hrun hcarries
    rw [Rpc.carries_denied hcarries, Bool.or_false, bne_iff_ne] at hfail
    rcases hr.outcome_running hrun (.error e) with ⟨hunauth, -⟩ | hpc
    · exact absurd hunauth hfail
    · exact ⟨hfail, hpc⟩
  cases h with
  | unsent hpc =>
    by_cases hrun : r.running
    · rcases hr.outcome_running hrun (.error e) with ⟨-, hout⟩ | hout
      · refine .unsent ?_
        rw [hout]
        exact nofun
      · by_cases hcode : e.code = .unauthenticated
        · exact .rejected hout hcode
        · exact .failed hout hcode (Nat.zero_le 1) nofun
    · rw [hr.outcome_not_running hrun]
      exact .unsent hpc
  | sent hrun hcarries =>
    obtain ⟨hcode, hpc⟩ := hsent hrun hcarries
    exact .failed hpc hcode (Nat.zero_le 1) fun _ => rfl
  | applied hrun hcarries _ =>
    obtain ⟨hcode, hpc⟩ := hsent hrun hcarries
    exact .failed hpc hcode (Nat.le_refl 1) nofun
  | refused hrun hcarries _ =>
    obtain ⟨hcode, hpc⟩ := hsent hrun hcarries
    exact .failed hpc hcode (Nat.zero_le 1) nofun
  | answered hpc hcode =>
    rw [(hr.over hpc).2.2.1]
    exact .answered hpc hcode
  | rejected hpc hcode =>
    rw [(hr.over hpc).2.2.1]
    exact .rejected hpc hcode
  | failed hpc hcode hle hrequest =>
    rw [(hr.over hpc).2.2.1]
    exact .failed hpc hcode hle hrequest

end

/-! ## Runs -/

section Runs

variable [TokenSource σ ε] [DecidableEq ι] {plane : Plane Ω Req ρ} {req : ι → Req}

/-- Every request is where it can be. -/
structure Cluster.Inv (s : Cluster σ ι ρ Ω) : Prop where
  rpcs : RpcSystemInv s.rpcs
  once : ∀ i, OnceInv (s.rpcs.rpcs i) (s.wire i) (s.applications i)

/-- What an event of RPC `i` leaves of the others. -/
structure Cluster.Frame (s s' : Cluster σ ι ρ Ω) (i : ι) : Prop where
  rpcs : ∀ j ≠ i, s'.rpcs.rpcs j = s.rpcs.rpcs j
  wire : ∀ j ≠ i, s'.wire j = s.wire j
  applications : ∀ j ≠ i, s'.applications j = s.applications j

theorem Cluster.Inv.update {s s' : Cluster σ ι ρ Ω} (hinv : s.Inv) (i : ι)
    (hrpcs : RpcSystemInv s'.rpcs) (hframe : s.Frame s' i)
    (hi : OnceInv (s'.rpcs.rpcs i) (s'.wire i) (s'.applications i)) : s'.Inv := by
  refine ⟨hrpcs, fun j => ?_⟩
  by_cases hj : j = i
  · subst hj
    exact hi
  · rw [hframe.rpcs j hj, hframe.wire j hj, hframe.applications j hj]
    exact hinv.once j

/-- An event of RPC `i` is none of the others. -/
theorem RpcSystem.step_other (s : RpcSystem σ ι ρ) {i j : ι} (hj : j ≠ i) :
    (s.step (.call i)).rpcs j = s.rpcs j ∧ (∀ env, (s.step (.metadata i env)).rpcs j = s.rpcs j) ∧
      (∀ env, (s.step (.refresh i env)).rpcs j = s.rpcs j) ∧
      ∀ out, (s.step (.outcome i out)).rpcs j = s.rpcs j := by
  refine ⟨Function.update_of_ne hj _ _, fun env => ?_, fun env => ?_,
    fun out => Function.update_of_ne hj _ _⟩
  · simp only [RpcSystem.step]
    split
    · exact Function.update_of_ne hj _ _
    · rfl
  · simp only [RpcSystem.step]
    split
    · exact Function.update_of_ne hj _ _
    · rfl

theorem Cluster.step_rpcs_inv {s : Cluster σ ι ρ Ω} (hinv : RpcSystemInv s.rpcs)
    (e : ClusterEvent ε ι Ω) : RpcSystemInv (s.step plane req e).rpcs := by
  obtain ⟨es, hes⟩ := s.step_rpcs plane req e
  rw [hes]
  exact Machine.run_invariant rpc_step_inv es _ hinv

/-- **One event keeps every request where it can be.** -/
theorem cluster_step_inv (s : Cluster σ ι ρ Ω) (e : ClusterEvent ε ι Ω) (hinv : s.Inv) :
    (s.step plane req e).Inv := by
  have hrpcs : RpcSystemInv (s.step plane req e).rpcs := Cluster.step_rpcs_inv hinv.rpcs e
  cases e with
  | get env => exact ⟨hrpcs, hinv.once⟩
  | elsewhere ω => exact ⟨hrpcs, hinv.once⟩
  | call i =>
    refine hinv.update i hrpcs ⟨fun j hj => (s.rpcs.step_other hj).1, fun _ _ => rfl,
      fun _ _ => rfl⟩ ?_
    have hcall : (s.rpcs.step (.call i)).rpcs i = (s.rpcs.rpcs i).call := Function.update_self ..
    show OnceInv ((s.rpcs.step (.call i)).rpcs i) _ _
    rw [hcall]
    exact (hinv.once i).call
  | refresh i env =>
    refine hinv.update i hrpcs ⟨fun j hj => (s.rpcs.step_other hj).2.2.1 env, fun _ _ => rfl,
      fun _ _ => rfl⟩ ?_
    show OnceInv ((s.rpcs.step (.refresh i env)).rpcs i) _ _
    by_cases hrej : (s.rpcs.rpcs i).rejected = true
    · simp only [RpcSystem.step, hrej, if_true, Function.update_self]
      exact (hinv.once i).refresh (hinv.rpcs.rpcs i) hrej _ _
    · simp only [RpcSystem.step, hrej]
      exact hinv.once i
  | metadata i env =>
    have hother : ∀ j ≠ i, (s.step plane req (.metadata i env)).wire j = s.wire j := by
      intro j hj
      simp only [Cluster.step]
      split
      · exact Function.update_of_ne hj _ _
      · rfl
    refine hinv.update i hrpcs ⟨fun j hj => (s.rpcs.step_other hj).2.1 env, hother,
      fun _ _ => rfl⟩ ?_
    show OnceInv ((s.rpcs.step (.metadata i env)).rpcs i) _ (s.applications i)
    by_cases hasks : (s.rpcs.rpcs i).asks = true
    · have hgiven : (s.rpcs.step (.metadata i env)).rpcs i = (s.rpcs.rpcs i).metadata
          (getRequestMetadata (s.rpcs.shared.get env).1)
          (s.rpcs.shared.get env).2.fetches.head? := by
        simp only [RpcSystem.step, hasks, if_true, Function.update_self]
      have hwire : (s.step plane req (.metadata i env)).wire i =
          if ((s.rpcs.step (.metadata i env)).rpcs i).carries then some .request else s.wire i := by
        simp only [Cluster.step, hasks, Bool.true_and]
        split
        · exact Function.update_self ..
        · rfl
      rw [hwire, hgiven]
      exact (hinv.once i).metadata (hinv.rpcs.rpcs i) hasks _ _
    · have hwire : (s.step plane req (.metadata i env)).wire = s.wire := by
        simp [Cluster.step, hasks]
      rw [hwire]
      simp only [RpcSystem.step, hasks]
      exact hinv.once i
  | deliver i accepted =>
    cases hwire : s.wire i with
    | none => simpa only [Cluster.step, hwire] using hinv
    | some w =>
      cases w with
      | answer out => simpa only [Cluster.step, hwire] using hinv
      | request =>
        have honce := hinv.once i
        rw [hwire] at honce
        refine hinv.update i hrpcs ⟨?_, ?_, ?_⟩ ?_
        · simp [Cluster.step, hwire]
        · intro j hj
          simp [Cluster.step, hwire, hj]
        · intro j hj
          simp only [Cluster.step, hwire]
          split
          · rfl
          · simp [Cluster.applications, Ne.symm hj]
        · have hserved := honce.deliver (plane.serve accepted s.plane (req i)).1
          simp only [Cluster.step, hwire, Function.update_self]
          split at hserved
          · rename_i hcode
            simp only [hcode, if_true]
            exact hserved
          · rename_i hcode
            simp only [hcode, if_false]
            simpa [Cluster.applications] using hserved
  | answer i =>
    cases hwire : s.wire i with
    | none => simpa only [Cluster.step, hwire] using hinv
    | some w =>
      cases w with
      | request => simpa only [Cluster.step, hwire] using hinv
      | answer out =>
        have honce := hinv.once i
        rw [hwire] at honce
        refine hinv.update i hrpcs ⟨?_, ?_, ?_⟩ ?_
        · intro j hj
          simp only [Cluster.step, hwire]
          exact (s.rpcs.step_other hj).2.2.2 out
        · intro j hj
          simp [Cluster.step, hwire, hj]
        · intro j _
          simp [Cluster.step, hwire, Cluster.applications]
        · have hanswer := honce.answer (hinv.rpcs.rpcs i)
          simpa [Cluster.step, hwire, RpcSystem.step, Cluster.applications] using hanswer
  | fail i e =>
    by_cases hfail : (s.rpcs.rpcs i).mayFail e = true
    · refine hinv.update i hrpcs ⟨?_, ?_, ?_⟩ ?_
      · intro j hj
        simp only [Cluster.step, hfail, if_true]
        exact (s.rpcs.step_other hj).2.2.2 _
      · intro j _
        simp [Cluster.step, hfail]
      · intro j _
        simp [Cluster.step, hfail, Cluster.applications]
      · have hgiven := (hinv.once i).fail (hinv.rpcs.rpcs i) hfail
        simpa [Cluster.step, hfail, RpcSystem.step, Cluster.applications] using hgiven
    · simp only [Cluster.step, hfail]
      exact hinv

/-- The control plane got from `ω₀` to a state by the changes of a history, the newest first: each
application is what a request does there and the answer it gets. -/
inductive Replay (plane : Plane Ω Req ρ) (req : ι → Req) (ω₀ : Ω) :
    List (Change ι ρ) → Ω → Prop where
  | start : Replay plane req ω₀ [] ω₀
  | applied {history : List (Change ι ρ)} {ω : Ω} (i : ι) (h : Replay plane req ω₀ history ω) :
    Replay plane req ω₀ (.applied i (plane ω (req i)).1 :: history) (plane ω (req i)).2
  | elsewhere {history : List (Change ι ρ)} {ω : Ω} (ω' : Ω) (h : Replay plane req ω₀ history ω) :
    Replay plane req ω₀ (.elsewhere :: history) ω'

/-- **The history tells how the control plane got where it is.** -/
theorem replay_step (hclean : RefusesCleanly plane) {ω₀ : Ω} (s : Cluster σ ι ρ Ω)
    (e : ClusterEvent ε ι Ω) (h : Replay plane req ω₀ s.history s.plane) :
    Replay plane req ω₀ (s.step plane req e).history (s.step plane req e).plane := by
  cases e with
  | call i => exact h
  | refresh i env => exact h
  | get env => exact h
  | metadata i env => exact h
  | elsewhere ω => exact .elsewhere ω h
  | answer i =>
    simp only [Cluster.step]
    split <;> exact h
  | fail i e =>
    simp only [Cluster.step]
    split <;> exact h
  | deliver i accepted =>
    simp only [Cluster.step]
    split
    · cases accepted with
      | false => exact h
      | true =>
        by_cases hcode : statusCode (plane s.plane (req i)).1 = .unauthenticated
        · have hsame : (plane s.plane (req i)).2 = s.plane := hclean _ _ hcode
          simp only [Plane.serve, if_true, hcode, hsame]
          exact h
        · simp only [Plane.serve, if_true, hcode, if_false]
          exact .applied i h
    · exact h

/-- How often the request of an RPC was applied, by the answers it was applied with: never twice;
with the answer that is returned if that is a success; never if the RPC is refused as
unauthenticated to the end, or was not called. -/
structure AppliedOnce (r : Rpc ρ) (answers : List (Except Status ρ)) : Prop where
  at_most : answers.length ≤ 1
  succeeded : ∀ v, r.pc = .returned (.ok v) → answers = [.ok v]
  refused : ∀ out, r.pc = .returned out → statusCode out = .unauthenticated → answers = []
  uncalled : r.pc = .idle → answers = []

theorem OnceInv.appliedOnce {r : Rpc ρ} {w : Option (Wire ρ)} {answers : List (Except Status ρ)}
    (h : OnceInv r w answers) : AppliedOnce r answers := by
  have hrunning : r.running → answers.length ≤ 1 → AppliedOnce r answers := by
    intro hrun hle
    have hpc : r.pc ≠ .idle ∧ ∀ out, r.pc ≠ .returned out := by
      rcases hrun with hpc | hpc <;> rw [hpc] <;> exact ⟨nofun, nofun⟩
    exact ⟨hle, fun v hv => absurd hv (hpc.2 _), fun out hout => absurd hout (hpc.2 out),
      fun hidle => absurd hidle hpc.1⟩
  cases h with
  | unsent hpc =>
    exact ⟨Nat.zero_le 1, fun v hv => absurd hv (hpc _), fun _ _ _ => rfl, fun _ => rfl⟩
  | sent hrun => exact hrunning hrun (Nat.zero_le 1)
  | applied hrun => exact hrunning hrun (Nat.le_refl 1)
  | refused hrun => exact hrunning hrun (Nat.zero_le 1)
  | answered hpc hcode =>
    refine ⟨Nat.le_refl 1, fun v hv => ?_, fun out hout hunauth => ?_, fun hidle => ?_⟩
    · rw [hpc] at hv
      rw [RpcPc.returned.inj hv]
    · rw [hpc] at hout
      rw [RpcPc.returned.inj hout] at hcode
      exact absurd hunauth hcode
    · rw [hpc] at hidle
      cases hidle
  | rejected hpc hcode =>
    refine ⟨Nat.zero_le 1, fun v hv => ?_, fun _ _ _ => rfl, fun _ => rfl⟩
    rw [hpc] at hv
    rw [RpcPc.returned.inj hv] at hcode
    cases hcode
  | failed hpc hcode hle =>
    refine ⟨hle, fun v hv => ?_, fun out hout hunauth => ?_, fun hidle => ?_⟩
    · rw [hpc] at hv
      cases hv
    · rw [hpc] at hout
      obtain rfl := RpcPc.returned.inj hout
      exact absurd hunauth hcode
    · rw [hpc] at hidle
      cases hidle

/-- Every run from the source `p` applies each request at most once, whatever the control plane does
with the requests that it lets in, and its state comes from these and its own changes alone. -/
def AppliesOnce (ι : Type) [DecidableEq ι] (plane : Plane Ω Req ρ) (p : σ) : Prop :=
  ∀ (req : ι → Req) (ω₀ : Ω) (events : List (ClusterEvent ε ι Ω)),
    let s := Machine.run (Cluster.step plane req) (Cluster.init p ω₀) events
    Replay plane req ω₀ s.history s.plane ∧
      ∀ i, AppliedOnce (s.rpcs.rpcs i) (s.applications i)

theorem Cluster.Inv.init {p : σ} (hp : TokenSource.token p = "") (ω : Ω) :
    (Cluster.init p ω : Cluster σ ι ρ Ω).Inv :=
  ⟨RpcSystemInv.init hp, fun _ => .unsent nofun⟩

theorem cluster_reachable_inv {p : σ} (hp : TokenSource.token p = "") (ω₀ : Ω)
    (events : List (ClusterEvent ε ι Ω)) :
    (Machine.run (Cluster.step plane req) (Cluster.init p ω₀) events).Inv :=
  Machine.run_invariant cluster_step_inv events _ (.init hp ω₀)

theorem appliesOnce_of_empty (hclean : RefusesCleanly plane) {p : σ}
    (hp : TokenSource.token p = "") : AppliesOnce ι plane p := by
  intro req ω₀ events s
  have hinv : s.Inv := cluster_reachable_inv hp ω₀ events
  refine ⟨?_, fun i => (hinv.once i).appliedOnce⟩
  exact Machine.run_invariant (replay_step hclean) events _ .start

/-- **The retry never applies a request twice**: over a fresh provider of either kind, shared by any
number of RPCs, whose requests and answers may be late or lost. -/
theorem applied_once (hclean : RefusesCleanly plane) (sa ns audience path : String) :
    AppliesOnce ι plane (TokenProvider.new sa ns audience) ∧
      AppliesOnce ι plane (FileTokenProvider.new path) :=
  ⟨appliesOnce_of_empty hclean rfl, appliesOnce_of_empty hclean rfl⟩

/-- The names of the actors that were created. -/
def namesPlane : Plane (List String) String Unit := fun names name =>
  if name ∈ names then (.error ⟨.alreadyExists, "actor already exists"⟩, names)
  else (.ok (), name :: names)

theorem applied_once_names :
    AppliesOnce ℕ namesPlane (TokenProvider.new "ate-api-server" "ate-system" "api") ∧
      AppliesOnce ℕ namesPlane (FileTokenProvider.new "/run/ateapi-token/token") := by
  refine applied_once (fun names name hcode => ?_) _ _ _ _
  unfold namesPlane at hcode ⊢
  split
  · rfl
  · rename_i hnew
    rw [if_neg hnew] at hcode
    cases hcode

/-- The first attempt is refused, its retry is applied and its answer lost; the RPC fails and the
request was applied once. -/
example :
    let mint (tok : String) : MintAnswers := ⟨0, ⟨0, fun _ _ => .output tok, 0⟩⟩
    let events : List (ClusterEvent MintAnswers Unit (List String)) :=
      [.call (), .metadata () (mint "t1"), .deliver () false, .answer (), .refresh () (mint "t2"),
        .metadata () (mint "t3"), .fail () ⟨.deadlineExceeded, "deadline"⟩, .deliver () true,
        .answer ()]
    let s := Machine.run (Cluster.step namesPlane fun _ => "a")
      (Cluster.init (TokenProvider.new "sa" "ns" "aud") []) events
    s.plane = ["a"] ∧ s.applications () = [.ok ()] := by
  decide

end Runs

end Substrate
