import SubstrateControl.Api.Proxy
import SubstrateControl.Gateway.Client
import SubstrateControl.Kube.Object
import SubstrateControl.Substrate.Client

/-!
# Handlers

A handler of `internal/api/server.go` runs with a `http.ResponseWriter` and calls its clients.

* `Trace` — the client calls a handler has made, with what became of them, and the responses it
  has written, in order.
* `HandlerM` — a handler, as a program over its trace; `writeJSON`, `writeError` and `call` are its
  effects.
* `writeGRPCError`, `writeKubeError`, `writeGatewayError` — the error mappings.
* `call_trace` — what a handler does that ends with a call and writes what came of it.
* `Responds` — a handler writes one response, whatever has been written before.
-/

set_option autoImplicit false

namespace Api

variable {κ α : Type}

/-- A client call that was made, and whether it returned without an error. -/
structure Made (κ : Type) where
  call : κ
  succeeded : Bool
  deriving DecidableEq, Repr

/-- What a handler has done. -/
structure Trace (κ α : Type) where
  calls : List (Made κ) := []
  responses : List (Answer α) := []

/-- A handler, or a part of one. -/
abbrev HandlerM (κ α : Type) := StateM (Trace κ α)

/-- What a handler does. -/
def HandlerM.trace (h : HandlerM κ α Unit) : Trace κ α := (StateT.run h {}).2

/-- `writeJSON` with status 200. -/
def writeJSON (v : α) : HandlerM κ α Unit :=
  modify fun t => { t with responses := t.responses ++ [.ok v] }

/-- `writeError`. -/
def writeError (status : ℕ) (message : String) : HandlerM κ α Unit :=
  modify fun t => { t with responses := t.responses ++ [.error status message] }

/-- A client call that returns `result`. -/
def call {ε ρ : Type} (c : κ) (result : Except ε ρ) : HandlerM κ α (Except ε ρ) := do
  modify fun t => { t with calls := t.calls ++ [⟨c, result.isOk⟩] }
  return result

/-! ## Error mappings -/

/-- An error of a substrate client method: with a gRPC status or without. -/
inductive GRPCError where
  | status (s : Substrate.Status)
  | plain (message : String)
  deriving DecidableEq, Repr

/-- `writeGRPCError`. -/
def writeGRPCError : GRPCError → HandlerM κ α Unit
  | .plain message => writeError 500 message
  | .status st =>
    let code :=
      match st.code with
      | .notFound => 404
      | .failedPrecondition => 412
      | .invalidArgument => 400
      | .alreadyExists => 409
      | _ => 500
    writeError code st.message

/-- `writeKubeError`. -/
def writeKubeError (e : Kube.KubeError) : HandlerM κ α Unit :=
  if e.isAlreadyExists then writeError 409 e.message
  else if e.isNotFound then writeError 404 e.message
  else if e.isForbidden then writeError 403 e.message
  else if e.isInvalid then writeError 422 e.message
  else writeError 500 e.message

/-- `writeGatewayError`. -/
def writeGatewayError : Gateway.Err → HandlerM κ α Unit
  | .classified ⟨.notConfigured, _⟩ => writeError 503 "litellm gateway not configured"
  | .classified ⟨.unreachable, message⟩ => writeError 503 ("litellm gateway unreachable: " ++ message)
  | .classified ⟨.upstream, message⟩ => writeError 502 message
  | .plain message => writeError 500 message

/-- An error mapping writes one error, with a status of at least 400. -/
def WritesError {ε : Type} (onError : ε → HandlerM κ α Unit) : Prop :=
  ∀ e, ∃ status message, 400 ≤ status ∧ onError e = writeError status message

theorem writeGRPCError_writesError :
    WritesError (writeGRPCError : GRPCError → HandlerM κ α Unit) := by
  intro e
  cases e with
  | plain message => exact ⟨500, message, by omega, rfl⟩
  | status st =>
    unfold writeGRPCError
    refine ⟨_, st.message, ?_, rfl⟩
    split <;> omega

theorem writeKubeError_writesError :
    WritesError (writeKubeError : Kube.KubeError → HandlerM κ α Unit) := by
  intro e
  unfold writeKubeError
  repeat' split
  · exact ⟨409, e.message, by omega, rfl⟩
  · exact ⟨404, e.message, by omega, rfl⟩
  · exact ⟨403, e.message, by omega, rfl⟩
  · exact ⟨422, e.message, by omega, rfl⟩
  · exact ⟨500, e.message, by omega, rfl⟩

theorem writeGatewayError_writesError :
    WritesError (writeGatewayError : Gateway.Err → HandlerM κ α Unit) := by
  intro e
  unfold writeGatewayError
  split
  · exact ⟨503, _, by omega, rfl⟩
  · exact ⟨503, _, by omega, rfl⟩
  · exact ⟨502, _, by omega, rfl⟩
  · exact ⟨500, _, by omega, rfl⟩

/-! ## A call and what is written of it -/

theorem not_ok_writeError {status : ℕ} {message : String} {v : α} :
    .ok v ∉ (writeError status message : HandlerM κ α Unit).trace.responses := by
  have htrace : (writeError status message : HandlerM κ α Unit).trace.responses =
      [.error status message] := rfl
  rw [htrace]
  simp

section Calls

variable {ε ρ : Type} {c : κ} {result : Except ε ρ} {k : Except ε ρ → HandlerM κ α Unit}

/-- **What a handler does with its last call**: it writes a success or an error, once. -/
theorem call_trace {onOk : ρ → α} (hok : ∀ r, k (.ok r) = writeJSON (onOk r))
    (herror : WritesError fun e => k (.error e)) :
    (∃ r, result = .ok r ∧
      HandlerM.trace (call c result >>= k) = ⟨[⟨c, true⟩], [.ok (onOk r)]⟩) ∨
    (∃ e status message, result = .error e ∧ 400 ≤ status ∧
      HandlerM.trace (call c result >>= k) = ⟨[⟨c, false⟩], [.error status message]⟩) := by
  have hrun : HandlerM.trace (call c result >>= k) =
      (StateT.run (k result) ⟨[⟨c, result.isOk⟩], []⟩).2 := rfl
  rw [hrun]
  cases result with
  | ok r =>
    rw [hok r]
    exact .inl ⟨r, rfl, rfl⟩
  | error e =>
    obtain ⟨status, message, hstatus, hwrite⟩ := herror e
    have hwrite : k (.error e) = writeError status message := hwrite
    rw [hwrite]
    exact .inr ⟨e, status, message, rfl, hstatus, rfl⟩

/-- No other call is made. -/
theorem call_calls {onOk : ρ → α} (hok : ∀ r, k (.ok r) = writeJSON (onOk r))
    (herror : WritesError fun e => k (.error e)) :
    (HandlerM.trace (call c result >>= k)).calls = [⟨c, result.isOk⟩] := by
  rcases call_trace hok herror with
    ⟨r, hresult, htrace⟩ | ⟨e, status, message, hresult, -, htrace⟩
  · rw [htrace, hresult]
    rfl
  · rw [htrace, hresult]
    rfl

/-- A success is only written when the call succeeded. -/
theorem call_ok {onOk : ρ → α} {v : α}
    (h : .ok v ∈ (HandlerM.trace (call c result >>= k)).responses)
    (hok : ∀ r, k (.ok r) = writeJSON (onOk r)) (herror : WritesError fun e => k (.error e)) :
    ∃ r, result = .ok r ∧ v = onOk r := by
  rcases call_trace hok herror with ⟨r, hresult, htrace⟩ | ⟨e, status, message, -, -, htrace⟩
  · rw [htrace] at h
    exact ⟨r, hresult, by simpa using h⟩
  · rw [htrace] at h
    simp at h

theorem call_made {onOk : ρ → α} {made : Made κ}
    (h : made ∈ (HandlerM.trace (call c result >>= k)).calls)
    (hok : ∀ r, k (.ok r) = writeJSON (onOk r)) (herror : WritesError fun e => k (.error e)) :
    made.call = c := by
  rw [call_calls hok herror, List.mem_singleton] at h
  rw [h]

end Calls

/-! ## One response -/

section Responds

variable {ε ρ : Type}

/-- A handler writes one response, behind what was written before. -/
def Responds (h : HandlerM κ α Unit) : Prop :=
  ∀ t, ∃ a, (StateT.run h t).2.responses = t.responses ++ [a]

theorem responds_writeJSON (v : α) : Responds (writeJSON v : HandlerM κ α Unit) :=
  fun _ => ⟨.ok v, rfl⟩

theorem responds_writeError (status : ℕ) (message : String) :
    Responds (writeError status message : HandlerM κ α Unit) :=
  fun _ => ⟨.error status message, rfl⟩

theorem WritesError.responds {onError : ε → HandlerM κ α Unit} (h : WritesError onError) (e : ε) :
    Responds (onError e) := by
  obtain ⟨status, message, -, hwrite⟩ := h e
  rw [hwrite]
  exact responds_writeError status message

/-- A call writes nothing. -/
theorem responds_call {c : κ} {result : Except ε ρ} {k : Except ε ρ → HandlerM κ α Unit}
    (h : Responds (k result)) : Responds (call c result >>= k) := fun t =>
  h { t with calls := t.calls ++ [⟨c, result.isOk⟩] }

theorem Responds.length_trace {h : HandlerM κ α Unit} (hresponds : Responds h) :
    h.trace.responses.length = 1 := by
  obtain ⟨a, ha⟩ := hresponds {}
  unfold HandlerM.trace
  rw [ha]
  rfl

/-- A call whose error is mapped. -/
theorem responds_result {c : κ} {result : Except ε ρ} {k : Except ε ρ → HandlerM κ α Unit}
    (herror : WritesError fun e => k (.error e)) (hok : ∀ r, Responds (k (.ok r))) :
    Responds (call c result >>= k) := by
  apply responds_call
  cases result with
  | error e => exact herror.responds e
  | ok r => exact hok r

end Responds

theorem writesError_of_status {ε : Type} {status : ℕ} (hstatus : 400 ≤ status)
    (message : ε → String) :
    WritesError fun e => (writeError status (message e) : HandlerM κ α Unit) :=
  fun e => ⟨status, message e, hstatus, rfl⟩

end Api
