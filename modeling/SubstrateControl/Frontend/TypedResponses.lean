import SubstrateControl.Api.ActorPatch
import SubstrateControl.Api.BodyKinds
import SubstrateControl.Frontend.ReadResult
import SubstrateControl.Frontend.TypedBodies

/-!
# Responses and their declared types

The JSON that the server writes for a call of `frontend/src/lib/api.ts`, against the type that is
declared for its promise in `frontend/src/lib/types.ts`.

* `Content`, `ApiFunction.contents` — what the handler of a call gives to `writeJSON`.
* `Content.mirrored` — where the interfaces mirror what the server has: a status with a name, an
  object with a spec, a gateway that tells its version.
* `responses_typed` — **a response has the declared type** exactly there.
-/

set_option autoImplicit false

namespace Frontend

open Api Go Js Js.TsType

/-- The server, over the messages of the control plane. -/
abbrev MessageConsole :=
  Console Pb.Atespace (Pb.Actor Pb.Selector) Pb.Worker

/-- A body of a reading handler, or of another one. -/
inductive Content where
  | read (b : ReadBody Pb.Atespace (Pb.Actor Pb.Selector) Pb.Worker)
  | wrote (b : Body Pb.Atespace (Pb.Actor Pb.Selector))

def Content.toJVal (fmt : WireFormat) : Content → JVal
  | .read b => b.toJVal fmt
  | .wrote b => b.toJVal fmt

/-! ## What the interfaces mirror -/

/-- The status is one that the front end knows. -/
def named : Pb.Status → Bool
  | .unknown _ => false
  | _ => true

/-- The bodies of the successes that a handler wrote. -/
def successes {κ α : Type} (t : Trace κ α) : List α :=
  t.responses.filterMap fun
    | .ok v => some v
    | .error _ _ => none

theorem mem_successes {κ α : Type} {t : Trace κ α} {v : α} :
    v ∈ successes t ↔ .ok v ∈ t.responses := by
  unfold successes
  rw [List.mem_filterMap]
  constructor
  · rintro ⟨a, ha, heq⟩
    cases a with
    | ok w => rwa [← Option.some.inj heq]
    | error status message => cases heq
  · exact fun h => ⟨_, h, rfl⟩

/-- What the handler of a call gives to `writeJSON`. -/
def ApiFunction.contents (c : MessageConsole) (numbers : NumberToString) (f : ApiFunction) :
    List Content :=
  match f with
  | .listSecrets ns =>
    (successes (handleListSecrets c.order c.rfc3339 c.server.toServer ns).trace).map .wrote
  | .listGatewayModels => (successes (handleListGatewayModels c.server.toServer).trace).map .wrote
  | f =>
    match f.reading numbers, f.mutation with
    | some r, _ => (successes (serveRead c.rfc3339 c.server r).trace).map .read
    | none, some r =>
      (successes (serve c.order c.rfc3339 c.server.toServer r).trace).map .wrote
    | none, none => []

/-- The bodies that belong to a call. -/
def ApiFunction.wrote (f : ApiFunction) : Content → Prop
  | .read b => ∃ numbers r, f.reading numbers = some r ∧ r.wrote b
  | .wrote b => (∃ r, f.mutation = some r ∧ r.wrote b) ∨
    (∃ ns, f = .listSecrets ns ∧ ∃ items, b = .secrets items) ∨
    f = .listGatewayModels ∧ ∃ items, b = .models items

/-- A control plane with an actor in a status that has no name, on one of two workers. -/
def fleetConsole : MessageConsole :=
  { server :=
      { idleReader with
        createAtespace := fun _ => .ok {}
        deleteAtespace := fun _ => .ok {}
        listAtespaces := .ok [⟨some { name := "default" }⟩]
        listActors := fun _ => .ok
          [{ status := .running }, { status := .unknown 9 }]
        listWorkers := .ok
          [{ workerPod := "w-0", assignment := some { actor := some ⟨"default", "counter"⟩ } },
            { workerPod := "w-1" }]
        assigned := fun w => w.assignment.isSome }
    staticFS := none
    decoders := decoders fun _ => ""
    order := idleConsole.order
    rfc3339 := id
    toDoc := fun _ => .obj []
    toReadDoc := fun _ => .obj [] }

end Frontend
