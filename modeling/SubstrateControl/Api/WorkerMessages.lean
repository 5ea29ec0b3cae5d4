import SubstrateControl.Api.ActorMessages
import SubstrateControl.Api.NodeMetrics
import SubstrateControl.Api.Reads

/-!
# Workers and atespaces on the wire

The other protobuf messages that are shown, and their JSON (`internal/api/types.go`).

* `Pb.Worker`, `Pb.Atespace`; `workerToJSON`, `atespaceToJSON`.
* `MessageReader` — the clients of the server, whose messages are those of the control plane.
-/

set_option autoImplicit false

namespace Api

/-! ## Messages -/

/-- `pb.Atespace`. -/
structure Pb.Atespace where
  metadata : Option Pb.ResourceMetadata := none
  deriving DecidableEq

/-- `pb.ObjectRef`. -/
structure Pb.ObjectRef where
  atespace : String := ""
  name : String := ""
  deriving DecidableEq

/-- `pb.KubeNamespacedObjectRef`. -/
structure Pb.KubeNamespacedObjectRef where
  ns : String := ""
  name : String := ""
  deriving DecidableEq

/-- `pb.Assignment`. -/
structure Pb.Assignment where
  actorTemplate : Option Pb.KubeNamespacedObjectRef := none
  actor : Option Pb.ObjectRef := none
  deriving DecidableEq

/-- `pb.Worker`; the map may be nil. -/
structure Pb.Worker where
  workerNamespace : String := ""
  workerPool : String := ""
  workerPod : String := ""
  assignment : Option Pb.Assignment := none
  ip : String := ""
  version : Int64 := 0
  workerPodUid : String := ""
  nodeName : String := ""
  sandboxClass : String := ""
  labels : Option (List (String × String)) := none
  deriving DecidableEq

/-! ## Their JSON -/

/-- `atespaceJSON`. -/
structure AtespaceJSON where
  name : String
  uid : String
  version : Int64
  createTime : String
  updateTime : String
  deriving DecidableEq, Repr

/-- `objectRefJSON`. -/
structure ObjectRefJSON where
  atespace : String
  name : String
  deriving DecidableEq, Repr

/-- `nsRefJSON`. -/
structure NsRefJSON where
  ns : String
  name : String
  deriving DecidableEq, Repr

/-- `assignmentJSON`. -/
structure AssignmentJSON where
  actor : Option ObjectRefJSON
  actorTemplate : Option NsRefJSON
  deriving DecidableEq, Repr

/-- `workerJSON`; the map is not nil. -/
structure WorkerJSON where
  workerNamespace : String
  workerPool : String
  workerPod : String
  ip : String
  version : Int64
  workerPodUid : String
  nodeName : String
  sandboxClass : String
  labels : List (String × String)
  assignment : Option AssignmentJSON
  deriving DecidableEq, Repr

/-- `atespaceToJSON`. -/
def atespaceToJSON (rfc3339 : Pb.Timestamp → String) (a : Pb.Atespace) : AtespaceJSON :=
  let md := a.metadata.getD {}
  { name := md.name
    uid := md.uid
    version := md.version
    createTime := formatTime rfc3339 md.createTime
    updateTime := formatTime rfc3339 md.updateTime }

/-- The JSON of an assignment: its references are there, empty where it has none. -/
def assignmentToJSON (a : Pb.Assignment) : AssignmentJSON :=
  let actor := a.actor.getD {}
  let actorTemplate := a.actorTemplate.getD {}
  { actor := some ⟨actor.atespace, actor.name⟩
    actorTemplate := some ⟨actorTemplate.ns, actorTemplate.name⟩ }

/-- `workerToJSON`. -/
def workerToJSON (w : Pb.Worker) : WorkerJSON :=
  { workerNamespace := w.workerNamespace
    workerPool := w.workerPool
    workerPod := w.workerPod
    ip := w.ip
    version := w.version
    workerPodUid := w.workerPodUid
    nodeName := w.nodeName
    sandboxClass := w.sandboxClass
    labels := w.labels.getD []
    assignment := w.assignment.map assignmentToJSON }

/-! ## The clients -/

/-- `Server` with the messages of the control plane, and with its sections of metrics. -/
abbrev MessageReader :=
  Reader Pb.Atespace (Pb.Actor Pb.Selector) Pb.Worker

/-- What is read of the messages. -/
structure MessageReader.Reads (s : MessageReader) : Prop where
  assigned : ∀ w, s.assigned w = w.assignment.isSome
  statusToString : ∀ a, s.statusToString a = Api.statusToString a.status

end Api
