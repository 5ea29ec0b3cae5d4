import SubstrateControl.Api.Server
import SubstrateControl.Go.Maps

/-!
# Custom resources

Model of `unstructuredToJSON` (`internal/api/types.go`), `handleCreateK8sObject` and
`handleDeleteK8sObject` (`internal/api/server.go`).

* `newObject` — the object that is created; `newObject_eq`: it has what was asked for, and no more.
-/

set_option autoImplicit false

namespace Api

open Go Kube

variable {Atespace Actor : Type}

/-- `u.Object[k].(map[string]any)`. -/
def mapField (u : Unstructured) (k : String) : Option JObj :=
  match JObj.get u k with
  | .obj m => some m
  | _ => none

/-- `unstructuredToJSON`. -/
def unstructuredToJSON (rfc3339 : String → String) (u : Unstructured) : K8sObjectJSON :=
  { ns := u.getNamespace
    name := u.getName
    uid := u.getUID
    creationTimestamp := rfc3339 u.getCreationTimestamp
    labels := u.getLabels
    spec := mapField u "spec"
    status := mapField u "status" }

/-- The object `handleCreateK8sObject` asks for. -/
def newObject (gvr : GroupVersionResource) (kind : String) (req : CreateK8sObjectRequest) :
    Unstructured :=
  let obj : Unstructured := []
  let obj := obj.setAPIVersion (apiVersionOf gvr)
  let obj := obj.setKind kind
  let obj := obj.setNamespace req.ns
  let obj := obj.setName req.name
  let obj := obj.setLabels req.labels
  JObj.set obj "spec" (.obj req.spec)

/-- `handleCreateK8sObject`. -/
def handleCreateK8sObject (rfc3339 : String → String) (s : Server Atespace Actor)
    (gvr : GroupVersionResource) (kind : String) (body : DecodedBody CreateK8sObjectRequest) :
    Handler Atespace Actor Unit := do
  match ← kubeUnavailable s with
  | none => return
  | some kube =>
    match decodeBody {} body with
    | .error e => writeError 400 ("invalid JSON body: " ++ e)
    | .ok req =>
      if req.ns = "" ∨ req.name = "" ∨ req.spec.length = 0 then
        writeError 400 "namespace, name and spec are required"
      else
        match ← call (.createObject gvr (newObject gvr kind req))
            (kube.createObject gvr (newObject gvr kind req)) with
        | .error e => writeKubeError e
        | .ok created => writeJSON (.object (unstructuredToJSON rfc3339 created))

/-- `handleDeleteK8sObject`. -/
def handleDeleteK8sObject (s : Server Atespace Actor) (gvr : GroupVersionResource)
    (ns name : String) : Handler Atespace Actor Unit := do
  match ← kubeUnavailable s with
  | none => return
  | some kube =>
    match ← call (.deleteObject gvr ns name) (kube.deleteObject gvr ns name) with
    | .error e => writeKubeError e
    | .ok _ => writeJSON .deleted

/-- The labels of a request, as they stand in an object. -/
def labelsJSON (labels : List (String × String)) : JVal :=
  .obj (labels.map fun kv => (kv.1, .str kv.2))

/-- **The object that is created** has the requested namespace, name, labels and spec, the version
and kind of the endpoint, and nothing else. -/
theorem newObject_eq (gvr : GroupVersionResource) (kind : String) {req : CreateK8sObjectRequest}
    (hns : req.ns ≠ "") (hname : req.name ≠ "") :
    newObject gvr kind req =
      [("apiVersion", .str (apiVersionOf gvr)), ("kind", .str kind),
        ("metadata", .obj ([("namespace", .str req.ns), ("name", .str req.name)] ++
          req.labels.toList.map fun labels => ("labels", labelsJSON labels))),
        ("spec", .obj req.spec)] := by
  unfold newObject Unstructured.setNamespace Unstructured.setName
  simp only [if_neg hns, if_neg hname]
  cases req.labels with
  | none => rfl
  | some labels => rfl

end Api
