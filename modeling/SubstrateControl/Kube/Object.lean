import SubstrateControl.Go.Json

/-!
# Kubernetes objects

Objects as `unstructured.Unstructured` holds them, and the parts of `internal/kube/client.go` that
name resources and errors.

* `GroupVersionResource`, `apiVersionOf` — a resource, and how `internal/api/server.go` spells its
  API version.
* `setNestedField`, `getNestedString`, … — the accessors the console uses.
* `KubeError` — an API error and what the `apierrors` predicates say of it.
-/

set_option autoImplicit false

namespace Kube

open Go

/-- `schema.GroupVersionResource`. -/
structure GroupVersionResource where
  group : String
  version : String
  resource : String
  deriving DecidableEq, Repr

/-- `ActorTemplatesGVR`. -/
def actorTemplatesGVR : GroupVersionResource := ⟨"ate.dev", "v1alpha1", "actortemplates"⟩

/-- `WorkerPoolsGVR`. -/
def workerPoolsGVR : GroupVersionResource := ⟨"ate.dev", "v1alpha1", "workerpools"⟩

/-- `apiVersionOf`. -/
def apiVersionOf (gvr : GroupVersionResource) : String :=
  if gvr.group = "" then gvr.version else gvr.group ++ "/" ++ gvr.version

/-- An error of the API server, with the answers of `apierrors.IsAlreadyExists`, `IsNotFound`,
`IsForbidden` and `IsInvalid`. -/
structure KubeError where
  message : String
  isAlreadyExists : Bool := false
  isNotFound : Bool := false
  isForbidden : Bool := false
  isInvalid : Bool := false
  deriving DecidableEq, Repr

/-- `unstructured.Unstructured`. -/
abbrev Unstructured := JObj

/-- The nested map `m[k]`, empty where there is none. -/
def nestedMap (m : JObj) (k : String) : JObj :=
  match m.get k with
  | .obj n => n
  | _ => []

namespace Unstructured

/-- `SetAPIVersion`. -/
def setAPIVersion (u : Unstructured) (version : String) : Unstructured :=
  JObj.set u "apiVersion" (.str version)

/-- `SetKind`. -/
def setKind (u : Unstructured) (kind : String) : Unstructured := JObj.set u "kind" (.str kind)

/-- A field of `metadata` is set. -/
def setMetadata (u : Unstructured) (k : String) (v : JVal) : Unstructured :=
  JObj.set u "metadata" (.obj (JObj.set (nestedMap u "metadata") k v))

/-- A field of `metadata` is removed. -/
def removeMetadata (u : Unstructured) (k : String) : Unstructured :=
  match JObj.get u "metadata" with
  | .obj n => JObj.set u "metadata" (.obj (JObj.erase n k))
  | _ => u

/-- `SetNamespace`. -/
def setNamespace (u : Unstructured) (ns : String) : Unstructured :=
  if ns = "" then u.removeMetadata "namespace"
  else u.setMetadata "namespace" (.str ns)

/-- `SetName`. -/
def setName (u : Unstructured) (name : String) : Unstructured :=
  if name = "" then u.removeMetadata "name" else u.setMetadata "name" (.str name)

/-- `SetLabels`; none is the nil map. -/
def setLabels (u : Unstructured) (labels : Option (List (String × String))) : Unstructured :=
  match labels with
  | none => u.removeMetadata "labels"
  | some labels => u.setMetadata "labels" (.obj (labels.map fun kv => (kv.1, .str kv.2)))

/-- A string of `metadata`, empty where it is missing or no string. -/
def getMetadata (u : Unstructured) (k : String) : String :=
  match JObj.get (nestedMap u "metadata") k with
  | .str s => s
  | _ => ""

/-- `GetNamespace`. -/
def getNamespace (u : Unstructured) : String := u.getMetadata "namespace"

/-- `GetName`. -/
def getName (u : Unstructured) : String := u.getMetadata "name"

/-- `GetUID`. -/
def getUID (u : Unstructured) : String := u.getMetadata "uid"

/-- The text `GetCreationTimestamp` parses. -/
def getCreationTimestamp (u : Unstructured) : String := u.getMetadata "creationTimestamp"

/-- `GetLabels`: none where the field is missing or holds anything but strings. -/
def getLabels (u : Unstructured) : Option (List (String × String)) :=
  match JObj.get (nestedMap u "metadata") "labels" with
  | .obj m => m.mapM fun kv =>
    match kv.2 with
    | .str s => some (kv.1, s)
    | _ => none
  | _ => none

end Unstructured

end Kube
