import SubstrateControl.Frontend.K8s
import SubstrateControl.Frontend.Mutation

/-!
# The dialog that creates worker pools

Model of `CreatePoolDialog` (`frontend/src/components/CreatePoolDialog.tsx`).

* `CreatePoolDialog` — its state, by the variables of the component.
* `canSubmit`, `buildFormSpec`, `handleSubmit` — what a submit leaves and sends.
* `handleSubmit_manifest` — a submit of a full manifest.
-/

set_option autoImplicit false

namespace Frontend

open Js

/-- The state of the component, with its initial values. -/
structure CreatePoolDialog where
  mode : FormMode := .form
  ns : String := ""
  name : String := ""
  labels : List LabelRow := []
  replicas : String := "2"
  ateomImage : String := ""
  sandboxClass : String := ""
  sandboxConfigName : String := ""
  requestsCpu : String := ""
  requestsMemory : String := ""
  limitsCpu : String := ""
  limitsMemory : String := ""
  nodeSelector : List LabelRow := []
  yamlText : String := ""
  yamlError : String := ""
  mutation : Mutation := {}
  deriving DecidableEq, Repr

/-- A property that is set where the text is filled in. -/
def filledIn (key text : String) : List (String × String) :=
  if trim text ≠ "" then [(key, trim text)] else []

namespace CreatePoolDialog

def replicaCount (d : CreatePoolDialog) : Number := stringToNumber d.replicas

def replicasValid (d : CreatePoolDialog) : Bool :=
  d.replicaCount.isInteger && d.replicaCount.atLeast 1

def canSubmit (d : CreatePoolDialog) : Bool :=
  !d.mutation.isPending && trim d.ns != "" && trim d.name != "" &&
    (match d.mode with
      | .yaml => trim d.yamlText != ""
      | .form => trim d.ateomImage != "" && d.replicasValid)

/-- `spec.template`. -/
def templateSpec (d : CreatePoolDialog) : List (String × Value) :=
  let requests := filledIn "cpu" d.requestsCpu ++ filledIn "memory" d.requestsMemory
  let limits := filledIn "cpu" d.limitsCpu ++ filledIn "memory" d.limitsMemory
  let nodeSelectorMap := labelRecord d.nodeSelector
  (if requests.length > 0 ∨ limits.length > 0 then
    [("resources", .object
      ((if requests.length > 0 then [("requests", stringRecord requests)] else []) ++
        (if limits.length > 0 then [("limits", stringRecord limits)] else [])))]
  else []) ++
  (if nodeSelectorMap.length > 0 then [("nodeSelector", stringRecord nodeSelectorMap)] else [])

def buildFormSpec (d : CreatePoolDialog) : List (String × Value) :=
  [("ateomImage", .string (trim d.ateomImage)), ("replicas", .number d.replicaCount)] ++
    (filledIn "sandboxClass" d.sandboxClass).map (fun e => (e.1, .string e.2)) ++
    (filledIn "sandboxConfigName" d.sandboxConfigName).map (fun e => (e.1, .string e.2)) ++
    (if d.templateSpec.length > 0 then [("template", .object d.templateSpec)] else [])

/-- The request of the YAML tab. -/
def yamlRequest (yaml : YamlParser) (d : CreatePoolDialog) :
    Except String CreateK8sObjectRequest := do
  let parsed ← specFromYaml yaml d.yamlText
  let names ← resolveNames parsed d.ns d.name
  return { ns := names.1, name := names.2, labels := parsed.labels, spec := parsed.spec }

/-- The request of the form. -/
def formRequest (d : CreatePoolDialog) : CreateK8sObjectRequest :=
  let metadataLabels := labelRecord d.labels
  { ns := trim d.ns
    name := trim d.name
    labels := if metadataLabels.length > 0 then some metadataLabels else none
    spec := .object d.buildFormSpec }

/-- What a submit leaves, and the request it sends. -/
def handleSubmit (yaml : YamlParser) (d : CreatePoolDialog) :
    CreatePoolDialog × Option CreateK8sObjectRequest :=
  if d.canSubmit then
    match d.mode with
    | .yaml =>
      match d.yamlRequest yaml with
      | .ok req => ({ d with mutation := d.mutation.mutate }, some req)
      | .error message => ({ d with yamlError := message }, none)
    | .form => ({ d with mutation := d.mutation.mutate }, some d.formRequest)
  else (d, none)

/-- **A submit of a full manifest** sends it with the labels that are strings. -/
theorem handleSubmit_manifest {yaml : YamlParser} {d : CreatePoolDialog}
    {doc : List (String × Value)} {m : Manifest} (hmode : d.mode = .yaml)
    (hparse : yaml.parse d.yamlText = .ok (.object doc)) (hm : IsManifest doc m)
    (hcan : d.canSubmit = true) :
    d.handleSubmit yaml = ({ d with mutation := d.mutation.mutate }, some
      { ns := m.ns
        name := m.name
        labels := if m.stringLabels.length > 0 then some m.stringLabels else none
        spec := .object m.spec }) := by
  have hrequest : d.yamlRequest yaml = .ok
      { ns := m.ns
        name := m.name
        labels := if m.stringLabels.length > 0 then some m.stringLabels else none
        spec := .object m.spec } := by
    unfold yamlRequest
    simp only [specFromYaml_manifest hparse hm, bind, Except.bind]
    rw [resolveNames_manifest rfl rfl]
    rfl
  rw [handleSubmit, if_pos hcan, hmode, hrequest]

end CreatePoolDialog

end Frontend
