import SubstrateControl.Frontend.K8s
import SubstrateControl.Frontend.Mutation

/-!
# The dialog that creates templates

Model of `CreateTemplateDialog` (`frontend/src/components/CreateTemplateDialog.tsx`).

* `CreateTemplateDialog` — its state, by the variables of the component.
* `canSubmit`, `buildFormSpec`, `handleSubmit` — what a submit leaves and sends.
* `handleSubmit_manifest` — a submit of a full manifest drops the labels.
* `images_lost` — the console reads no image of a template that its form wrote: `containerImages`
  looks for a pod template, the form writes `spec.containers`.
-/

set_option autoImplicit false

namespace Frontend

open Js

/-- `PINNED_PAUSE_IMAGE` (`frontend/src/lib/presets.ts`). -/
def pinnedPauseImage : String :=
  "registry.k8s.io/pause:3.10.2@sha256:" ++
    "f548e0e8e3dc1896ca956272154dde3314e8cc4fde0a57577ee9fa1c63f5baf4"

inductive SnapshotKind where
  | full
  | data
  deriving DecidableEq, Repr

def SnapshotKind.text : SnapshotKind → String
  | .full => "Full"
  | .data => "Data"

inductive EnvMode where
  | literal
  | secret
  deriving DecidableEq, Repr

/-- `EnvRow` (`frontend/src/lib/presets.ts`). -/
structure EnvRow where
  name : String
  mode : EnvMode
  value : String
  secretName : String
  secretKey : String
  deriving DecidableEq, Repr

structure VolumeRow where
  name : String
  durableDir : Bool
  deriving DecidableEq, Repr

/-- The state of the component, with its initial values. -/
structure CreateTemplateDialog where
  mode : FormMode := .form
  ns : String := ""
  name : String := ""
  pauseImage : String := pinnedPauseImage
  sandboxClass : String := ""
  containerName : String := ""
  containerImage : String := ""
  containerCommand : String := ""
  readyzPath : String := ""
  readyzPort : String := ""
  envRows : List EnvRow := []
  labels : List LabelRow := []
  onPause : SnapshotKind := .full
  onCommit : SnapshotKind := .full
  location : String := ""
  volumes : List VolumeRow := []
  yamlText : String := ""
  yamlError : String := ""
  mutation : Mutation := {}
  deriving DecidableEq, Repr

/-- The pieces of a text between runs of white space; after a separator the rest of its run is
skipped. -/
def splitRuns : (skip : Bool) → List Char → List (List Char)
  | _, [] => [[]]
  | skip, c :: cs =>
    if isWhiteSpace c then
      if skip then splitRuns true cs else [] :: splitRuns true cs
    else
      match splitRuns false cs with
      | [] => [[c]]
      | piece :: pieces => (c :: piece) :: pieces

/-- `text.split(/\\s+/)`. -/
def splitWhiteSpace (text : String) : List String := (splitRuns false text.toList).map String.ofList

namespace CreateTemplateDialog

def containerTouched (d : CreateTemplateDialog) : Bool :=
  trim d.containerName != "" || trim d.containerImage != "" || trim d.containerCommand != "" ||
    trim d.readyzPath != "" || trim d.readyzPort != "" ||
    d.envRows.any fun row => trim row.name != ""

def canSubmit (d : CreateTemplateDialog) : Bool :=
  !d.mutation.isPending && trim d.ns != "" && trim d.name != "" &&
    (match d.mode with
      | .yaml => trim d.yamlText != ""
      | .form => trim d.pauseImage != "" && trim d.location != "" &&
          (!d.containerTouched || (trim d.containerName != "" && trim d.containerImage != "")))

/-- The value of `env` for a row. -/
def envValue (row : EnvRow) : Value :=
  match row.mode with
  | .literal => .object [("name", .string (trim row.name)), ("value", .string row.value)]
  | .secret => .object [("name", .string (trim row.name)), ("valueFrom", .object
      [("secretKeyRef", stringRecord [("name", row.secretName), ("key", row.secretKey)])])]

def env (d : CreateTemplateDialog) : List Value :=
  ((d.envRows.filter fun row => trim row.name ≠ "").filter fun row =>
    row.mode = .literal ∨ row.secretName ≠ "" ∧ row.secretKey ≠ "").map envValue

def container (d : CreateTemplateDialog) : List (String × Value) :=
  [("name", .string (trim d.containerName)), ("image", .string (trim d.containerImage))] ++
    (if trim d.containerCommand ≠ "" then
      [("command", .array ((splitWhiteSpace (trim d.containerCommand)).map .string))] else []) ++
    (if trim d.readyzPath ≠ "" ∧ trim d.readyzPort ≠ "" then
      [("readyz", .object [("httpGet", .object
        [("path", .string (trim d.readyzPath)),
          ("port", .number (stringToNumber (trim d.readyzPort)))])])] else []) ++
    (if d.env.length > 0 then [("env", .array d.env)] else [])

def volumeValue (row : VolumeRow) : Value :=
  if row.durableDir then .object [("name", .string (trim row.name)), ("durableDir", .object [])]
  else .object [("name", .string (trim row.name))]

def buildFormSpec (d : CreateTemplateDialog) : List (String × Value) :=
  let matchLabels := labelRecord d.labels
  let declaredVolumes := d.volumes.filter fun row => trim row.name ≠ ""
  [("pauseImage", .string (trim d.pauseImage)), ("snapshotsConfig", stringRecord
      [("onPause", d.onPause.text), ("onCommit", d.onCommit.text),
        ("location", trim d.location)])] ++
    (if trim d.sandboxClass ≠ "" then [("sandboxClass", .string (trim d.sandboxClass))] else []) ++
    (if d.containerTouched then [("containers", .array [.object d.container])] else []) ++
    (if matchLabels.length > 0 then
      [("workerSelector", .object [("matchLabels", stringRecord matchLabels)])] else []) ++
    (if declaredVolumes.length > 0 then
      [("volumes", .array (declaredVolumes.map volumeValue))] else [])

/-- The request of the YAML tab, without labels. -/
def yamlRequest (yaml : YamlParser) (d : CreateTemplateDialog) :
    Except String CreateK8sObjectRequest := do
  let parsed ← specFromYaml yaml d.yamlText
  let names ← resolveNames parsed d.ns d.name
  return { ns := names.1, name := names.2, labels := none, spec := parsed.spec }

/-- The request of the form. -/
def formRequest (d : CreateTemplateDialog) : CreateK8sObjectRequest :=
  { ns := trim d.ns, name := trim d.name, labels := none, spec := .object d.buildFormSpec }

/-- What a submit leaves, and the request it sends. -/
def handleSubmit (yaml : YamlParser) (d : CreateTemplateDialog) :
    CreateTemplateDialog × Option CreateK8sObjectRequest :=
  if d.canSubmit then
    match d.mode with
    | .yaml =>
      match d.yamlRequest yaml with
      | .ok req => ({ d with mutation := d.mutation.mutate }, some req)
      | .error message => ({ d with yamlError := message }, none)
    | .form => ({ d with mutation := d.mutation.mutate }, some d.formRequest)
  else (d, none)

/-- **A submit of a full manifest** sends it without its labels. -/
theorem handleSubmit_manifest {yaml : YamlParser} {d : CreateTemplateDialog}
    {doc : List (String × Value)} {m : Manifest} (hmode : d.mode = .yaml)
    (hparse : yaml.parse d.yamlText = .ok (.object doc)) (hm : IsManifest doc m)
    (hcan : d.canSubmit = true) :
    d.handleSubmit yaml = ({ d with mutation := d.mutation.mutate }, some
      { ns := m.ns, name := m.name, labels := none, spec := .object m.spec }) := by
  have hrequest : d.yamlRequest yaml = .ok
      { ns := m.ns, name := m.name, labels := none, spec := .object m.spec } := by
    unfold yamlRequest
    simp only [specFromYaml_manifest hparse hm, bind, Except.bind]
    rw [resolveNames_manifest rfl rfl]
    rfl
  rw [handleSubmit, if_pos hcan, hmode, hrequest]

/-! ## The images of a written template -/

theorem lookup_optional {p : Prop} [Decidable p] {key k : String} (v : Value) (h : key ≠ k) :
    (if p then [(k, v)] else []).lookup key = none := by
  split
  · rw [List.lookup_cons, beq_false_of_ne h]
    rfl
  · rfl

theorem lookup_optional_self {p : Prop} [Decidable p] (key : String) (v : Value) :
    (if p then [(key, v)] else []).lookup key = if p then some v else none := by
  split
  · simp
  · rfl

/-- The form writes no pod template. -/
theorem buildFormSpec_template (d : CreateTemplateDialog) :
    d.buildFormSpec.lookup "template" = none := by
  unfold buildFormSpec
  simp only [List.lookup_append]
  rw [lookup_optional _ (by decide), lookup_optional _ (by decide), lookup_optional _ (by decide),
    lookup_optional _ (by decide)]
  rfl

/-- The container stands in `spec.containers`. -/
theorem buildFormSpec_containers {d : CreateTemplateDialog} (h : d.containerTouched = true) :
    d.buildFormSpec.lookup "containers" = some (.array [.object d.container]) := by
  unfold buildFormSpec
  simp only [List.lookup_append]
  rw [lookup_optional _ (by decide), if_pos h]
  rfl

/-- What is sent for a form. -/
theorem handleSubmit_form {yaml : YamlParser} {d d' : CreateTemplateDialog}
    {req : CreateK8sObjectRequest} (hmode : d.mode = .form)
    (hsent : d.handleSubmit yaml = (d', some req)) : req = d.formRequest := by
  unfold handleSubmit at hsent
  rw [hmode] at hsent
  split at hsent
  · cases hsent
    rfl
  · cases hsent

theorem canSubmit_form {d : CreateTemplateDialog} (hmode : d.mode = .form) :
    d.canSubmit = true ↔ d.mutation.isPending = false ∧ trim d.ns ≠ "" ∧ trim d.name ≠ "" ∧
      trim d.pauseImage ≠ "" ∧ trim d.location ≠ "" ∧
      (d.containerTouched = true → trim d.containerName ≠ "" ∧ trim d.containerImage ≠ "") := by
  unfold canSubmit
  rw [hmode]
  simp only [Bool.and_eq_true, Bool.or_eq_true, Bool.not_eq_true', bne_iff_ne, and_assoc,
    ← Bool.not_eq_true d.containerTouched, imp_iff_not_or]

theorem handleSubmit_of_canSubmit {yaml : YamlParser} {d : CreateTemplateDialog}
    (hmode : d.mode = .form) (h : d.canSubmit = true) :
    d.handleSubmit yaml = ({ d with mutation := d.mutation.mutate }, some d.formRequest) := by
  unfold handleSubmit
  rw [if_pos h, hmode]

/-- **The console reads no image of a template that its form wrote**, whatever is filled in. -/
theorem images_lost (yaml : YamlParser) (d d' : CreateTemplateDialog)
    (req : CreateK8sObjectRequest) (created : K8sObject) (hmode : d.mode = .form)
    (hsent : d.handleSubmit yaml = (d', some req))
    (hspec : created.spec = req.toValue.written.prop "spec") :
    containerImages created ≠ [trim d.containerImage] := by
  obtain rfl := handleSubmit_form hmode hsent
  have htemplate : created.spec.bind (·.prop "template") = none := by
    rw [hspec, (toValue_written d.formRequest).2.2.2, Option.bind_some, written_prop]
    show (d.buildFormSpec.lookup "template").map Value.written = none
    rw [buildFormSpec_template]
    rfl
  have hnone : containerImages created = [] := by
    unfold containerImages
    rw [htemplate]
    rfl
  rw [hnone]
  exact (List.cons_ne_nil _ _).symm

/-- A form with a container. -/
def filledForm : CreateTemplateDialog :=
  { ns := "agents", name := "counter", containerName := "agent", containerImage := "agent:1",
    location := "gs://b/" }

/-- Such a form, whatever its environment and its probe are. -/
theorem filledForm_canSubmit (envRows : List EnvRow) (readyzPath readyzPort : String) :
    canSubmit { filledForm with envRows, readyzPath, readyzPort } = true := by
  have hfields : trim filledForm.ns ≠ "" ∧ trim filledForm.name ≠ "" ∧
      trim filledForm.pauseImage ≠ "" ∧ trim filledForm.location ≠ "" ∧
      trim filledForm.containerName ≠ "" ∧ trim filledForm.containerImage ≠ "" := by
    decide +kernel
  obtain ⟨hns, hname, hpause, hlocation, hcontainer⟩ := hfields
  exact (canSubmit_form rfl).mpr ⟨rfl, hns, hname, hpause, hlocation, fun _ => hcontainer⟩

/-- A parser that refuses everything. -/
def noYaml : YamlParser where
  parse _ := .error ""
  parse_blank _ _ _ h := by cases h

theorem filledForm_sent : filledForm.handleSubmit noYaml =
    ({ filledForm with mutation := filledForm.mutation.mutate }, some filledForm.formRequest) :=
  handleSubmit_of_canSubmit rfl (filledForm_canSubmit [] "" "")

theorem images_lost_filledForm :
    containerImages { spec := filledForm.formRequest.toValue.written.prop "spec" } ≠
      [trim filledForm.containerImage] :=
  images_lost noYaml filledForm _ _ _ rfl filledForm_sent rfl

/-- A template with the container image `agent:1` shows no image. -/
theorem images_lost_counterexample :
    ¬ ∀ (yaml : YamlParser) (d d' : CreateTemplateDialog) (req : CreateK8sObjectRequest)
      (created : K8sObject), d.mode = .form → d.handleSubmit yaml = (d', some req) →
      d.containerTouched = true → created.spec = req.toValue.written.prop "spec" →
      containerImages created = [trim d.containerImage] := by
  intro h
  have hread := h noYaml filledForm _ _ ⟨_⟩ rfl filledForm_sent (by decide) rfl
  cases hread

end CreateTemplateDialog

end Frontend
