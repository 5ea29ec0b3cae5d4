import SubstrateControl.Frontend.K8s
import SubstrateControl.Frontend.Mutation

/-!
# The dialog that creates actors

Model of `CreateActorDialog` (`frontend/src/components/CreateActorDialog.tsx`).

* `CreateActorDialog` — its state, by the variables of the component, and what its queries answered.
* `canSubmit`, `handleSubmit` — what a submit leaves and sends.
-/

set_option autoImplicit false

namespace Frontend

open Js

/-- `WorkerSelector` (`frontend/src/lib/types.ts`), whose labels may be missing or null. -/
structure WorkerSelector where
  matchLabels : Option (Option (List (String × String)))
  deriving DecidableEq, Repr

/-- The object that is written. -/
def WorkerSelector.toValue (s : WorkerSelector) : Value :=
  .object (s.matchLabels.map fun labels =>
    ("matchLabels", (labels.map stringRecord).getD .null)).toList

/-- `CreateActorRequest` (`frontend/src/lib/types.ts`). -/
structure CreateActorRequest where
  atespace : String
  name : String
  actorTemplateNamespace : String
  actorTemplateName : String
  workerSelector : Option WorkerSelector
  deriving DecidableEq, Repr

/-- The object that is written. -/
def CreateActorRequest.toValue (r : CreateActorRequest) : Value :=
  .object
    ([("atespace", .string r.atespace), ("name", .string r.name),
      ("actorTemplateNamespace", .string r.actorTemplateNamespace),
      ("actorTemplateName", .string r.actorTemplateName)] ++
      (r.workerSelector.map fun selector => ("workerSelector", selector.toValue)).toList)

/-- `CUSTOM_ATESPACE` -/
def customAtespaceOption : String := "__custom__"

/-- `MANUAL_TEMPLATE` -/
def manualTemplateOption : String := "__manual__"

/-- The texts between the slashes: `text.split("/")`. -/
def splitSlash (text : String) : List String := (text.toList.splitOn '/').map String.ofList

/-- The state of the component, with its initial values. -/
structure CreateActorDialog where
  /-- The names of `atespacesQuery.data?.atespaces ?? []`. -/
  atespaces : List String := []
  /-- `templatesQuery.isError` -/
  templatesUnavailable : Bool := false
  atespace : String := ""
  customAtespace : String := ""
  name : String := ""
  template : String := ""
  templateNamespace : String := ""
  templateName : String := ""
  labels : List LabelRow := []
  mutation : Mutation := {}
  deriving DecidableEq, Repr

namespace CreateActorDialog

def manualTemplate (d : CreateActorDialog) : Bool :=
  d.templatesUnavailable || d.template == manualTemplateOption

def resolvedAtespace (d : CreateActorDialog) : String :=
  if d.atespaces.length = 0 ∨ d.atespace = customAtespaceOption then trim d.customAtespace
  else d.atespace

def resolvedTemplateNamespace (d : CreateActorDialog) : String :=
  if d.manualTemplate then trim d.templateNamespace else (splitSlash d.template)[0]?.getD ""

def resolvedTemplateName (d : CreateActorDialog) : String :=
  if d.manualTemplate then trim d.templateName else (splitSlash d.template)[1]?.getD ""

def canSubmit (d : CreateActorDialog) : Bool :=
  d.resolvedAtespace != "" && trim d.name != "" && d.resolvedTemplateNamespace != "" &&
    d.resolvedTemplateName != "" && !d.mutation.isPending

def formRequest (d : CreateActorDialog) : CreateActorRequest :=
  let matchLabels := labelRecord d.labels
  { atespace := d.resolvedAtespace
    name := trim d.name
    actorTemplateNamespace := d.resolvedTemplateNamespace
    actorTemplateName := d.resolvedTemplateName
    workerSelector := if matchLabels.length > 0 then some ⟨some (some matchLabels)⟩ else none }

/-- What a submit leaves, and the request it sends. -/
def handleSubmit (d : CreateActorDialog) : CreateActorDialog × Option CreateActorRequest :=
  if d.canSubmit then ({ d with mutation := d.mutation.mutate }, some d.formRequest) else (d, none)

theorem handleSubmit_some {d d' : CreateActorDialog} {req : CreateActorRequest}
    (hsent : d.handleSubmit = (d', some req)) : req = d.formRequest := by
  unfold handleSubmit at hsent
  split at hsent
  · cases hsent
    rfl
  · cases hsent

end CreateActorDialog

end Frontend
