import SubstrateControl.Frontend.K8s
import SubstrateControl.Frontend.Mutation

/-!
# The dialog that creates secrets

Model of `CreateSecretDialog` (`frontend/src/pages/SecretsPage.tsx`).

* `CreateSecretDialog` — its state, by the variables of the component.
* `completeRows`, `canSubmit`, `handleSubmit` — what a submit leaves and sends.
-/

set_option autoImplicit false

namespace Frontend

open Js

/-- `CreateSecretRequest` (`frontend/src/lib/types.ts`). -/
structure CreateSecretRequest where
  ns : String
  name : String
  data : List (String × String)
  deriving DecidableEq, Repr

/-- The object that is written. -/
def CreateSecretRequest.toValue (r : CreateSecretRequest) : Value :=
  .object [("namespace", .string r.ns), ("name", .string r.name), ("data", stringRecord r.data)]

structure DataRow where
  key : String
  value : String
  isShown : Bool
  deriving DecidableEq, Repr

/-- The state of the component, with its initial values. -/
structure CreateSecretDialog where
  ns : String := ""
  name : String := ""
  rows : List DataRow := [⟨"", "", false⟩]
  mutation : Mutation := {}
  deriving DecidableEq, Repr

namespace CreateSecretDialog

def completeRows (d : CreateSecretDialog) : List DataRow :=
  d.rows.filter fun row => trim row.key ≠ "" ∧ row.value ≠ ""

def canSubmit (d : CreateSecretDialog) : Bool :=
  trim d.ns != "" && trim d.name != "" && d.completeRows.length > 0 && !d.mutation.isPending

def formRequest (d : CreateSecretDialog) : CreateSecretRequest :=
  { ns := trim d.ns
    name := trim d.name
    data := fromEntries (d.completeRows.map fun row => (trim row.key, row.value)) }

/-- What a submit leaves, and the request it sends. -/
def handleSubmit (d : CreateSecretDialog) : CreateSecretDialog × Option CreateSecretRequest :=
  if d.canSubmit then ({ d with mutation := d.mutation.mutate }, some d.formRequest) else (d, none)

theorem handleSubmit_some {d d' : CreateSecretDialog} {req : CreateSecretRequest}
    (hsent : d.handleSubmit = (d', some req)) : req = d.formRequest := by
  unfold handleSubmit at hsent
  split at hsent
  · cases hsent
    rfl
  · cases hsent

end CreateSecretDialog

end Frontend
