import SubstrateControl.Frontend.Mutation
import SubstrateControl.Js.Number

/-!
# The dialog that creates atespaces

Model of `CreateAtespaceDialog` (`frontend/src/pages/AtespacesPage.tsx`), which stays mounted while
it is closed.

* `CreateAtespaceDialog` — its state, by the variables of the component.
* `canSubmit`, `handleSubmit` — what a submit leaves, and the name it sends.
-/

set_option autoImplicit false

namespace Frontend

open Js

/-- The state of the component, with its initial values. -/
structure CreateAtespaceDialog where
  name : String := ""
  mutation : Mutation := {}
  deriving DecidableEq, Repr

namespace CreateAtespaceDialog

/-- What `handleSubmit` checks, and the button. -/
def canSubmit (d : CreateAtespaceDialog) : Bool := trim d.name != "" && !d.mutation.isPending

/-- What a submit leaves, and the name it sends. -/
def handleSubmit (d : CreateAtespaceDialog) : CreateAtespaceDialog × Option String :=
  if d.canSubmit then ({ d with mutation := d.mutation.mutate }, some (trim d.name)) else (d, none)

end CreateAtespaceDialog

end Frontend
