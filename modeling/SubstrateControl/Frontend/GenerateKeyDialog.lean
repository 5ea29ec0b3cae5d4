import SubstrateControl.Frontend.Mutation
import SubstrateControl.Js.Stringify
import SubstrateControl.Kit.Machine

/-!
# The dialog that generates keys

Model of `GenerateKeyDialog` (`frontend/src/components/GenerateKeyDialog.tsx`), which stays mounted
while it is closed.

* `GenerateKeyDialog` — its state, by the variables of the component.
* `canGenerate`, `handleGenerate` — the request that a submit sends.
* `DialogEvent`, `step` — what the user does, and the responses that arrive.
* `OneRequest` — no two requests are in flight at a time, so that no key replaces another;
  `oneRequest_step`: every event keeps it so.
-/

set_option autoImplicit false

namespace Frontend

open Js Kit

/-- `GenerateKeyRequest` (`frontend/src/lib/types.ts`). -/
structure GenerateKeyRequest where
  keyAlias : String
  duration : Option String
  models : Option (List String)
  maxBudget : Option Number

/-- The object that is written. -/
def GenerateKeyRequest.toValue (r : GenerateKeyRequest) : Value :=
  .object
    ([("keyAlias", .string r.keyAlias)] ++
      (r.duration.map fun d => ("duration", Value.string d)).toList ++
      (r.models.map fun models => ("models", Value.array (models.map .string))).toList ++
      (r.maxBudget.map fun b => ("maxBudget", Value.number b)).toList)

/-- `GeneratedKey`, as far as it is read. -/
structure GeneratedKey where
  key : String
  keyAlias : String
  deriving DecidableEq, Repr

/-- `NO_EXPIRY`. -/
def noExpiry : String := "none"

/-- The state of the component, with its initial values. -/
structure GenerateKeyDialog where
  isOpen : Bool := false
  keyAlias : String := ""
  duration : String := noExpiry
  models : String := ""
  maxBudget : String := ""
  generated : Option GeneratedKey := none
  copied : Bool := false
  secretNamespace : String := "default"
  secretName : String := ""
  secretDataKey : String := "api-key"
  secretSaved : Bool := false
  generateMutation : Mutation := {}
  deriving DecidableEq, Repr

namespace GenerateKeyDialog

/-- What `useEffect` does when the dialog opens (by a click, so that it runs before the dialog is
painted); the mutation keeps its state. -/
def reset (d : GenerateKeyDialog) : GenerateKeyDialog :=
  { isOpen := d.isOpen, generateMutation := d.generateMutation }

def canGenerate (d : GenerateKeyDialog) : Bool :=
  trim d.keyAlias != "" && !d.generateMutation.isPending && d.generated.isNone

/-- The texts between the commas. -/
def splitComma (s : String) : List String := (s.toList.splitOn ',').map String.ofList

/-- The budget of the request: none where the text is blank, not a number or not positive. -/
def budget (maxBudget : String) : Option Number :=
  let parsedBudget := stringToNumber maxBudget
  if trim maxBudget != "" && !parsedBudget.isNaN && parsedBudget.positive then some parsedBudget
  else none

/-- `handleGenerate`: the request of a submit, where there is one. -/
def handleGenerate (d : GenerateKeyDialog) : Option GenerateKeyRequest :=
  if d.canGenerate then
    some
      { keyAlias := trim d.keyAlias
        duration := if d.duration ≠ noExpiry then some d.duration else none
        models := some (((splitComma d.models).map trim).filter (· ≠ ""))
        maxBudget := budget d.maxBudget }
  else none

end GenerateKeyDialog

/-! ## Events -/

/-- What happens to the dialog. -/
inductive DialogEvent where
  | openDialog
  | closeDialog
  /-- The fields of the form are edited. -/
  | edit (keyAlias duration models maxBudget : String)
  | submit
  /-- A request is answered with a key. -/
  | succeed (id : ℕ) (key : GeneratedKey)
  /-- A request is answered with an error, which is shown as a toast. -/
  | fail (id : ℕ)
  deriving DecidableEq, Repr

namespace GenerateKeyDialog

/-- Content is rendered in an open dialog only: the form until there is a key, then the key. -/
def formShown (d : GenerateKeyDialog) : Bool := d.isOpen && d.generated.isNone

def keyShown (d : GenerateKeyDialog) : Bool := d.isOpen && d.generated.isSome

def step (d : GenerateKeyDialog) : DialogEvent → GenerateKeyDialog
  | .openDialog => if d.isOpen then d else { d.reset with isOpen := true }
  | .closeDialog => { d with isOpen := false }
  | .edit keyAlias duration models maxBudget =>
    if d.formShown then { d with keyAlias, duration, models, maxBudget } else d
  | .submit =>
    if d.formShown && d.handleGenerate.isSome then
      { d with generateMutation := d.generateMutation.mutate }
    else d
  | .succeed id key =>
    if id ∈ d.generateMutation.inFlight then
      { d with
        generated := some key
        secretName := "litellm-key-" ++ key.keyAlias
        generateMutation := d.generateMutation.settle id }
    else d
  | .fail id => { d with generateMutation := d.generateMutation.settle id }

/-- At most one request is in flight, and a key that arrives finds no other. -/
def OneRequest (d : GenerateKeyDialog) : Prop :=
  d.generateMutation.inFlight = [] ∨
    (d.generateMutation.inFlight = [d.generateMutation.calls] ∧ d.generated = none)

theorem oneRequest_step (d : GenerateKeyDialog) (e : DialogEvent) (h : d.OneRequest) :
    (d.step e).OneRequest := by
  cases e with
  | openDialog =>
    simp only [step]
    split
    · exact h
    · exact h.imp id fun h => ⟨h.1, rfl⟩
  | closeDialog => exact h
  | edit keyAlias duration models maxBudget =>
    simp only [step]
    split
    · exact h
    · exact h
  | submit =>
    simp only [step]
    split
    · rename_i hsend
      simp only [Bool.and_eq_true, handleGenerate, canGenerate] at hsend
      obtain ⟨-, hsend⟩ := hsend
      split at hsend
      · rename_i hcan
        simp only [Bool.not_eq_true', Option.isNone_iff_eq_none] at hcan
        obtain ⟨⟨-, hidle⟩, hnone⟩ := hcan
        rcases h with h | ⟨h, -⟩
        · exact .inr ⟨by simp [h], hnone⟩
        · simp [Mutation.isPending, h] at hidle
      · cases hsend
    · exact h
  | succeed id key =>
    simp only [step]
    split
    · rename_i hin
      left
      rcases h with h | ⟨h, -⟩
      · simp [h] at hin
      · rw [h, List.mem_singleton] at hin
        simp [h, hin]
    · exact h
  | fail id =>
    rcases h with h | ⟨h, hnone⟩
    · left
      simp [step, h]
    · by_cases hid : d.generateMutation.calls = id
      · left
        simp [step, h, hid]
      · right
        simp [step, h, hid, hnone]

end GenerateKeyDialog

end Frontend
