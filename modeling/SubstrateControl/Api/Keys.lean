import SubstrateControl.Api.Server
import SubstrateControl.Gateway.Answers

/-!
# Virtual keys

Model of `handleCreateGatewayKey` and `handleDeleteGatewayKey` (`internal/api/server.go`), and of
the `generateKeyRequestJSON` that is read from the bytes of a body.
-/

set_option autoImplicit false

namespace Api

open Go

variable {Atespace Actor : Type}

/-- The field of `generateKeyRequestJSON` a member stands for is set. -/
def setKeyField (req : GenerateKeyRequestJSON) (name : String) (v : JVal) :
    Option GenerateKeyRequestJSON :=
  match matchField ["keyAlias", "duration", "models", "maxBudget"] name with
  | some "keyAlias" => (decodeString req.keyAlias v).map fun keyAlias => { req with keyAlias }
  | some "duration" => (decodeString req.duration v).map fun duration => { req with duration }
  | some "models" => (decodeStrings req.models v).map fun models => { req with models }
  | some "maxBudget" =>
    (Gateway.decodeNumber parseFloat req.maxBudget v).map fun maxBudget => { req with maxBudget }
  | _ => some req

/-- A value as a `generateKeyRequestJSON`. -/
def toGenerateKey : JVal → Option GenerateKeyRequestJSON
  | .null => some {}
  | .obj m => m.foldlM (fun req kv => setKeyField req kv.1 kv.2) {}
  | _ => none

/-- What the decoder finds in a body; `explain` is the text of its error. -/
def generateKeyRequestBody (explain : List UInt8 → String) (b : List UInt8) :
    DecodedBody GenerateKeyRequestJSON :=
  if skipSpace b = [] then .empty
  else
    match (firstValue b).bind toGenerateKey with
    | none => .malformed (explain b)
    | some req => .value req

/-- The request `handleCreateGatewayKey` makes of the gateway. -/
def keyRequest (req : GenerateKeyRequestJSON) : Gateway.GenerateKeyRequest :=
  { keyAlias := req.keyAlias
    duration := req.duration
    models := req.models
    maxBudget := req.maxBudget }

/-- `handleCreateGatewayKey`. -/
def handleCreateGatewayKey (s : Server Atespace Actor) (body : DecodedBody GenerateKeyRequestJSON) :
    Handler Atespace Actor Unit := do
  match decodeBody {} body with
  | .error e => writeError 400 ("invalid JSON body: " ++ e)
  | .ok req =>
    if req.keyAlias = "" then
      writeError 400 "keyAlias is required"
    else
      match ← call (.generateKey (keyRequest req)) (s.generateKey (keyRequest req)) with
      | .error e => writeGatewayError e
      | .ok gen => writeJSON (.generatedKey gen)

/-- `handleDeleteGatewayKey`. -/
def handleDeleteGatewayKey (s : Server Atespace Actor) (key : String) :
    Handler Atespace Actor Unit := do
  match ← call (.deleteKey key) (s.deleteKey key) with
  | .error e => writeGatewayError e
  | .ok _ => writeJSON .deleted

end Api
