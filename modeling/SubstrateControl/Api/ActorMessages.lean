import SubstrateControl.Api.Server
import SubstrateControl.Go.Decode

/-!
# Actors on the wire

The protobuf messages of an actor, their JSON (`internal/api/types.go`), and the
`updateActorRequest` that is read from the bytes of a body.

* `Pb.Selector`, `SelectorJSON` — with a map that may be nil; on the wire (`Selector`) a nil map and
  an empty one are the same.
* `selectorToJSON_unmarshal` — the JSON of a message has its entries in a map that is not nil.
* `updateActorRequestBody` — what the decoder finds in a body.
* `said`, `Silent` — the selector a body carries, and a body that carries none.
* `said_of_carries` — of a body that says each thing once, it is the selector that stands there.
-/

set_option autoImplicit false

namespace Api

open Go

/-! ## Selectors -/

/-- `pb.Selector`; the map may be nil. -/
structure Pb.Selector where
  matchLabels : Option (List (String × String)) := none
  deriving DecidableEq, Repr

/-- `selectorJSON`; the map may be nil. -/
structure SelectorJSON where
  matchLabels : Option (List (String × String)) := none
  deriving DecidableEq, Repr

/-- `selectorToJSON`. -/
def selectorToJSON : Option Pb.Selector → Option SelectorJSON
  | none => none
  | some s =>
    let labels :=
      match s.matchLabels with
      | none => []
      | some labels => labels
    some { matchLabels := some labels }

/-- `selectorFromJSON`. -/
def selectorFromJSON : Option SelectorJSON → Option Pb.Selector
  | none => none
  | some s => some { matchLabels := s.matchLabels }

/-- The message a selector is written as, which has the entries of its map. -/
def Pb.Selector.marshal (s : Pb.Selector) : Api.Selector := ⟨s.matchLabels.getD []⟩

/-- The selector a message is read as: without entries no map is made. -/
def Pb.Selector.unmarshal (s : Api.Selector) : Pb.Selector :=
  ⟨if s.matchLabels = [] then none else some s.matchLabels⟩

/-- **The JSON of a message** has its entries in a map that is not nil. -/
theorem selectorToJSON_unmarshal (s : Option Selector) :
    selectorToJSON (s.map Pb.Selector.unmarshal) = s.map fun s => ⟨some s.matchLabels⟩ := by
  cases s with
  | none => rfl
  | some s =>
    obtain ⟨labels⟩ := s
    cases labels with
    | nil => rfl
    | cons kv labels => rfl

/-- The selector that is sent for one in a request. -/
def sentSelector (s : Option SelectorJSON) : Option Selector :=
  (selectorFromJSON s).map Pb.Selector.marshal

theorem sentSelector_some (s : SelectorJSON) :
    sentSelector (some s) = some ⟨s.matchLabels.getD []⟩ := rfl

/-! ## Actors -/

/-- `timestamppb.Timestamp`. -/
structure Pb.Timestamp where
  seconds : Int64
  nanos : Int32
  deriving DecidableEq

/-- `pb.ResourceMetadata`. -/
structure Pb.ResourceMetadata where
  atespace : String := ""
  name : String := ""
  uid : String := ""
  version : Int64 := 0
  createTime : Option Pb.Timestamp := none
  updateTime : Option Pb.Timestamp := none
  deriving DecidableEq

/-- `pb.SnapshotInfo`, by the message that is set. -/
inductive Pb.SnapshotInfo where
  | unset
  | external (snapshotUriPrefix : String)
  | localVMs (snapshotPrefix : String) (nodeVmsWithLocalSnapshots : List String)
  deriving DecidableEq

/-- `pb.Actor_Status`, which may be a number without a name. -/
inductive Pb.Status where
  | unspecified
  | resuming
  | running
  | suspending
  | suspended
  | pausing
  | paused
  | crashed
  | unknown (number : Int32)
  deriving DecidableEq

/-- `pb.Actor`, with the fields that are shown; `σ` is what its selector is. -/
structure Pb.Actor (σ : Type) where
  metadata : Option Pb.ResourceMetadata := none
  actorTemplateNamespace : String := ""
  actorTemplateName : String := ""
  status : Pb.Status := .unspecified
  ateomPodNamespace : String := ""
  ateomPodName : String := ""
  ateomPodIp : String := ""
  latestSnapshotInfo : Option Pb.SnapshotInfo := none
  workerSelector : Option σ := none
  workerPoolName : String := ""
  deriving DecidableEq

/-- The actor a message is read as. -/
def Pb.Actor.unmarshal (a : Pb.Actor Api.Selector) : Pb.Actor Pb.Selector :=
  { metadata := a.metadata
    actorTemplateNamespace := a.actorTemplateNamespace
    actorTemplateName := a.actorTemplateName
    status := a.status
    ateomPodNamespace := a.ateomPodNamespace
    ateomPodName := a.ateomPodName
    ateomPodIp := a.ateomPodIp
    latestSnapshotInfo := a.latestSnapshotInfo
    workerSelector := a.workerSelector.map Pb.Selector.unmarshal
    workerPoolName := a.workerPoolName }

/-- `snapshotInfoJSON`. -/
structure SnapshotInfoJSON where
  type : String
  snapshotUriPrefix : String := ""
  snapshotPrefix : String := ""
  nodeVmsWithLocalSnapshots : List String := []
  deriving DecidableEq, Repr

/-- `actorJSON`. -/
structure ActorJSON where
  atespace : String
  name : String
  uid : String
  version : Int64
  createTime : String
  updateTime : String
  actorTemplateNamespace : String
  actorTemplateName : String
  status : String
  ateomPodNamespace : String
  ateomPodName : String
  ateomPodIP : String
  workerPoolName : String
  workerSelector : Option SelectorJSON
  snapshotInfo : Option SnapshotInfoJSON
  deriving DecidableEq, Repr

/-- `formatTime`; `rfc3339` formats a time in UTC. -/
def formatTime (rfc3339 : Pb.Timestamp → String) : Option Pb.Timestamp → String
  | none => ""
  | some t => rfc3339 t

/-- `Actor_Status.String`. -/
def Pb.Status.string : Pb.Status → String
  | .unspecified => "STATUS_UNSPECIFIED"
  | .resuming => "STATUS_RESUMING"
  | .running => "STATUS_RUNNING"
  | .suspending => "STATUS_SUSPENDING"
  | .suspended => "STATUS_SUSPENDED"
  | .pausing => "STATUS_PAUSING"
  | .paused => "STATUS_PAUSED"
  | .crashed => "STATUS_CRASHED"
  | .unknown number => toString number.toInt

/-- `statusToString`. -/
def statusToString (s : Pb.Status) : String := trimPrefix s.string "STATUS_"

/-- `snapshotInfoToJSON`. -/
def snapshotInfoToJSON : Option Pb.SnapshotInfo → Option SnapshotInfoJSON
  | none => none
  | some (.external snapshotUriPrefix) => some { type := "external", snapshotUriPrefix }
  | some (.localVMs snapshotPrefix nodeVms) =>
    some { type := "local", snapshotPrefix, nodeVmsWithLocalSnapshots := nodeVms }
  | some .unset => none

/-- `actorToJSON`. -/
def actorToJSON (rfc3339 : Pb.Timestamp → String) (a : Pb.Actor Pb.Selector) : ActorJSON :=
  let md := a.metadata.getD {}
  { atespace := md.atespace
    name := md.name
    uid := md.uid
    version := md.version
    createTime := formatTime rfc3339 md.createTime
    updateTime := formatTime rfc3339 md.updateTime
    actorTemplateNamespace := a.actorTemplateNamespace
    actorTemplateName := a.actorTemplateName
    status := statusToString a.status
    ateomPodNamespace := a.ateomPodNamespace
    ateomPodName := a.ateomPodName
    ateomPodIP := a.ateomPodIp
    workerPoolName := a.workerPoolName
    workerSelector := selectorToJSON a.workerSelector
    snapshotInfo := snapshotInfoToJSON a.latestSnapshotInfo }

theorem actorToJSON_workerSelector (rfc3339 : Pb.Timestamp → String) (a : Pb.Actor Selector) :
    (actorToJSON rfc3339 a.unmarshal).workerSelector =
      a.workerSelector.map fun s => ⟨some s.matchLabels⟩ :=
  selectorToJSON_unmarshal a.workerSelector

/-! ## Reading a request -/

/-- `updateActorRequest`, as it is decoded. -/
structure UpdateActorRequestJSON where
  workerSelector : Option SelectorJSON := none
  deriving DecidableEq, Repr

/-- The field of `selectorJSON` a member stands for is set. -/
def setSelectorField (s : SelectorJSON) (name : String) (v : JVal) : Option SelectorJSON :=
  match matchField ["matchLabels"] name with
  | some "matchLabels" =>
    (decodeStringMap s.matchLabels v).map fun matchLabels => { s with matchLabels }
  | _ => some s

/-- Into a `*selectorJSON`: null makes it nil, and an object is read into the selector there is. -/
def decodeSelector (into : Option SelectorJSON) : JVal → Option (Option SelectorJSON)
  | .null => some none
  | .obj m => (m.foldlM (fun s kv => setSelectorField s kv.1 kv.2) (into.getD {})).map some
  | _ => none

/-- The field of `updateActorRequest` a member stands for is set. -/
def setUpdateActorField (req : UpdateActorRequestJSON) (name : String) (v : JVal) :
    Option UpdateActorRequestJSON :=
  match matchField ["workerSelector"] name with
  | some "workerSelector" =>
    (decodeSelector req.workerSelector v).map fun workerSelector => { req with workerSelector }
  | _ => some req

/-- A value as an `updateActorRequest`. -/
def toUpdateActor : JVal → Option UpdateActorRequestJSON
  | .null => some {}
  | .obj m => m.foldlM (fun req kv => setUpdateActorField req kv.1 kv.2) {}
  | _ => none

/-- The request in a body. -/
def readUpdateActor (b : List UInt8) : Option UpdateActorRequestJSON :=
  (firstValue b).bind toUpdateActor

/-- What the decoder finds in a body; `explain` is the text of its error. -/
def updateActorRequestBody (explain : List UInt8 → String) (b : List UInt8) :
    DecodedBody UpdateActorRequest :=
  if skipSpace b = [] then .empty
  else
    match readUpdateActor b with
    | none => .malformed (explain b)
    | some req => .value ⟨sentSelector req.workerSelector⟩

/-! ## What a body says -/

/-- The request a handler gets, which of an empty body is the zero value. -/
def requested (b : List UInt8) : Option UpdateActorRequestJSON :=
  if skipSpace b = [] then some {} else readUpdateActor b

/-- The selector a body carries. -/
def said (b : List UInt8) : Option SelectorJSON := (requested b).bind (·.workerSelector)

/-- A member that stands for a field. -/
def StandsFor (field : String) (kv : String × JVal) : Prop :=
  matchField [field] kv.1 = some field

/-- A value with a member that stands for `workerSelector`. -/
def MentionsSelector : JVal → Prop
  | .obj m => ∃ kv ∈ m, StandsFor "workerSelector" kv
  | _ => False

/-- The body is empty or does not mention `workerSelector`. -/
def Silent (b : List UInt8) : Prop :=
  skipSpace b = [] ∨ ∃ v, firstValue b = some v ∧ ¬ MentionsSelector v

/-- A handler gets the request, or the error of the decoder. -/
theorem decodeBody_updateActor (explain : List UInt8 → String) (b : List UInt8) :
    decodeBody {} (updateActorRequestBody explain b) =
      match requested b with
      | none => .error (explain b)
      | some req => .ok ⟨sentSelector req.workerSelector⟩ := by
  unfold updateActorRequestBody requested
  by_cases hempty : skipSpace b = []
  · rw [if_pos hempty, if_pos hempty]
    rfl
  · rw [if_neg hempty, if_neg hempty]
    cases readUpdateActor b with
    | none => rfl
    | some req => rfl

theorem setUpdateActorField_other {kv : String × JVal} (h : ¬ StandsFor "workerSelector" kv)
    (req : UpdateActorRequestJSON) : setUpdateActorField req kv.1 kv.2 = some req := by
  unfold setUpdateActorField
  split
  · rename_i hmatch
    exact absurd hmatch h
  · rfl

theorem setSelectorField_other {kv : String × JVal} (h : ¬ StandsFor "matchLabels" kv)
    (s : SelectorJSON) : setSelectorField s kv.1 kv.2 = some s := by
  unfold setSelectorField
  split
  · rename_i hmatch
    exact absurd hmatch h
  · rfl

/-- A fold none of whose steps changes the state. -/
theorem foldlM_unchanged {σ β : Type} {f : σ → β → Option σ} {s : σ} :
    ∀ {l : List β}, (∀ x ∈ l, f s x = some s) → l.foldlM f s = some s
  | [], _ => rfl
  | x :: l, h => by
    rw [List.foldlM_cons, h x List.mem_cons_self]
    exact foldlM_unchanged fun y hy => h y (List.mem_cons_of_mem x hy)

/-- **A body that is silent about the selector asks for none.** -/
theorem requested_silent {b : List UInt8} {req : UpdateActorRequestJSON} (h : Silent b)
    (hreq : requested b = some req) : req.workerSelector = none := by
  unfold requested at hreq
  by_cases hempty : skipSpace b = []
  · rw [if_pos hempty] at hreq
    cases hreq
    rfl
  · rw [if_neg hempty] at hreq
    obtain ⟨v, hv, hsilent⟩ := h.resolve_left hempty
    unfold readUpdateActor at hreq
    rw [hv, Option.bind_some] at hreq
    cases v with
    | null =>
      cases hreq
      rfl
    | obj m =>
      have hkept : m.foldlM (fun req kv => setUpdateActorField req kv.1 kv.2) {} =
          some ({} : UpdateActorRequestJSON) :=
        foldlM_unchanged fun kv hkv =>
          setUpdateActorField_other (fun hstands => hsilent ⟨kv, hkv, hstands⟩) {}
      rw [toUpdateActor, hkept] at hreq
      cases hreq
      rfl
    | bool b => cases hreq
    | num q => cases hreq
    | str s => cases hreq
    | arr xs => cases hreq

/-! ## A body that says each thing once -/

/-- One member alone stands for a field, and has this value. -/
def OnlyMember (field : String) (m : List (String × JVal)) (v : JVal) : Prop :=
  ∃ k before after, m = before ++ (k, v) :: after ∧ StandsFor field (k, v) ∧
    ∀ kv ∈ before ++ after, ¬ StandsFor field kv

/-- The labels an object has as its `matchLabels`: an absent or null one is without labels. -/
inductive Labelled (n : List (String × JVal)) : List (String × String) → Prop where
  | absent (h : ∀ kv ∈ n, ¬ StandsFor "matchLabels" kv) : Labelled n []
  | null (h : OnlyMember "matchLabels" n .null) : Labelled n []
  | labels {labels : List (String × String)} (hnodup : (labels.map Prod.fst).Nodup)
      (h : OnlyMember "matchLabels" n (.obj (labels.map fun kv => (kv.1, .str kv.2)))) :
      Labelled n labels

/-- The body carries a selector with these labels, and says so once. -/
def Carries (b : List UInt8) (labels : List (String × String)) : Prop :=
  ∃ m n, firstValue b = some (.obj m) ∧ OnlyMember "workerSelector" m (.obj n) ∧ Labelled n labels

/-- Of such members only the one that stands for the field is read. -/
theorem OnlyMember.foldlM {σ : Type} {field : String} {m : List (String × JVal)} {v : JVal}
    {f : σ → String × JVal → Option σ} (h : OnlyMember field m v)
    (hother : ∀ kv, ¬ StandsFor field kv → ∀ s, f s kv = some s) :
    ∃ k, StandsFor field (k, v) ∧ ∀ s, m.foldlM f s = f s (k, v) := by
  obtain ⟨k, before, after, rfl, hstands, hrest⟩ := h
  refine ⟨k, hstands, fun s => ?_⟩
  have hbefore : before.foldlM f s = some s :=
    foldlM_unchanged fun kv hkv => hother kv (hrest kv (List.mem_append_left after hkv)) s
  rw [List.foldlM_append, hbefore, Option.bind_eq_bind, Option.bind_some, List.foldlM_cons]
  cases f s (k, v) with
  | none => rfl
  | some s' =>
    exact foldlM_unchanged fun kv hkv => hother kv (hrest kv (List.mem_append_right before hkv)) s'

theorem setSelectorField_stands {k : String} {v : JVal} (h : StandsFor "matchLabels" (k, v))
    (s : SelectorJSON) : setSelectorField s k v =
      (decodeStringMap s.matchLabels v).map fun matchLabels => { s with matchLabels } := by
  have hmatch : matchField ["matchLabels"] k = some "matchLabels" := h
  unfold setSelectorField
  rw [hmatch]
  rfl

theorem setUpdateActorField_stands {k : String} {v : JVal} (h : StandsFor "workerSelector" (k, v))
    (req : UpdateActorRequestJSON) : setUpdateActorField req k v =
      (decodeSelector req.workerSelector v).map fun workerSelector =>
        { req with workerSelector } := by
  have hmatch : matchField ["workerSelector"] k = some "workerSelector" := h
  unfold setUpdateActorField
  rw [hmatch]
  rfl

theorem decodeSelector_labelled {n : List (String × JVal)} {labels : List (String × String)}
    (h : Labelled n labels) :
    ∃ s : SelectorJSON, decodeSelector none (.obj n) = some (some s) ∧
      s.matchLabels.getD [] = labels := by
  have hread : ∀ s, n.foldlM (fun s kv => setSelectorField s kv.1 kv.2) {} = some s →
      decodeSelector none (.obj n) = some (some s) := fun s hs => congrArg (Option.map some) hs
  cases h with
  | absent h =>
    exact ⟨{}, hread {} (foldlM_unchanged fun kv hkv => setSelectorField_other (h kv hkv) {}), rfl⟩
  | null h =>
    obtain ⟨k, hstands, hfold⟩ := h.foldlM fun kv hkv => setSelectorField_other hkv
    refine ⟨{}, hread {} ?_, rfl⟩
    rw [hfold, setSelectorField_stands hstands]
    rfl
  | labels hnodup h =>
    obtain ⟨k, hstands, hfold⟩ := h.foldlM fun kv hkv => setSelectorField_other hkv
    refine ⟨⟨some labels⟩, hread _ ?_, rfl⟩
    rw [hfold, setSelectorField_stands hstands, decodeStringMap_str hnodup]
    rfl

/-- **What is said once is what is read.** -/
theorem said_of_carries {b : List UInt8} {labels : List (String × String)} (h : Carries b labels) :
    ∃ s, said b = some s ∧ s.matchLabels.getD [] = labels := by
  obtain ⟨m, n, hvalue, honly, hlabelled⟩ := h
  obtain ⟨s, hs, hlabels⟩ := decodeSelector_labelled hlabelled
  obtain ⟨k, hstands, hfold⟩ := honly.foldlM fun kv hkv => setUpdateActorField_other hkv
  have hne : skipSpace b ≠ [] := fun hempty => by
    rw [firstValue_empty hempty] at hvalue
    cases hvalue
  refine ⟨s, ?_, hlabels⟩
  unfold said requested readUpdateActor
  rw [if_neg hne, hvalue, Option.bind_some, toUpdateActor, hfold,
    setUpdateActorField_stands hstands, hs]
  rfl

end Api
