import SubstrateControl.Api.K8sObjects
import SubstrateControl.Api.Relay
import SubstrateControl.Go.Decode

/-!
# The spec of a created resource

A `createK8sObjectRequest` (`internal/api/types.go`) is read from the bytes of a body.  Its spec is
untyped, so that its numbers are decoded to float64.  Strings and field names are what
`encoding/json` reads: U+FFFD for what is no character, the last of several members of one name.

* `readK8sObject` — the request a body holds; with `some` for the conversion of numbers, what was
  posted.
* `PassedThrough` — the created object is what was posted, some numbers being compared exactly.
* `spec_passes_iff` — it is exactly when these numbers are float64 values.
-/

set_option autoImplicit false

namespace Api

open Go Kube Kit.Float

variable {Atespace Actor : Type}

/-! ## Reading a request -/

/-- The field of `createK8sObjectRequest` a member stands for is set. -/
def setK8sField (conv : ℚ → Option ℚ) (req : CreateK8sObjectRequest) (name : String) (v : JVal) :
    Option CreateK8sObjectRequest :=
  match matchField ["namespace", "name", "labels", "spec"] name with
  | some "namespace" => (decodeString req.ns v).map fun ns => { req with ns }
  | some "name" => (decodeString req.name v).map fun name => { req with name }
  | some "labels" => (decodeStringMap req.labels v).map fun labels => { req with labels }
  | some "spec" => (decodeMap conv req.spec v).map fun spec => { req with spec }
  | _ => some req

/-- A value as a `createK8sObjectRequest`. -/
def toK8sObject (conv : ℚ → Option ℚ) : JVal → Option CreateK8sObjectRequest
  | .null => some {}
  | .obj m => m.foldlM (fun req kv => setK8sField conv req kv.1 kv.2) {}
  | _ => none

/-- The request in a body. -/
def readK8sObject (conv : ℚ → Option ℚ) (b : List UInt8) : Option CreateK8sObjectRequest :=
  (firstValue b).bind (toK8sObject conv)

/-- What the decoder finds in a body; `explain` is the text of its error. -/
def k8sObjectBody (explain : List UInt8 → String) (b : List UInt8) :
    DecodedBody CreateK8sObjectRequest :=
  if skipSpace b = [] then .empty
  else
    match readK8sObject parseFloat b with
    | none => .malformed (explain b)
    | some req => .value req

/-- A request and the one that was posted: the numbers of its spec are converted. -/
structure ReadFrom (conv : ℚ → Option ℚ) (posted req : CreateK8sObjectRequest) : Prop where
  ns : posted.ns = req.ns
  name : posted.name = req.name
  labels : posted.labels = req.labels
  spec : LiftMembers (Converted conv) posted.spec req.spec

theorem setK8sField_lift {conv : ℚ → Option ℚ} {posted req req' : CreateK8sObjectRequest}
    {name : String} {v : JVal} (h : ReadFrom conv posted req)
    (hset : setK8sField conv req name v = some req') :
    ∃ posted', setK8sField some posted name v = some posted' ∧ ReadFrom conv posted' req' := by
  unfold setK8sField at hset ⊢
  split at hset
  · obtain ⟨ns, hns, rfl⟩ := Option.map_eq_some_iff.mp hset
    rw [h.ns, hns]
    exact ⟨_, rfl, rfl, h.name, h.labels, h.spec⟩
  · obtain ⟨name', hname, rfl⟩ := Option.map_eq_some_iff.mp hset
    rw [h.name, hname]
    exact ⟨_, rfl, h.ns, rfl, h.labels, h.spec⟩
  · obtain ⟨labels, hlabels, rfl⟩ := Option.map_eq_some_iff.mp hset
    rw [h.labels, hlabels]
    exact ⟨_, rfl, h.ns, h.name, rfl, h.spec⟩
  · obtain ⟨spec, hspec, rfl⟩ := Option.map_eq_some_iff.mp hset
    obtain ⟨u, hu, hlift⟩ := decodeMap_lift h.spec hspec
    rw [hu]
    exact ⟨_, rfl, h.ns, h.name, h.labels, hlift⟩
  · cases hset
    exact ⟨posted, rfl, h⟩

theorem setK8sFields_lift {conv : ℚ → Option ℚ} (m : List (String × JVal)) :
    ∀ {posted req req' : CreateK8sObjectRequest}, ReadFrom conv posted req →
      m.foldlM (fun req kv => setK8sField conv req kv.1 kv.2) req = some req' →
      ∃ posted', m.foldlM (fun req kv => setK8sField some req kv.1 kv.2) posted = some posted' ∧
        ReadFrom conv posted' req' := by
  induction m with
  | nil =>
    intro posted req req' h hread
    cases hread
    exact ⟨posted, rfl, h⟩
  | cons kv m ih =>
    intro posted req req' h hread
    rw [List.foldlM_cons, Option.bind_eq_bind, Option.bind_eq_some_iff] at hread
    obtain ⟨next, hnext, hrest⟩ := hread
    obtain ⟨posted1, hposted1, h1⟩ := setK8sField_lift h hnext
    obtain ⟨posted', hposted', h'⟩ := ih h1 hrest
    refine ⟨posted', ?_, h'⟩
    rw [List.foldlM_cons, Option.bind_eq_bind, hposted1]
    exact hposted'

/-- **A body that is read says what was posted**, up to the conversion of numbers in its spec. -/
theorem readK8sObject_lift {conv : ℚ → Option ℚ} {b : List UInt8} {req : CreateK8sObjectRequest}
    (h : readK8sObject conv b = some req) :
    ∃ posted, readK8sObject some b = some posted ∧ ReadFrom conv posted req := by
  unfold readK8sObject at h ⊢
  rw [Option.bind_eq_some_iff] at h
  obtain ⟨v, hv, hreq⟩ := h
  rw [hv, Option.bind_some]
  cases v with
  | null =>
    cases hreq
    exact ⟨{}, rfl, rfl, rfl, rfl, .nil⟩
  | obj m => exact setK8sFields_lift m ⟨rfl, rfl, rfl, .nil⟩ hreq
  | bool b => cases hreq
  | num q => cases hreq
  | str s => cases hreq
  | arr xs => cases hreq

/-! ## The created object -/

/-- A number and what stands for it: the same where it has to be exact, else the nearest float64. -/
def SameNumber (exact : ℚ → Prop) (p q : ℚ) : Prop :=
  (exact p → q = p) ∧ (¬ exact p → parseFloat p = some q)

/-- The object asks for what was posted: its namespace, name and labels and no other metadata, the
version and kind of the endpoint, and its spec. -/
def PassedThrough (exact : ℚ → Prop) (gvr : GroupVersionResource) (kind : String)
    (posted : CreateK8sObjectRequest) (obj : Unstructured) : Prop :=
  ∃ spec, LiftMembers (SameNumber exact) posted.spec spec ∧
    obj = [("apiVersion", .str (apiVersionOf gvr)), ("kind", .str kind),
      ("metadata", .obj ([("namespace", .str posted.ns), ("name", .str posted.name)] ++
        posted.labels.toList.map fun labels => ("labels", labelsJSON labels))),
      ("spec", .obj spec)]

/-- What a created object is made of. -/
theorem handleCreateK8sObject_calls {rfc3339 : String → String} {s : Server Atespace Actor}
    {gvr : GroupVersionResource} {kind : String} {body : DecodedBody CreateK8sObjectRequest}
    {obj : Unstructured} {succeeded : Bool}
    (h : ⟨.createObject gvr obj, succeeded⟩ ∈
      (handleCreateK8sObject rfc3339 s gvr kind body).trace.calls) :
    ∃ req, decodeBody {} body = .ok req ∧ req.ns ≠ "" ∧ req.name ≠ "" ∧
      obj = newObject gvr kind req := by
  unfold handleCreateK8sObject at h
  cases hkube : s.kube with
  | error e =>
    rw [kubeUnavailable_error hkube rfl] at h
    cases h
  | ok kube =>
    rw [kubeUnavailable_client hkube] at h
    cases hbody : decodeBody {} body with
    | error e =>
      simp only [hbody] at h
      cases h
    | ok req =>
      simp only [hbody] at h
      split at h
      · cases h
      · rename_i hreq
        rw [not_or] at hreq
        refine ⟨req, rfl, hreq.1, fun hname => hreq.2 (Or.inl hname), ?_⟩
        have hcall := call_made h (fun _ => rfl) writeKubeError_writesError
        cases hcall
        rfl

theorem parseFloat_unique (p q q' : ℚ) (h : Converted parseFloat p q)
    (h' : Converted parseFloat p q') : q = q' := by
  unfold Converted at h h'
  rw [h] at h'
  exact Option.some.inj h'

/-- A converted number stands for the one in the text when that is a float64 value or need not be
exact. -/
theorem exists_sameNumber_iff (exact : ℚ → Prop) {p q : ℚ} (hq : Converted parseFloat p q) :
    (∃ q', Converted parseFloat p q' ∧ SameNumber exact p q') ↔
      (exact p → binary64.Representable p) := by
  constructor
  · rintro ⟨q', hq', hsame⟩ hexact
    rw [hsame.1 hexact] at hq'
    exact (Format.round_eq_self_iff p).mp hq'
  · intro h
    refine ⟨q, hq, fun hexact => ?_, fun _ => hq⟩
    exact parseFloat_unique p q p hq ((Format.round_eq_self_iff p).mpr (h hexact))

/-- **A spec passes through unchanged exactly when its numbers are float64 values**: those that have
to be exact, be it all of them or the integers.  Everything else about the object is as posted, as
`encoding/json` reads it. -/
theorem spec_passes_iff (exact : ℚ → Prop) {explain : List UInt8 → String}
    {rfc3339 : String → String} {s : Server Atespace Actor} {gvr : GroupVersionResource}
    {kind : String} {b : List UInt8} {obj : Unstructured} {succeeded : Bool}
    (hcall : ⟨.createObject gvr obj, succeeded⟩ ∈
      (handleCreateK8sObject rfc3339 s gvr kind (k8sObjectBody explain b)).trace.calls) :
    ∃ posted, readK8sObject some b = some posted ∧
      (PassedThrough exact gvr kind posted obj ↔
        ∀ p ∈ nums (.obj posted.spec), exact p → binary64.Representable p) := by
  obtain ⟨req, hbody, hns, hname, rfl⟩ := handleCreateK8sObject_calls hcall
  have hreq : readK8sObject parseFloat b = some req := by
    unfold k8sObjectBody at hbody
    split at hbody
    · cases hbody
      exact absurd rfl hns
    · split at hbody
      · cases hbody
      · rename_i req' hreq'
        cases hbody
        exact hreq'
  obtain ⟨posted, hposted, hread⟩ := readK8sObject_lift hreq
  refine ⟨posted, hposted, ?_⟩
  have hpassed : PassedThrough exact gvr kind posted (newObject gvr kind req) ↔
      LiftMembers (SameNumber exact) posted.spec req.spec := by
    unfold PassedThrough
    rw [newObject_eq gvr kind hns hname, hread.ns, hread.name, hread.labels]
    constructor
    · rintro ⟨spec, hspec, heq⟩
      simp only [List.cons.injEq, Prod.mk.injEq, JVal.obj.injEq, true_and, and_true] at heq
      rw [heq]
      exact hspec
    · intro hspec
      exact ⟨req.spec, hspec, rfl⟩
  have hnums : ∀ p ∈ nums (.obj posted.spec), ∃ q, Converted parseFloat p q := by
    intro p hp
    obtain ⟨q, hq, -⟩ := (hread.spec.iff_nums parseFloat_unique).mp hread.spec p hp
    exact ⟨q, hq⟩
  rw [hpassed, hread.spec.iff_nums parseFloat_unique]
  constructor
  · intro h p hp
    obtain ⟨q, hq⟩ := hnums p hp
    exact (exists_sameNumber_iff exact hq).mp (h p hp)
  · intro h p hp
    obtain ⟨q, hq⟩ := hnums p hp
    exact (exists_sameNumber_iff exact hq).mpr (h p hp)

/-! ## A worker pool -/

/-- The body that asks for a pool of `n` replicas. -/
def poolBody (n : ℕ) : List UInt8 :=
  encode (.obj [(goString "namespace", .str (goString "default")),
    (goString "name", .str (goString "web")),
    (goString "spec", .obj [(goString "replicas", .nat n)])])

/-- The request for `q` replicas. -/
def poolRequest (q : ℚ) : CreateK8sObjectRequest := ⟨"default", "web", none, [("replicas", .num q)]⟩

/-- A cluster that accepts every object. -/
def poolCluster : Server Unit Unit :=
  { idleServer with
    kube := .ok
      { createObject := fun _ obj =>
          .ok (Unstructured.setMetadata obj "creationTimestamp" (.str "2025-01-01T00:00:00Z"))
        deleteObject := fun _ _ _ => .ok ()
        listSecrets := fun _ => .ok []
        createSecret := fun obj => .ok obj
        deleteSecret := fun _ _ => .ok () } }

theorem readK8sObject_poolBody (conv : ℚ → Option ℚ) (n : ℕ) :
    readK8sObject conv (poolBody n) = (conv n).map poolRequest := by
  have hvalue := value_encode (.obj [(goString "namespace", .str (goString "default")),
    (goString "name", .str (goString "web")),
    (goString "spec", .obj [(goString "replicas", .nat n)])]) maxNestingDepth []
    (by simp [Doc.depth, fieldsDepth, maxNestingDepth]) (ends_false [])
  unfold readK8sObject firstValue poolBody
  rw [List.append_nil] at hvalue
  rw [hvalue]
  simp only [Doc.toJVal, fieldsToJVal, textOf_goString, Option.map_some, Option.bind_some]
  have hfields : ∀ req : CreateK8sObjectRequest,
      setK8sField conv req "namespace" (.str "default") = some { req with ns := "default" } ∧
      setK8sField conv req "name" (.str "web") = some { req with name := "web" } ∧
      setK8sField conv req "spec" (.obj [("replicas", .num n)]) =
        (conv n).bind fun q => some { req with spec := JObj.set req.spec "replicas" (.num q) } := by
    intro req
    refine ⟨rfl, rfl, ?_⟩
    have hmatch : matchField ["namespace", "name", "labels", "spec"] "spec" = some "spec" := by
      decide
    unfold setK8sField
    rw [hmatch]
    simp only [decodeMap, decodeMembers, decodeAny]
    cases conv n with
    | none => rfl
    | some q => rfl
  simp only [toK8sObject, List.foldlM_cons, List.foldlM_nil, Option.bind_eq_bind, hfields,
    Option.bind_some]
  cases conv n with
  | none => rfl
  | some q => rfl

/-- The call that is made for a pool. -/
theorem poolBody_call {n : ℕ} {q : ℚ} (hq : parseFloat n = some q) :
    ⟨.createObject workerPoolsGVR (newObject workerPoolsGVR "WorkerPool" (poolRequest q)), true⟩ ∈
      (handleCreateK8sObject id poolCluster workerPoolsGVR "WorkerPool"
        (k8sObjectBody (fun _ => "") (poolBody n))).trace.calls := by
  have hbody : k8sObjectBody (fun _ => "") (poolBody n) = .value (poolRequest q) := by
    unfold k8sObjectBody
    rw [readK8sObject_poolBody, hq]
    rfl
  rw [hbody]
  exact List.mem_singleton.mpr rfl

/-- A pool of three replicas is created as posted. -/
theorem spec_passes_three :
    PassedThrough (fun _ => True) workerPoolsGVR "WorkerPool" (poolRequest 3)
      (newObject workerPoolsGVR "WorkerPool" (poolRequest 3)) := by
  have hq : parseFloat ((3 : ℕ) : ℚ) = some 3 := by decide +kernel
  obtain ⟨posted, hposted, hiff⟩ := spec_passes_iff (fun _ => True) (poolBody_call hq)
  rw [readK8sObject_poolBody] at hposted
  cases hposted
  refine hiff.mpr fun p hp _ => ?_
  have hp : p = 3 := by simpa [poolRequest, nums, numsMembers] using hp
  rw [hp]
  exact (Format.round_eq_self_iff 3).mp hq

/-- One replica more than `2 ^ 53` is created as `2 ^ 53`, though it is an integer. -/
theorem spec_passes_counterexample :
    ∃ obj, ⟨.createObject workerPoolsGVR obj, true⟩ ∈
        (handleCreateK8sObject id poolCluster workerPoolsGVR "WorkerPool"
          (k8sObjectBody (fun _ => "") (poolBody 9007199254740993))).trace.calls ∧
      readK8sObject some (poolBody 9007199254740993) = some (poolRequest 9007199254740993) ∧
      JObj.get obj "spec" = .obj [("replicas", .num 9007199254740992)] ∧
      ¬ PassedThrough (fun q => q.isInt = true) workerPoolsGVR "WorkerPool"
        (poolRequest 9007199254740993) obj := by
  have hq : parseFloat ((9007199254740993 : ℕ) : ℚ) = some 9007199254740992 := by decide +kernel
  refine ⟨_, poolBody_call hq, readK8sObject_poolBody some _, rfl, ?_⟩
  rintro ⟨spec, hspec, hobj⟩
  rw [newObject_eq _ _ (by decide) (by decide)] at hobj
  simp only [List.cons.injEq, Prod.mk.injEq, JVal.obj.injEq, true_and, and_true] at hobj
  rw [← hobj.2] at hspec
  cases hspec with
  | cons hmember _ =>
    cases hmember with
    | num hnum =>
      have heq := hnum.1 (by decide)
      norm_num at heq

end Api
