import SubstrateControl.Api.ObjectList
import SubstrateControl.Frontend.Submits
import SubstrateControl.Js.Parsed

/-!
# What was created is listed

An object of the cluster from the dialog that creates it (`CreateTemplateDialog.tsx`,
`CreatePoolDialog.tsx`) to the table that lists it (`TemplatesPage.tsx`, `PoolsPage.tsx`).

* `ResourcePage` — the two pages, with what they create and list.
* `KeepsCreated` — an object of the cluster that has what it was created with.
* `listItems`, `replicaCount` — how the pages read the response.
* `Shows` — a row shows what a request asked for.
* `created_listed` — **an object that was created is listed as it was asked for**.
-/

set_option autoImplicit false

namespace Frontend

open Api Go Js Kube

/-! ## Pages -/

/-- A page of custom resources. -/
inductive ResourcePage where
  | templates
  | pools
  deriving DecidableEq, Repr

namespace ResourcePage

/-- The call that its dialog makes. -/
def create : ResourcePage → CreateK8sObjectRequest → ApiFunction
  | .templates, req => .createActorTemplate req
  | .pools, req => .createWorkerPool req

/-- The request that its query makes. -/
def query : ResourcePage → ReadRequest
  | .templates => .listActorTemplates
  | .pools => .listWorkerPools

def gvr : ResourcePage → GroupVersionResource
  | .templates => actorTemplatesGVR
  | .pools => workerPoolsGVR

def kind : ResourcePage → String
  | .templates => "ActorTemplate"
  | .pools => "WorkerPool"

/-- The object that is created for a request. -/
def created (p : ResourcePage) (req : CreateK8sObjectRequest) : Unstructured :=
  newObject p.gvr p.kind ⟨req.ns, req.name, req.labels, ApiFunction.specRead req.spec⟩

/-- What the cluster lists for it. -/
def objects {Atespace Actor Worker : Type}
    (s : Reader Atespace Actor Worker) :
    ResourcePage → Except KubeError (List Unstructured)
  | .templates => s.listActorTemplates
  | .pools => s.listWorkerPools

end ResourcePage

/-- The object has the namespace, the name, the labels and the spec it was created with. -/
structure KeepsCreated (created o : Unstructured) : Prop where
  ns : o.getNamespace = created.getNamespace
  name : o.getName = created.getName
  labels : o.getLabels = created.getLabels
  spec : mapField o "spec" = mapField created "spec"

/-- `query.data?.items ?? []`. -/
def listItems (data : Value) : List Value :=
  match data.prop "items" with
  | some (.array items) => items
  | _ => []

/-- `replicaCount`. -/
def replicaCount (object : K8sObject) : Option Number :=
  match object.spec.bind (·.prop "replicas") with
  | some (.number replicas) => some replicas
  | _ => none

/-- The entries that `LabelsCell` is given. -/
def shownLabels (row : Value) : List (String × Value) :=
  match row.prop "labels" with
  | some (.object labels) => labels
  | _ => []

/-- The row shows what was asked for: the namespace, the name, the labels and the spec, with
properties in the order of their names; and the columns made of the spec are the same. -/
structure Shows (req : CreateK8sObjectRequest) (row : Value) : Prop where
  ns : row.prop "namespace" = some (.string req.ns)
  name : row.prop "name" = some (.string req.name)
  labels : shownLabels row =
    ((req.labels.getD []).map fun kv => (kv.1, Value.string kv.2)).mergeSort keyLe
  spec : row.prop "spec" = some req.spec.written.sorted
  replicas : replicaCount ⟨row.prop "spec"⟩ = replicaCount ⟨some req.spec.written⟩
  images : containerImages ⟨row.prop "spec"⟩ = containerImages ⟨some req.spec.written⟩

/-! ## The columns of a sorted spec -/

mutual

theorem written_distinct : ∀ v : Value, v.Distinct → v.written.Distinct
  | .null, _ => trivial
  | .bool _, _ => trivial
  | .string _, _ => trivial
  | .number (.finite _), _ => trivial
  | .number .nan, _ => trivial
  | .number (.infinity _), _ => trivial
  | .array xs, h => itemsWritten_distinct xs h
  | .object m, h => by
    rw [Value.Distinct] at h
    rw [Value.written, Value.Distinct, fieldsWritten_eq, List.map_map, ← fieldsWritten_eq]
    exact ⟨h.1, fieldsWritten_distinct m h.2⟩

theorem itemsWritten_distinct : ∀ xs : List Value, ItemsDistinct xs →
    ItemsDistinct (itemsWritten xs)
  | [], _ => trivial
  | x :: xs, h => ⟨written_distinct x h.1, itemsWritten_distinct xs h.2⟩

theorem fieldsWritten_distinct : ∀ m : List (String × Value), FieldsDistinct m →
    FieldsDistinct (fieldsWritten m)
  | [], _ => trivial
  | (_, x) :: m, h => ⟨written_distinct x h.1, fieldsWritten_distinct m h.2⟩

end

theorem distinct_of_lookup {k : String} {w : Value} : ∀ {m : List (String × Value)},
    FieldsDistinct m → m.lookup k = some w → w.Distinct
  | [], _, h => by cases h
  | (j, x) :: m, hm, h => by
    rw [List.lookup_cons] at h
    split at h
    · rw [← Option.some.inj h]
      exact hm.1
    · exact distinct_of_lookup hm.2 h

theorem distinct_of_prop {v w : Value} {k : String} (h : v.Distinct) (hw : v.prop k = some w) :
    w.Distinct := by
  cases v with
  | object m =>
    rw [Value.Distinct] at h
    exact distinct_of_lookup h.2 hw
  | null => cases hw
  | bool b => cases hw
  | string s => cases hw
  | number x => cases hw
  | array xs => cases hw

theorem distinct_of_mem {w : Value} : ∀ {xs : List Value}, ItemsDistinct xs → w ∈ xs → w.Distinct
  | [], _, h => by cases h
  | x :: xs, hxs, h => by
    rcases List.mem_cons.mp h with rfl | h
    · exact hxs.1
    · exact distinct_of_mem hxs.2 h

/-- A property of a property. -/
theorem bind_prop_sorted {v : Option Value} (h : ∀ w, v = some w → w.Distinct) (k : String) :
    (v.map Value.sorted).bind (·.prop k) = (v.bind (·.prop k)).map Value.sorted := by
  cases v with
  | none => rfl
  | some w => exact prop_sorted (h w rfl) k

theorem asString_sorted (v : Value) : v.sorted.asString = v.asString := by
  cases v <;> rfl

theorem replicaCount_sorted {v : Value} (h : v.Distinct) :
    replicaCount ⟨some v.sorted⟩ = replicaCount ⟨some v⟩ := by
  unfold replicaCount
  rw [Option.bind_some, Option.bind_some, prop_sorted h]
  cases v.prop "replicas" with
  | none => rfl
  | some w => cases w <;> rfl

theorem valuesSorted_eq (xs : List Value) : valuesSorted xs = xs.map Value.sorted := by
  induction xs with
  | nil => rfl
  | cons x xs ih => rw [valuesSorted, ih, List.map_cons]

theorem imagesOf_sorted {v : Option Value} (h : ∀ w, v = some w → w.Distinct) :
    imagesOf (v.map Value.sorted) = imagesOf v := by
  cases v with
  | none => rfl
  | some v =>
    cases v with
    | array xs =>
      have hxs := h _ rfl
      rw [Value.Distinct] at hxs
      show List.filterMap _ (valuesSorted xs) = List.filterMap _ xs
      rw [valuesSorted_eq, List.filterMap_map]
      apply List.filterMap_congr
      intro w hw
      show (w.sorted.prop "image").bind Value.asString = (w.prop "image").bind Value.asString
      rw [prop_sorted (distinct_of_mem hxs hw)]
      cases w.prop "image" with
      | none => rfl
      | some image => exact asString_sorted image
    | object m => rfl
    | null => rfl
    | bool b => rfl
    | string s => rfl
    | number x => rfl

theorem containerImages_sorted {v : Value} (h : v.Distinct) :
    containerImages ⟨some v.sorted⟩ = containerImages ⟨some v⟩ := by
  have hdistinct : ∀ {o : Option Value}, (∀ w, o = some w → w.Distinct) → ∀ k,
      ∀ w, o.bind (·.prop k) = some w → w.Distinct := by
    intro o ho k w hw
    obtain ⟨u, hu, hprop⟩ := Option.bind_eq_some_iff.mp hw
    exact distinct_of_prop (ho u hu) hprop
  have hspec : ∀ w, some v = some w → w.Distinct := by
    rintro _ ⟨⟩
    exact h
  have htemplate := hdistinct hspec "template"
  have hpod := hdistinct htemplate "spec"
  have hsorted : (some v.sorted : Option Value) = (some v).map Value.sorted := rfl
  unfold containerImages
  dsimp only
  rw [hsorted, bind_prop_sorted hspec, bind_prop_sorted htemplate, bind_prop_sorted hpod,
    bind_prop_sorted hpod, imagesOf_sorted (hdistinct hpod "containers"),
    imagesOf_sorted (hdistinct hpod "initContainers")]

/-! ## Rows -/

theorem nodup_members (o : K8sObjectJSON) : (o.members.map Prod.fst).Nodup := by
  have hsub : (o.members.map Prod.fst).Sublist
      ["namespace", "name", "uid", "creationTimestamp", "labels", "spec", "status"] := by
    unfold K8sObjectJSON.members
    rw [List.map_append, List.map_append, List.map_append]
    have hlabels := keys_optional (o.labels.getD [] ≠ [])
      ("labels", sorted (labelsJSON (o.labels.getD [])))
    have hstatus := keys_optional ((o.status.getD []).isEmpty = false)
      ("status", sorted (.obj (o.status.getD [])))
    exact (((List.Sublist.refl _).append hlabels).append (List.Sublist.refl ["spec"])).append
      hstatus
  exact hsub.nodup (by decide)

/-- A property of a row is the member of the object. -/
theorem row_prop (o : K8sObjectJSON) (k : String) :
    (Value.ofJVal o.toJVal).prop k = (o.members.lookup k).map Value.ofJVal :=
  prop_ofJVal (nodup_members o) k

theorem lookup_ns (o : K8sObjectJSON) : o.members.lookup "namespace" = some (.str o.ns) := by
  simp [K8sObjectJSON.members]

theorem lookup_name (o : K8sObjectJSON) : o.members.lookup "name" = some (.str o.name) := by
  simp [K8sObjectJSON.members, List.lookup_cons]

theorem lookup_labels (o : K8sObjectJSON) : o.members.lookup "labels" =
    if o.labels.getD [] ≠ [] then some (sorted (labelsJSON (o.labels.getD []))) else none := by
  unfold K8sObjectJSON.members
  split <;> split <;> simp [List.lookup_cons]

theorem lookup_spec (o : K8sObjectJSON) : o.members.lookup "spec" =
    some ((o.spec.map fun spec => sorted (.obj spec)).getD .null) := by
  unfold K8sObjectJSON.members
  split <;> simp [List.lookup_cons]

theorem ofJVal_labels {labels : List (String × String)} (h : (labels.map Prod.fst).Nodup) :
    Value.ofJVal (sorted (labelsJSON labels)) =
      .object ((labels.map fun kv => (kv.1, Value.string kv.2)).mergeSort keyLe) := by
  have hmembers : membersSorted (labels.map fun kv => (kv.1, JVal.str kv.2)) =
      labels.map fun kv => (kv.1, JVal.str kv.2) := by
    rw [membersSorted_eq, List.map_map]
    rfl
  have hkeys : ((labels.map fun kv => (kv.1, Value.string kv.2)).map Prod.fst).Nodup := by
    rw [List.map_map]
    exact h
  rw [labelsJSON, sorted, hmembers]
  apply ofJVal_sortedMembers hkeys
  rw [fieldsOf_eq, List.map_map]
  rfl

/-! ## Objects -/

section

variable {gvr : GroupVersionResource} {kind : String} {req : Api.CreateK8sObjectRequest}

theorem getNamespace_newObject (hns : req.ns ≠ "") (hname : req.name ≠ "") :
    (newObject gvr kind req).getNamespace = req.ns := by
  rw [newObject_eq gvr kind hns hname]
  simp [Unstructured.getNamespace, Unstructured.getMetadata, nestedMap, JObj.get, List.lookup_cons]

theorem getName_newObject (hns : req.ns ≠ "") (hname : req.name ≠ "") :
    (newObject gvr kind req).getName = req.name := by
  rw [newObject_eq gvr kind hns hname]
  simp [Unstructured.getName, Unstructured.getMetadata, nestedMap, JObj.get, List.lookup_cons]

theorem getLabels_newObject (hns : req.ns ≠ "") (hname : req.name ≠ "") :
    (newObject gvr kind req).getLabels = req.labels := by
  rw [newObject_eq gvr kind hns hname]
  obtain ⟨ns, name, labels, spec⟩ := req
  cases labels with
  | none =>
    simp [Unstructured.getLabels, nestedMap, JObj.get, List.lookup_cons]
  | some labels =>
    clear hns hname
    simp only [Unstructured.getLabels, nestedMap, JObj.get, List.lookup_cons, labelsJSON]
    show List.mapM _ (labels.map fun kv => (kv.1, JVal.str kv.2)) = some labels
    induction labels with
    | nil => rfl
    | cons kv labels ih =>
      rw [List.map_cons, List.mapM_cons, ih]
      rfl

theorem spec_newObject (hns : req.ns ≠ "") (hname : req.name ≠ "") :
    mapField (newObject gvr kind req) "spec" = some req.spec := by
  rw [newObject_eq gvr kind hns hname]
  simp [mapField, JObj.get, List.lookup_cons]

end

/-- **An object that keeps what it was created with is shown so.** -/
theorem shows_of_keeps {p : ResourcePage} {rfc3339 : String → String}
    {req : CreateK8sObjectRequest} {fields : List (String × Value)} {o : Unstructured}
    (hread : req.Readable fields) (hns : req.ns ≠ "") (hname : req.name ≠ "")
    (hkeeps : KeepsCreated (p.created req) o) :
    Shows req (Value.ofJVal (unstructuredToJSON rfc3339 o).toJVal) := by
  have hdistinct : req.spec.written.Distinct := by
    rw [hread.spec]
    exact written_distinct _ hread.distinct
  have hspec : (Value.ofJVal (unstructuredToJSON rfc3339 o).toJVal).prop "spec" =
      some req.spec.written.sorted := by
    have hfield : mapField o "spec" = some (fieldsDecoded fields) := by
      rw [hkeeps.spec, ResourcePage.created, spec_newObject hns hname, hread.spec]
      rfl
    rw [row_prop, lookup_spec]
    show some (Value.ofJVal ((Option.map _ (mapField o "spec")).getD .null)) = _
    rw [hfield, hread.spec]
    exact congrArg some (ofJVal_decoded _ hread.distinct)
  exact
    { ns := by
        rw [row_prop, lookup_ns]
        exact congrArg (fun s => some (Value.string s))
          (hkeeps.ns.trans (getNamespace_newObject hns hname))
      name := by
        rw [row_prop, lookup_name]
        exact congrArg (fun s => some (Value.string s))
          (hkeeps.name.trans (getName_newObject hns hname))
      labels := by
        have hlabels : (unstructuredToJSON rfc3339 o).labels = req.labels :=
          hkeeps.labels.trans (getLabels_newObject hns hname)
        unfold shownLabels
        rw [row_prop, lookup_labels, hlabels]
        cases hreq : req.labels with
        | none => simp
        | some labels =>
          by_cases hnil : labels = []
          · simp [hnil]
          · have hshown := ofJVal_labels (hread.labels labels hreq)
            rw [Option.getD_some, if_pos hnil, Option.map_some, hshown]
      spec := hspec
      replicas := by rw [hspec, replicaCount_sorted hdistinct]
      images := by rw [hspec, containerImages_sorted hdistinct] }

/-- The page's items are the objects of the response. -/
theorem listItems_objects (listed : List K8sObjectJSON) :
    listItems (.ofJVal (objectsJVal listed)) =
      listed.map fun o => Value.ofJVal o.toJVal := by
  have hdata : Value.ofJVal (objectsJVal listed) =
      .object [("items", .array (listed.map fun o => Value.ofJVal o.toJVal))] := by
    rw [objectsJVal, Value.ofJVal, fieldsOf, fieldsOf, Value.ofJVal, valuesOf_eq, List.map_map]
    rfl
  rw [hdata]
  rfl

theorem noKube_eq_false {Atespace Actor : Type} {s : Server Atespace Actor}
    (h : noKube s = false) : ∃ kube, s.kube = .ok kube := by
  unfold noKube at h
  split at h
  · cases h
  · exact ⟨_, ‹_›⟩

/-- The list of a page is written. -/
theorem ResourcePage.query_written {Atespace Actor Worker : Type} (p : ResourcePage)
    {s : Reader Atespace Actor Worker} (hkube : noKube s.toServer = false)
    {items : List Unstructured} (hitems : p.objects s = .ok items) (rfc3339 : String → String) :
    (serveRead rfc3339 s p.query).trace.responses =
      [.ok (.objects (items.map (unstructuredToJSON rfc3339)))] := by
  obtain ⟨kube, hkube⟩ := noKube_eq_false hkube
  cases p with
  | templates =>
    have hitems : s.listActorTemplates = .ok items := hitems
    show (listKube s rfc3339 .listActorTemplates s.listActorTemplates).trace.responses = _
    rw [hitems]
    exact listKube_written hkube rfc3339 _ items
  | pools =>
    have hitems : s.listWorkerPools = .ok items := hitems
    show (listKube s rfc3339 .listWorkerPools s.listWorkerPools).trace.responses = _
    rw [hitems]
    exact listKube_written hkube rfc3339 _ items

/-! ## Dialogs -/

/-- A dialog that creates objects names them. -/
theorem ResourcePage.submitted_filled {p : ResourcePage} {form : Form}
    {req : CreateK8sObjectRequest} (hsubmit : form.submitted = some (p.create req)) :
    form.needsKube = true ∧ req.ns ≠ "" ∧ req.name ≠ "" := by
  cases form with
  | template yaml d =>
    obtain ⟨sent, hsent, heq⟩ := Option.map_eq_some_iff.mp hsubmit
    have hfilled := CreateTemplateDialog.handleSubmit_filled hsent
    cases p with
    | templates =>
      cases heq
      exact ⟨rfl, hfilled.1, hfilled.2.1⟩
    | pools => cases heq
  | pool yaml d =>
    obtain ⟨sent, hsent, heq⟩ := Option.map_eq_some_iff.mp hsubmit
    have hfilled := CreatePoolDialog.handleSubmit_filled hsent
    cases p with
    | templates => cases heq
    | pools =>
      cases heq
      exact ⟨rfl, hfilled.1, hfilled.2.1⟩
  | task space name panel => cases p <;> cases Option.some.inj hsubmit
  | atespace d =>
    obtain ⟨sent, -, heq⟩ := Option.map_eq_some_iff.mp hsubmit
    cases p <;> cases heq
  | actor d =>
    obtain ⟨sent, -, heq⟩ := Option.map_eq_some_iff.mp hsubmit
    cases p <;> cases heq
  | secret d =>
    obtain ⟨sent, -, heq⟩ := Option.map_eq_some_iff.mp hsubmit
    cases p <;> cases heq
  | key d =>
    obtain ⟨sent, -, heq⟩ := Option.map_eq_some_iff.mp hsubmit
    cases p <;> cases heq
  | model d =>
    obtain ⟨sent, -, heq⟩ := Option.map_eq_some_iff.mp hsubmit
    cases p <;> cases heq

/-- The form of a pool shows the replicas that were typed. -/
theorem replicaCount_formRequest {yaml : YamlParser} {d : CreatePoolDialog}
    {req : CreateK8sObjectRequest} (hmode : d.mode = .form)
    (h : (d.handleSubmit yaml).2 = some req) :
    replicaCount ⟨some req.spec.written⟩ = some d.replicaCount := by
  have hvalid : d.replicasValid = true := by
    unfold CreatePoolDialog.handleSubmit at h
    split at h
    · rename_i hcan
      simp only [CreatePoolDialog.canSubmit, hmode, Bool.and_eq_true] at hcan
      exact hcan.2.2
    · cases h
  obtain rfl := (CreatePoolDialog.handleSubmit_filled h).2.2 hmode
  unfold CreatePoolDialog.replicasValid at hvalid
  rw [Bool.and_eq_true] at hvalid
  cases hcount : d.replicaCount with
  | finite x =>
    have hspec : (CreatePoolDialog.formRequest d).spec.written.prop "replicas" =
        some (.number (.finite x)) := by
      rw [written_prop]
      show Option.map Value.written (some (.number d.replicaCount)) = _
      rw [hcount]
      rfl
    unfold replicaCount
    rw [Option.bind_some, hspec]
  | nan =>
    rw [hcount] at hvalid
    cases hvalid.1
  | infinity negative =>
    rw [hcount] at hvalid
    cases hvalid.1

/-- **An object that was created is listed as it was asked for.**  A submitted dialog leads to one
call, which creates the object of its request; to none where there is no Kubernetes client or a
pasted spec is empty.  Whenever the cluster lists objects that keep what they were created with, the
response is parsed to one row for each object, in their order, and the row of such an object shows
what was asked for: for a pool of the form, the replicas that were typed. -/
theorem created_listed {Atespace Actor Worker : Type} (p : ResourcePage)
    (c : Console Atespace Actor Worker) (n : NumberToString) (fmt : NumberFormat)
    (explain : List UInt8 → String) (hdecoders : c.decoders = decoders explain) (form : Form)
    (req : CreateK8sObjectRequest) (hsubmit : form.submitted = some (p.create req))
    (hpasted : form.pasted = true → (p.create req).Wellformed) :
    ((p.create req).specless = true → form.pasted = true) ∧
      (c.performed ((p.create req).request n)).calls.map (·.call) =
        (if noKube c.server.toServer || (p.create req).specless then []
          else [.createObject p.gvr (p.created req)]) ∧
      (∀ (later : Console Atespace Actor Worker) (items : List Unstructured),
        noKube later.server.toServer = false → p.objects later.server = .ok items →
          (∀ o ∈ items, FiniteNums (.obj o)) → ∃ listed data,
            (serveRead later.rfc3339 later.server p.query).trace.responses =
              [.ok (.objects listed)] ∧
            (jsonParse (marshalLine fmt (objectsJVal listed))).map Value.ofJVal = some data ∧
            List.Forall₂ (fun o row => KeepsCreated (p.created req) o → Shows req row) items
              (listItems data)) ∧
      ∀ yaml d, form = .pool yaml d → d.mode = .form →
        replicaCount ⟨some req.spec.written⟩ = some d.replicaCount := by
  obtain ⟨hneeds, hns, hname⟩ := p.submitted_filled hsubmit
  have hwell : (p.create req).Wellformed := by
    cases hform : form.pasted with
    | true => exact hpasted hform
    | false => exact Form.wellformed hsubmit hform
  have hcarried : ∀ v ∈ (p.create req).values, Carried v.2 := by
    cases p <;> exact nofun
  obtain ⟨hempty, r, hmutation, hcalls⟩ :=
    submit_performs c n explain hdecoders form _ hsubmit hcarried hpasted
  refine ⟨hempty, ?_, ?_, ?_⟩
  · rw [hcalls, hneeds, Bool.true_and]
    cases p <;> (obtain rfl := Option.some.inj hmutation; rfl)
  · intro later items hlater hitems hfinite
    obtain ⟨fields, hread⟩ : ∃ fields, req.Readable fields := by
      cases p <;> exact hwell
    refine ⟨_, _, p.query_written hlater hitems later.rfc3339,
      parsed_marshalLine fmt (objectsJVal_finite hfinite), ?_⟩
    rw [listItems_objects, List.map_map, List.forall₂_map_right_iff]
    exact List.forall₂_same.mpr fun o _ hkeeps => shows_of_keeps hread hns hname hkeeps
  · rintro yaml d rfl hmode
    obtain ⟨sent, hsent, heq⟩ := Option.map_eq_some_iff.mp hsubmit
    cases p with
    | templates => cases heq
    | pools =>
      cases heq
      exact replicaCount_formRequest hmode hsent

/-- The form of a pool, filled in. -/
def poolForm : CreatePoolDialog :=
  { ns := "default"
    name := "small"
    labels := [⟨"team", "a"⟩]
    replicas := "3"
    ateomImage := "registry/ateom:v1" }

theorem poolForm_submitted (yaml : YamlParser) : (Form.pool yaml poolForm).submitted =
    some (ResourcePage.pools.create poolForm.formRequest) := by
  have hcan : poolForm.canSubmit = true := by decide +kernel
  have hsent : (poolForm.handleSubmit yaml).2 = some poolForm.formRequest := by
    unfold CreatePoolDialog.handleSubmit
    rw [if_pos hcan]
    rfl
  rw [Form.submitted, hsent]
  rfl

/-- A server with a cluster that holds the pool of the form. -/
def poolConsole : Console Unit Unit Unit :=
  { downConsole with
    server :=
      { downConsole.server with
        kube := .ok
          { createObject := fun _ u => .ok u
            deleteObject := fun _ _ _ => .ok ()
            listSecrets := fun _ => .ok []
            createSecret := .ok
            deleteSecret := fun _ _ => .ok () }
        listWorkerPools := .ok [ResourcePage.pools.created poolForm.formRequest] } }

/-- The pool is created, and listed with what was typed. -/
theorem created_listed_poolForm :
    (poolConsole.performed ((ResourcePage.pools.create poolForm.formRequest).request
        exactDecimal)).calls.map (·.call) =
      [.createObject workerPoolsGVR (ResourcePage.pools.created poolForm.formRequest)] ∧
    ∃ listed data row,
      (serveRead poolConsole.rfc3339 poolConsole.server .listWorkerPools).trace.responses =
        [.ok (.objects listed)] ∧
      (jsonParse (marshalLine exactFormat (objectsJVal listed))).map Value.ofJVal = some data ∧
      listItems data = [row] ∧ Shows poolForm.formRequest row ∧
      replicaCount ⟨row.prop "spec"⟩ = some poolForm.replicaCount := by
  have hfinite : ∀ o ∈ [ResourcePage.pools.created poolForm.formRequest],
      FiniteNums (.obj o) := by
    unfold FiniteNums
    decide +kernel
  obtain ⟨-, hcalls, hlisted, hreplicas⟩ :=
    created_listed .pools poolConsole exactDecimal exactFormat (fun _ => "") rfl
      (.pool CreateTemplateDialog.noYaml poolForm) poolForm.formRequest (poolForm_submitted _) nofun
  obtain ⟨listed, data, hwritten, hparsed, hrows⟩ := hlisted poolConsole _ rfl rfl hfinite
  obtain ⟨row, rest, hrow, hrest, hdata⟩ := List.forall₂_cons_left_iff.mp hrows
  rw [List.forall₂_nil_left_iff] at hrest
  have hshows := hrow ⟨rfl, rfl, rfl, rfl⟩
  refine ⟨hcalls, listed, data, row, hwritten, hparsed, by rw [hdata, hrest], hshows, ?_⟩
  rw [hshows.replicas]
  exact hreplicas _ _ rfl rfl

end Frontend
