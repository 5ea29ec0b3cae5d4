import SubstrateControl.Frontend.ApiClient
import SubstrateControl.Frontend.CreateAtespaceDialog
import SubstrateControl.Frontend.CreatePoolDialog
import SubstrateControl.Frontend.CreateTemplateDialog

/-!
# What the forms submit

Each form of the console checks its fields before it sends them; the server checks them again.

* `Form`, `Form.submitted` — the forms, and the call that a submit makes.
* `Form.wellformed` — what a form builds is read as it was meant; a pasted spec need not be.
* `submit_performs` — the server rejects no submit but for want of a Kubernetes client or for a
  pasted spec without properties, and makes the call of any other.
-/

set_option autoImplicit false

namespace Frontend

open Api Go Js Kit

/-! ## Forms -/

/-- A form of the console, when it is submitted. -/
inductive Form where
  | atespace (d : CreateAtespaceDialog)
  | actor (d : CreateActorDialog)
  | template (yaml : YamlParser) (d : CreateTemplateDialog)
  | pool (yaml : YamlParser) (d : CreatePoolDialog)
  | secret (d : CreateSecretDialog)
  | key (d : GenerateKeyDialog)
  | model (d : RegisterModelDialog)
  /-- The task panel of an actor. -/
  | task (atespace name : String) (p : ActorTaskPanel)

namespace Form

/-- The call that a submit makes. -/
def submitted : Form → Option ApiFunction
  | .atespace d => d.handleSubmit.2.map .createAtespace
  | .actor d => d.handleSubmit.2.map .createActor
  | .template yaml d => (d.handleSubmit yaml).2.map .createActorTemplate
  | .pool yaml d => (d.handleSubmit yaml).2.map .createWorkerPool
  | .secret d => d.handleSubmit.2.map .createSecret
  | .key d => d.handleGenerate.map .generateGatewayKey
  | .model d => d.handleSubmit.map .registerGatewayModel
  | .task space name p => some (.proxyActorRequest space name p.request)

/-- The spec of the request was pasted as YAML. -/
def pasted : Form → Bool
  | .template _ d => d.mode = .yaml
  | .pool _ d => d.mode = .yaml
  | _ => false

/-- The form needs the server's Kubernetes client. -/
def needsKube : Form → Bool
  | .template _ _ | .pool _ _ | .secret _ => true
  | _ => false

end Form

/-- The request has a spec without properties. -/
def ApiFunction.specless : ApiFunction → Bool
  | .createActorTemplate req => (specRead req.spec).isEmpty
  | .createWorkerPool req => (specRead req.spec).isEmpty
  | _ => false

/-! ## What a submit sends -/

theorem CreateAtespaceDialog.handleSubmit_some {d : CreateAtespaceDialog} {name : String}
    (h : d.handleSubmit.2 = some name) : name ≠ "" := by
  unfold handleSubmit at h
  split at h
  · rename_i hcan
    obtain rfl := Option.some.inj h
    simp only [canSubmit, Bool.and_eq_true, bne_iff_ne] at hcan
    exact hcan.1
  · cases h

theorem CreateActorDialog.handleSubmit_filled {d : CreateActorDialog} {req : CreateActorRequest}
    (h : d.handleSubmit.2 = some req) :
    req = d.formRequest ∧ req.atespace ≠ "" ∧ req.name ≠ "" := by
  unfold handleSubmit at h
  split at h
  · rename_i hcan
    obtain rfl := Option.some.inj h
    simp only [canSubmit, Bool.and_eq_true, bne_iff_ne] at hcan
    exact ⟨rfl, hcan.1.1.1.1, hcan.1.1.1.2⟩
  · cases h

theorem CreateSecretDialog.handleSubmit_filled {d : CreateSecretDialog}
    {req : CreateSecretRequest} (h : d.handleSubmit.2 = some req) :
    req = d.formRequest ∧ req.ns ≠ "" ∧ req.name ≠ "" ∧ req.data ≠ [] := by
  unfold handleSubmit at h
  split at h
  · rename_i hcan
    obtain rfl := Option.some.inj h
    simp only [canSubmit, Bool.and_eq_true, bne_iff_ne, decide_eq_true_eq] at hcan
    refine ⟨rfl, hcan.1.1.1, hcan.1.1.2, fromEntries_ne_nil ?_⟩
    rw [ne_eq, List.map_eq_nil_iff]
    exact List.ne_nil_of_length_pos hcan.1.2
  · cases h

theorem GenerateKeyDialog.handleGenerate_filled {d : GenerateKeyDialog}
    {req : GenerateKeyRequest} (h : d.handleGenerate = some req) : req.keyAlias ≠ "" := by
  unfold handleGenerate at h
  split at h
  · rename_i hcan
    obtain rfl := Option.some.inj h
    simp only [canGenerate, Bool.and_eq_true, bne_iff_ne] at hcan
    exact hcan.1.1
  · cases h

theorem RegisterModelDialog.handleSubmit_filled {d : RegisterModelDialog}
    {req : RegisterModelRequest} (h : d.handleSubmit = some req) :
    req.modelName ≠ "" ∧ req.model ≠ "" ∧ req.apiKey ≠ "" := by
  unfold handleSubmit at h
  split at h
  · rename_i hcan
    obtain rfl := Option.some.inj h
    simp only [canSubmit, Bool.and_eq_true, bne_iff_ne] at hcan
    exact ⟨hcan.1.1.1.1, hcan.1.1.1.2, hcan.1.1.2⟩
  · cases h

/-- A request of the task panel is GET or POST, and its path starts with a slash. -/
theorem ActorTaskPanel.request_filled (p : ActorTaskPanel) : p.request.sent.lacks = false := by
  have hmethod : ¬ (p.method.text ≠ "GET" ∧ p.method.text ≠ "POST") := by
    cases p.method <;> decide
  have hpath : hasPrefix (normalizedPath p.path) "/" = true := by
    unfold normalizedPath hasPrefix
    dsimp only
    split
    · decide
    · split
      · assumption
      · rw [String.toList_append, List.isPrefixOf_iff_prefix]
        exact List.prefix_append _ _
  show (decide (p.method.text ≠ "GET" ∧ p.method.text ≠ "POST") ||
    decide (hasPrefix (normalizedPath p.path) "/" = false)) = false
  rw [decide_eq_false hmethod, hpath]
  rfl

/-- The names of a pasted manifest, or of the fields above it, are filled in. -/
theorem resolveNames_filled {parsed : ParsedManifest} {ns name : String} {names : String × String}
    (h : resolveNames parsed ns name = .ok names) : names.1 ≠ "" ∧ names.2 ≠ "" := by
  unfold resolveNames at h
  dsimp only at h
  split at h
  · cases h
  · rename_i hfilled
    cases h
    exact not_or.mp hfilled

/-- What the YAML tabs send has the names that were resolved. -/
theorem yamlRequest_filled {parsed : Except String ParsedManifest} {ns name : String}
    {f : ParsedManifest → Option (List (String × String))} {req : CreateK8sObjectRequest}
    (h : (do
      let parsed ← parsed
      let names ← resolveNames parsed ns name
      return { ns := names.1, name := names.2, labels := f parsed, spec := parsed.spec } :
        Except String CreateK8sObjectRequest) = .ok req) : req.ns ≠ "" ∧ req.name ≠ "" := by
  cases parsed with
  | error e => cases h
  | ok parsed =>
    cases hnames : resolveNames parsed ns name with
    | error e =>
      simp only [bind, Except.bind, hnames] at h
      cases h
    | ok names =>
      simp only [bind, Except.bind, hnames] at h
      cases h
      exact resolveNames_filled hnames

theorem CreatePoolDialog.handleSubmit_filled {yaml : YamlParser} {d : CreatePoolDialog}
    {req : CreateK8sObjectRequest} (h : (d.handleSubmit yaml).2 = some req) :
    req.ns ≠ "" ∧ req.name ≠ "" ∧ (d.mode = .form → req = d.formRequest) := by
  unfold handleSubmit at h
  split at h
  · rename_i hcan
    simp only [canSubmit, Bool.and_eq_true, bne_iff_ne] at hcan
    cases hmode : d.mode with
    | form =>
      rw [hmode] at h
      obtain rfl := Option.some.inj h
      exact ⟨hcan.1.1.2, hcan.1.2, fun _ => rfl⟩
    | yaml =>
      rw [hmode] at h
      cases hrequest : d.yamlRequest yaml with
      | error message =>
        rw [hrequest] at h
        cases h
      | ok sent =>
        rw [hrequest] at h
        obtain rfl := Option.some.inj h
        obtain ⟨hns, hname⟩ := yamlRequest_filled (f := fun parsed => parsed.labels) hrequest
        exact ⟨hns, hname, nofun⟩
  · cases h

theorem CreateTemplateDialog.handleSubmit_filled {yaml : YamlParser} {d : CreateTemplateDialog}
    {req : CreateK8sObjectRequest} (h : (d.handleSubmit yaml).2 = some req) :
    req.ns ≠ "" ∧ req.name ≠ "" ∧ (d.mode = .form → req = d.formRequest) := by
  unfold handleSubmit at h
  split at h
  · rename_i hcan
    simp only [canSubmit, Bool.and_eq_true, bne_iff_ne] at hcan
    cases hmode : d.mode with
    | form =>
      rw [hmode] at h
      obtain rfl := Option.some.inj h
      exact ⟨hcan.1.1.2, hcan.1.2, fun _ => rfl⟩
    | yaml =>
      rw [hmode] at h
      cases hrequest : d.yamlRequest yaml with
      | error message =>
        rw [hrequest] at h
        cases h
      | ok sent =>
        rw [hrequest] at h
        obtain rfl := Option.some.inj h
        obtain ⟨hns, hname⟩ := yamlRequest_filled (f := fun _ => none) hrequest
        exact ⟨hns, hname, nofun⟩
  · cases h

/-! ## What the forms build -/

theorem tidy_stringRecord {m : List (String × String)} (h : (m.map Prod.fst).Nodup) :
    Tidy 1 (stringRecord m) := by
  apply tidy_object
  · rw [List.map_map]
    exact h
  · intro kv hkv
    obtain ⟨e, -, rfl⟩ := List.mem_map.mp hkv
    exact tidy_string 0 e.2

theorem nodup_labelRecord (rows : List LabelRow) : ((labelRecord rows).map Prod.fst).Nodup :=
  nodup_fromEntries _

theorem keys_filledIn (key text : String) : ((filledIn key text).map Prod.fst).Sublist [key] :=
  keys_optional _ _

/-- A quantity record of the pool form. -/
theorem tidy_quantities (cpu memory : String) :
    Tidy 1 (stringRecord (filledIn "cpu" cpu ++ filledIn "memory" memory)) := by
  apply tidy_stringRecord
  rw [List.map_append]
  exact ((keys_filledIn "cpu" cpu).append (keys_filledIn "memory" memory)).nodup (by decide)

theorem CreatePoolDialog.tidy_templateSpec (d : CreatePoolDialog) :
    Tidy 3 (.object d.templateSpec) := by
  have hkeys : (d.templateSpec.map Prod.fst).Sublist ["resources", "nodeSelector"] := by
    unfold templateSpec
    rw [List.map_append]
    exact (keys_optional _ _).append (keys_optional _ _)
  refine tidy_object (hkeys.nodup (by decide)) ?_
  unfold templateSpec
  rw [List.forall_mem_append]
  refine ⟨forall_mem_optional (tidy_object ?_ ?_), forall_mem_optional ?_⟩
  · rw [List.map_append]
    exact ((keys_optional _ _).append (keys_optional _ _)).nodup (by simp)
  · rw [List.forall_mem_append]
    exact ⟨forall_mem_optional (tidy_quantities _ _), forall_mem_optional (tidy_quantities _ _)⟩
  · exact (tidy_stringRecord (nodup_labelRecord _)).mono (by omega)

theorem CreatePoolDialog.tidy_buildFormSpec (d : CreatePoolDialog) :
    Tidy 4 (.object d.buildFormSpec) := by
  have hkeys : (d.buildFormSpec.map Prod.fst).Sublist
      ["ateomImage", "replicas", "sandboxClass", "sandboxConfigName", "template"] := by
    have hfilled : ∀ key text, (((filledIn key text).map fun e => (e.1, Value.string e.2)).map
        Prod.fst).Sublist [key] := by
      intro key text
      rw [List.map_map]
      exact keys_filledIn key text
    unfold buildFormSpec
    rw [List.map_append, List.map_append, List.map_append]
    exact (((List.Sublist.refl ["ateomImage", "replicas"]).append (hfilled _ _)).append
      (hfilled _ _)).append (keys_optional _ _)
  have hfilled : ∀ key text, ∀ kv ∈ (filledIn key text).map fun e => (e.1, Value.string e.2),
      Tidy 3 kv.2 := by
    intro key text kv hkv
    obtain ⟨e, -, rfl⟩ := List.mem_map.mp hkv
    exact tidy_string 3 e.2
  refine tidy_object (hkeys.nodup (by decide)) ?_
  unfold buildFormSpec
  rw [List.forall_mem_append, List.forall_mem_append, List.forall_mem_append]
  refine ⟨⟨⟨?_, hfilled _ _⟩, hfilled _ _⟩, forall_mem_optional d.tidy_templateSpec⟩
  rw [List.forall_mem_cons, List.forall_mem_singleton]
  exact ⟨tidy_string 3 _, tidy_number 3 _⟩

theorem tidy_envValue (row : EnvRow) : Tidy 3 (CreateTemplateDialog.envValue row) := by
  unfold CreateTemplateDialog.envValue
  split
  · refine tidy_object (by simp) ?_
    rw [List.forall_mem_cons, List.forall_mem_singleton]
    exact ⟨tidy_string 2 _, tidy_string 2 _⟩
  · refine tidy_object (by simp) ?_
    rw [List.forall_mem_cons, List.forall_mem_singleton]
    refine ⟨tidy_string 2 _, tidy_object (by simp) ?_⟩
    rw [List.forall_mem_singleton]
    exact tidy_stringRecord (by simp)

theorem tidy_volumeValue (row : VolumeRow) : Tidy 2 (CreateTemplateDialog.volumeValue row) := by
  unfold CreateTemplateDialog.volumeValue
  split
  · refine tidy_object (by simp) ?_
    rw [List.forall_mem_cons, List.forall_mem_singleton]
    exact ⟨tidy_string 1 _, tidy_object List.nodup_nil nofun⟩
  · refine tidy_object (by simp) ?_
    rw [List.forall_mem_singleton]
    exact tidy_string 1 _

theorem CreateTemplateDialog.tidy_container (d : CreateTemplateDialog) :
    Tidy 5 (.object d.container) := by
  have hkeys : (d.container.map Prod.fst).Sublist
      ["name", "image", "command", "readyz", "env"] := by
    unfold container
    rw [List.map_append, List.map_append, List.map_append]
    exact (((List.Sublist.refl ["name", "image"]).append (keys_optional _ _)).append
      (keys_optional _ _)).append (keys_optional _ _)
  refine tidy_object (hkeys.nodup (by decide)) ?_
  unfold container
  rw [List.forall_mem_append, List.forall_mem_append, List.forall_mem_append]
  refine ⟨⟨⟨?_, forall_mem_optional (tidy_array ?_)⟩, forall_mem_optional ?_⟩,
    forall_mem_optional (tidy_array ?_)⟩
  · rw [List.forall_mem_cons, List.forall_mem_singleton]
    exact ⟨tidy_string 4 _, tidy_string 4 _⟩
  · intro v hv
    obtain ⟨text, -, rfl⟩ := List.mem_map.mp hv
    exact tidy_string 3 text
  · refine (tidy_object (by simp) ?_ : Tidy 2 _).mono (by omega)
    rw [List.forall_mem_singleton]
    refine tidy_object (by simp) ?_
    rw [List.forall_mem_cons, List.forall_mem_singleton]
    exact ⟨tidy_string 0 _, tidy_number 0 _⟩
  · intro v hv
    obtain ⟨row, -, rfl⟩ := List.mem_map.mp hv
    exact tidy_envValue row

theorem CreateTemplateDialog.tidy_buildFormSpec (d : CreateTemplateDialog) :
    Tidy 7 (.object d.buildFormSpec) := by
  have hkeys : (d.buildFormSpec.map Prod.fst).Sublist ["pauseImage", "snapshotsConfig",
      "sandboxClass", "containers", "workerSelector", "volumes"] := by
    unfold buildFormSpec
    rw [List.map_append, List.map_append, List.map_append, List.map_append]
    exact ((((List.Sublist.refl ["pauseImage", "snapshotsConfig"]).append
      (keys_optional _ _)).append (keys_optional _ _)).append (keys_optional _ _)).append
      (keys_optional _ _)
  refine tidy_object (hkeys.nodup (by decide)) ?_
  unfold buildFormSpec
  rw [List.forall_mem_append, List.forall_mem_append, List.forall_mem_append,
    List.forall_mem_append]
  refine ⟨⟨⟨⟨?_, forall_mem_optional (tidy_string 6 _)⟩,
    forall_mem_optional (tidy_array ?_)⟩, forall_mem_optional ?_⟩, forall_mem_optional ?_⟩
  · rw [List.forall_mem_cons, List.forall_mem_singleton]
    exact ⟨tidy_string 6 _, (tidy_stringRecord (by simp)).mono (by omega)⟩
  · rw [List.forall_mem_singleton]
    exact d.tidy_container
  · refine (tidy_object (by simp) ?_ : Tidy 2 _).mono (by omega)
    rw [List.forall_mem_singleton]
    exact tidy_stringRecord (nodup_labelRecord _)
  · refine (tidy_array ?_ : Tidy 3 _).mono (by omega)
    intro v hv
    obtain ⟨row, -, rfl⟩ := List.mem_map.mp hv
    exact tidy_volumeValue row

/-! ## What is read of a submit -/

/-- A form's spec is read as it was built. -/
theorem readable_of_tidy {req : CreateK8sObjectRequest} {spec : List (String × Value)}
    (hspec : req.spec = .object spec) (htidy : Tidy 7 (.object spec))
    (hlabels : ∀ labels, req.labels = some labels → (labels.map Prod.fst).Nodup) :
    req.Readable spec where
  spec := hspec
  distinct := htidy.distinct
  labels := hlabels
  depth := by
    obtain ⟨ns, name, labels, _⟩ := req
    obtain rfl := hspec
    have hdepth : (Value.object spec).depth ≤ 7 := htidy.shallow
    cases labels with
    | none =>
      simp only [CreateK8sObjectRequest.toValue, Option.map_none, Option.toList_none,
        List.append_nil, List.cons_append, List.nil_append, Value.depth, Js.fieldsDepth,
        maxNestingDepth] at hdepth ⊢
      omega
    | some labels =>
      simp only [CreateK8sObjectRequest.toValue, Option.map_some, Option.toList_some,
        List.cons_append, List.nil_append, depth_stringRecord, Value.depth, Js.fieldsDepth,
        maxNestingDepth] at hdepth ⊢
      omega

theorem Form.template_mode {yaml : YamlParser} {d : CreateTemplateDialog}
    (h : (Form.template yaml d).pasted = false) : d.mode = .form := by
  cases hmode : d.mode with
  | form => rfl
  | yaml => simp [Form.pasted, hmode] at h

theorem Form.pool_mode {yaml : YamlParser} {d : CreatePoolDialog}
    (h : (Form.pool yaml d).pasted = false) : d.mode = .form := by
  cases hmode : d.mode with
  | form => rfl
  | yaml => simp [Form.pasted, hmode] at h

/-- The dialog gives no other parameters. -/
theorem RegisterModelDialog.readable_request {d : RegisterModelDialog} {req : RegisterModelRequest}
    (h : d.handleSubmit = some req) : req.Readable := by
  unfold handleSubmit at h
  split at h
  · obtain rfl := Option.some.inj h
    refine ⟨nofun, ?_⟩
    split <;> simp [RegisterModelRequest.toValue, Value.depth, Js.fieldsDepth, maxNestingDepth]
  · cases h

/-- **What a form builds is read as it was meant.**  A pasted spec need not be. -/
theorem Form.wellformed {form : Form} {f : ApiFunction} (hsubmit : form.submitted = some f)
    (hpasted : form.pasted = false) : f.Wellformed := by
  cases form with
  | atespace d =>
    obtain ⟨name, -, rfl⟩ := Option.map_eq_some_iff.mp hsubmit
    trivial
  | actor d =>
    obtain ⟨req, hreq, rfl⟩ := Option.map_eq_some_iff.mp hsubmit
    obtain ⟨rfl, -, -⟩ := CreateActorDialog.handleSubmit_filled hreq
    intro selector labels hselector hlabels
    unfold CreateActorDialog.formRequest at hselector
    dsimp only at hselector
    split at hselector
    · obtain rfl := Option.some.inj hselector
      cases hlabels
      exact nodup_labelRecord _
    · cases hselector
  | template yaml d =>
    obtain ⟨req, hreq, rfl⟩ := Option.map_eq_some_iff.mp hsubmit
    obtain rfl := (CreateTemplateDialog.handleSubmit_filled hreq).2.2 (Form.template_mode hpasted)
    exact ⟨_, readable_of_tidy rfl d.tidy_buildFormSpec nofun⟩
  | pool yaml d =>
    obtain ⟨req, hreq, rfl⟩ := Option.map_eq_some_iff.mp hsubmit
    obtain rfl := (CreatePoolDialog.handleSubmit_filled hreq).2.2 (Form.pool_mode hpasted)
    refine ⟨_, readable_of_tidy rfl (d.tidy_buildFormSpec.mono (by omega)) ?_⟩
    intro labels hlabels
    unfold CreatePoolDialog.formRequest at hlabels
    dsimp only at hlabels
    split at hlabels
    · obtain rfl := Option.some.inj hlabels
      exact nodup_labelRecord _
    · cases hlabels
  | secret d =>
    obtain ⟨req, hreq, rfl⟩ := Option.map_eq_some_iff.mp hsubmit
    obtain ⟨rfl, -, -, -⟩ := CreateSecretDialog.handleSubmit_filled hreq
    exact nodup_fromEntries _
  | key d =>
    obtain ⟨req, -, rfl⟩ := Option.map_eq_some_iff.mp hsubmit
    trivial
  | model d =>
    obtain ⟨req, hreq, rfl⟩ := Option.map_eq_some_iff.mp hsubmit
    exact d.readable_request hreq
  | task space name p =>
    obtain rfl := Option.some.inj hsubmit
    trivial

theorem k8sObject_lacks {req : CreateK8sObjectRequest} (hns : req.ns ≠ "") (hname : req.name ≠ "") :
    (Api.CreateK8sObjectRequest.mk req.ns req.name req.labels
      (ApiFunction.specRead req.spec)).lacks =
      (ApiFunction.specRead req.spec).isEmpty := by
  show decide (req.ns = "" ∨ req.name = "" ∨ (ApiFunction.specRead req.spec).length = 0) = _
  rw [Bool.eq_iff_iff, decide_eq_true_eq, List.isEmpty_iff, List.length_eq_zero_iff]
  simp [hns, hname]

/-- A form's spec has properties. -/
theorem Form.specless {form : Form} {f : ApiFunction} (hsubmit : form.submitted = some f)
    (hpasted : form.pasted = false) : f.specless = false := by
  cases form with
  | template yaml d =>
    obtain ⟨req, hreq, rfl⟩ := Option.map_eq_some_iff.mp hsubmit
    obtain rfl := (CreateTemplateDialog.handleSubmit_filled hreq).2.2 (Form.template_mode hpasted)
    rfl
  | pool yaml d =>
    obtain ⟨req, hreq, rfl⟩ := Option.map_eq_some_iff.mp hsubmit
    obtain rfl := (CreatePoolDialog.handleSubmit_filled hreq).2.2 (Form.pool_mode hpasted)
    rfl
  | task space name p =>
    obtain rfl := Option.some.inj hsubmit
    rfl
  | _ =>
    obtain ⟨req, -, rfl⟩ := Option.map_eq_some_iff.mp hsubmit
    rfl

/-- **No submit is rejected** but for want of a Kubernetes client, or of a spec. -/
theorem Form.rejected {Atespace Actor : Type} (s : Server Atespace Actor) {form : Form}
    {f : ApiFunction} (hsubmit : form.submitted = some f) :
    ∃ r, f.mutation = some r ∧ r.rejected s = (form.needsKube && noKube s || f.specless) := by
  cases form with
  | atespace d =>
    obtain ⟨name, hname, rfl⟩ := Option.map_eq_some_iff.mp hsubmit
    refine ⟨_, rfl, decide_eq_false ?_⟩
    exact CreateAtespaceDialog.handleSubmit_some hname
  | actor d =>
    obtain ⟨req, hreq, rfl⟩ := Option.map_eq_some_iff.mp hsubmit
    obtain ⟨-, hspace, hname⟩ := CreateActorDialog.handleSubmit_filled hreq
    exact ⟨_, rfl, decide_eq_false (not_or.mpr ⟨hspace, hname⟩)⟩
  | template yaml d =>
    obtain ⟨req, hreq, rfl⟩ := Option.map_eq_some_iff.mp hsubmit
    obtain ⟨hns, hname, -⟩ := CreateTemplateDialog.handleSubmit_filled hreq
    exact ⟨_, rfl, congrArg (noKube s || ·) (k8sObject_lacks hns hname)⟩
  | pool yaml d =>
    obtain ⟨req, hreq, rfl⟩ := Option.map_eq_some_iff.mp hsubmit
    obtain ⟨hns, hname, -⟩ := CreatePoolDialog.handleSubmit_filled hreq
    exact ⟨_, rfl, congrArg (noKube s || ·) (k8sObject_lacks hns hname)⟩
  | secret d =>
    obtain ⟨req, hreq, rfl⟩ := Option.map_eq_some_iff.mp hsubmit
    obtain ⟨-, hns, hname, hdata⟩ := CreateSecretDialog.handleSubmit_filled hreq
    have hlacks : req.sent.lacks = false := by
      refine decide_eq_false (not_or.mpr ⟨hns, not_or.mpr ⟨hname, ?_⟩⟩)
      exact fun hlength => hdata (List.length_eq_zero_iff.mp hlength)
    exact ⟨_, rfl, congrArg (noKube s || ·) hlacks⟩
  | key d =>
    obtain ⟨req, hreq, rfl⟩ := Option.map_eq_some_iff.mp hsubmit
    refine ⟨_, rfl, decide_eq_false ?_⟩
    exact GenerateKeyDialog.handleGenerate_filled hreq
  | model d =>
    obtain ⟨req, hreq, rfl⟩ := Option.map_eq_some_iff.mp hsubmit
    obtain ⟨hmodelName, hmodel, hapiKey⟩ := RegisterModelDialog.handleSubmit_filled hreq
    exact ⟨_, rfl, decide_eq_false (not_or.mpr ⟨hmodelName, not_or.mpr ⟨hmodel, hapiKey⟩⟩)⟩
  | task space name p =>
    obtain rfl := Option.some.inj hsubmit
    exact ⟨_, rfl, p.request_filled⟩

/-- **The server makes the call that a form was submitted for.**  It makes none where the form needs
a Kubernetes client that is not there, and where a pasted spec has no properties. -/
theorem submit_performs {Atespace Actor Worker : Type}
    (c : Console Atespace Actor Worker) (n : NumberToString)
    (explain : List UInt8 → String) (hdecoders : c.decoders = decoders explain) (form : Form)
    (f : ApiFunction) (hsubmit : form.submitted = some f)
    (hcarried : ∀ v ∈ f.values, Carried v.2) (hpasted : form.pasted = true → f.Wellformed) :
    (f.specless = true → form.pasted = true) ∧
    ∃ r, f.mutation = some r ∧ (c.performed (f.request n)).calls.map (·.call) =
      if form.needsKube && noKube c.server.toServer || f.specless then [] else [r.call] := by
  obtain ⟨r, hmutation, hrejected⟩ := form.rejected c.server.toServer hsubmit
  have hspecless : f.specless = true → form.pasted = true := by
    intro hspecless
    by_contra hform
    rw [Form.specless hsubmit (Bool.eq_false_iff.mpr hform)] at hspecless
    cases hspecless
  have hwell : f.Wellformed := by
    cases hform : form.pasted with
    | true => exact hpasted hform
    | false => exact Form.wellformed hsubmit hform
  have hasked : c.asked (f.request n) = some r := by
    rw [← hmutation]
    exact ApiFunction.asked_request c n explain hdecoders hcarried hwell
  refine ⟨hspecless, r, hmutation, ?_⟩
  rw [c.performed_asked hasked, serve_calls, hrejected]

/-- The form of an actor, with two rows for one label. -/
def actorForm : CreateActorDialog :=
  { atespaces := ["default"], atespace := "default", name := " counter ", template := "demo/count",
    labels := [⟨"gpu", "t4"⟩, ⟨" gpu", "a100"⟩] }

/-- The request of the form. -/
def actorRequest : CreateActorRequest :=
  ⟨"default", "counter", "demo", "count", some ⟨some (some [("gpu", "a100")])⟩⟩

theorem actorForm_submitted :
    (Form.actor actorForm).submitted = some (.createActor actorRequest) := by
  have hsent : actorForm.handleSubmit.2 = some actorRequest := by
    decide +kernel
  rw [Form.submitted, hsent]
  rfl

/-- The later row counts, and the actor is created with it. -/
theorem submit_performs_actorForm :
    ∃ r, (ApiFunction.createActor actorRequest).mutation = some r ∧
      (downConsole.performed ((ApiFunction.createActor actorRequest).request
        exactDecimal)).calls.map (·.call) = [r.call] :=
  (submit_performs downConsole exactDecimal (fun _ => "") rfl (.actor actorForm) _
    actorForm_submitted nofun nofun).2

end Frontend
