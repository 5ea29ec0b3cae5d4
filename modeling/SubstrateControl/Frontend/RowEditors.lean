import SubstrateControl.Frontend.CreateActorDialog
import SubstrateControl.Frontend.CreatePoolDialog
import SubstrateControl.Frontend.CreateSecretDialog
import SubstrateControl.Frontend.CreateTemplateDialog

/-!
# Rows of keys and values

Five editors of rows turn them into a map when their form is submitted.

* `Submission` — the rows of an editor, as they would be sent, and the map that a submit sends.
* `Submission.entry` — what every editor sends: the rows whose key and value are filled in.
* `RowsKept` — every row with a key is sent under it, no two rows share a key, and no value stands
  without one.
* `rows_kept_iff` — that is so exactly when every row has both a key and a value, or neither, and no
  key occurs twice: no form looks at its rows before it is submitted.
-/

set_option autoImplicit false

namespace Frontend

open Js Go

/-! ## Objects from entries -/

theorem mem_mapSet {α : Type} {m : List (String × α)} {k : String} {v : α} {e : String × α}
    (h : e ∈ mapSet m k v) : e ∈ m ∨ e = (k, v) := by
  unfold mapSet at h
  split at h
  · obtain ⟨kv, hkv, rfl⟩ := List.mem_map.mp h
    split
    · exact .inr rfl
    · exact .inl hkv
  · rcases List.mem_append.mp h with h | h
    · exact .inl h
    · exact .inr (List.mem_singleton.mp h)

/-- An object holds nothing but its entries. -/
theorem mem_fromEntries {α : Type} {es : List (String × α)} {e : String × α}
    (h : e ∈ fromEntries es) : e ∈ es := by
  have hfold : ∀ (es m : List (String × α)),
      e ∈ es.foldl (fun m e => mapSet m e.1 e.2) m → e ∈ m ∨ e ∈ es := by
    intro es
    induction es with
    | nil => exact fun m h => .inl h
    | cons x es ih =>
      intro m h
      rcases ih _ h with h | h
      · rcases mem_mapSet h with h | h
        · exact .inl h
        · exact .inr (List.mem_cons.mpr (.inl h))
      · exact .inr (List.mem_cons_of_mem x h)
  simpa using hfold es [] h

/-! ## What is sent of rows -/

/-- The entries of rows that are sent: those whose key and value are filled in. -/
def filledEntries (rows : List (String × String)) : List (String × String) :=
  rows.filter fun e => e.1 ≠ "" ∧ e.2 ≠ ""

/-- Every row with a key has its entry in the map that is sent, no two rows share a key, and there
is no row that cannot be sent, a value without a key.  A map that is not sent has no entries. -/
structure RowsKept (rows : List (String × String)) (sent : Option Value) : Prop where
  entry : ∀ e ∈ rows, e.1 ≠ "" → sent.bind (·.prop e.1) = some (.string e.2)
  nodup : ((rows.filter fun e => e.1 ≠ "").map (·.1)).Nodup
  sendable : ∀ e ∈ rows, e.1 = "" → e.2 = ""

/-- Every row has both a key and a value or neither, and no key occurs twice. -/
structure RowsComplete (rows : List (String × String)) : Prop where
  filled : ∀ e ∈ rows, e.1 = "" ↔ e.2 = ""
  nodup : ((rows.filter fun e => e.1 ≠ "").map (·.1)).Nodup

theorem filledEntries_of_complete {rows : List (String × String)} (h : RowsComplete rows) :
    filledEntries rows = rows.filter fun e => e.1 ≠ "" := by
  refine List.filter_congr fun e he => ?_
  have hfilled := h.filled e he
  by_cases hkey : e.1 = ""
  · simp [hkey]
  · simp [hkey, mt hfilled.mpr hkey]

/-- **What the filled entries keep.** -/
theorem rowsKept_iff {rows : List (String × String)} {sent : Option Value}
    (hsent : ∀ key, sent.bind (·.prop key) =
      ((fromEntries (filledEntries rows)).lookup key).map .string) :
    RowsKept rows sent ↔ RowsComplete rows := by
  constructor
  · intro h
    refine ⟨fun e he => ⟨h.sendable e he, fun hvalue => ?_⟩, h.nodup⟩
    by_contra hkey
    have hentry := h.entry e he hkey
    rw [hsent, Option.map_eq_some_iff] at hentry
    obtain ⟨v, hlookup, hv⟩ := hentry
    cases hv
    obtain ⟨l₁, l₂, hsplit, -⟩ := List.lookup_eq_some_iff.mp hlookup
    have hmem : (e.1, e.2) ∈ fromEntries (filledEntries rows) := by
      rw [hsplit]
      simp
    -- an entry that is sent has a value
    have hfilled := (List.mem_filter.mp (mem_fromEntries hmem)).2
    simp [hvalue] at hfilled
  · intro hcomplete
    refine ⟨fun e he hkey => ?_, hcomplete.nodup, fun e he => (hcomplete.filled e he).mp⟩
    have hmem : e ∈ rows.filter fun e => e.1 ≠ "" := List.mem_filter.mpr ⟨he, by simpa using hkey⟩
    rw [hsent, filledEntries_of_complete hcomplete, fromEntries_eq hcomplete.nodup,
      lookup_of_mem hcomplete.nodup hmem]
    rfl

/-! ## The editors -/

/-- `value?.k₁?.k₂` and so on. -/
def path (v : Value) (keys : List String) : Option Value :=
  keys.foldl (fun v key => v.bind (·.prop key)) (some v)

theorem path_one (v : Value) (a : String) : path v [a] = v.prop a := rfl

theorem path_three (v : Value) (a b c : String) :
    path v [a, b, c] = ((v.prop a).bind (·.prop b)).bind (·.prop c) := rfl

theorem written_path (v : Value) (keys : List String) :
    path v.written keys = (path v keys).map Value.written := by
  have hfold : ∀ v : Option Value,
      keys.foldl (fun v key => v.bind (·.prop key)) (v.map Value.written) =
        (keys.foldl (fun v key => v.bind (·.prop key)) v).map Value.written := by
    induction keys with
    | nil => exact fun v => rfl
    | cons key keys ih =>
      intro v
      have hkey : (v.map Value.written).bind (·.prop key) =
          (v.bind (·.prop key)).map Value.written := by
        cases v with
        | none => rfl
        | some v => exact written_prop v key
      rw [List.foldl_cons, List.foldl_cons, hkey, ih]
  exact hfold (some v)

/-- The rows of labels and selectors, which are sent trimmed. -/
def trimmedRows (rows : List LabelRow) : List (String × String) :=
  rows.map fun row => (trim row.key, trim row.value)

/-- The rows of an editor, as they would be sent, and the map that a submit of its form sends for
them, as JSON carries it. -/
inductive Submission : List (String × String) → Option Value → Prop where
  /-- The worker selector of `CreateActorDialog`. -/
  | actorLabels {d d' : CreateActorDialog} {req : CreateActorRequest} :
      d.handleSubmit = (d', some req) →
      Submission (trimmedRows d.labels) (path req.toValue.written ["workerSelector", "matchLabels"])
  /-- The worker selector of `CreateTemplateDialog`. -/
  | templateLabels {yaml : YamlParser} {d d' : CreateTemplateDialog}
      {req : CreateK8sObjectRequest} :
      d.mode = .form → d.handleSubmit yaml = (d', some req) →
      Submission (trimmedRows d.labels)
        (path req.toValue.written ["spec", "workerSelector", "matchLabels"])
  /-- The metadata labels of `CreatePoolDialog`. -/
  | poolLabels {yaml : YamlParser} {d d' : CreatePoolDialog} {req : CreateK8sObjectRequest} :
      d.mode = .form → d.handleSubmit yaml = (d', some req) →
      Submission (trimmedRows d.labels) (path req.toValue.written ["labels"])
  /-- The node selector of `CreatePoolDialog`. -/
  | poolNodeSelector {yaml : YamlParser} {d d' : CreatePoolDialog} {req : CreateK8sObjectRequest} :
      d.mode = .form → d.handleSubmit yaml = (d', some req) →
      Submission (trimmedRows d.nodeSelector)
        (path req.toValue.written ["spec", "template", "nodeSelector"])
  /-- The data of `CreateSecretDialog`, whose values are not trimmed. -/
  | secretData {d d' : CreateSecretDialog} {req : CreateSecretRequest} :
      d.handleSubmit = (d', some req) →
      Submission (d.rows.map fun row => (trim row.key, row.value))
        (path req.toValue.written ["data"])

/-- A map that is only sent with an entry. -/
def optionalRecord (m : List (String × String)) : Option Value :=
  if m.length > 0 then some (stringRecord m) else none

theorem lookup_stringRecord (m : List (String × String)) (key : String) :
    (stringRecord m).prop key = (m.lookup key).map .string := by
  show (m.map fun e => (e.1, Value.string e.2)).lookup key = _
  induction m with
  | nil => rfl
  | cons e m ih =>
    rw [List.map_cons, List.lookup_cons, List.lookup_cons]
    cases key == e.1 with
    | true => rfl
    | false => exact ih

theorem stringRecord_entry (m : List (String × String)) (key : String) :
    (stringRecord m).written.prop key = (m.lookup key).map .string := by
  rw [written_prop, lookup_stringRecord, Option.map_map]
  cases m.lookup key <;> rfl

theorem optionalRecord_entry (m : List (String × String)) (key : String) :
    ((optionalRecord m).map Value.written).bind (·.prop key) = (m.lookup key).map .string := by
  cases m with
  | nil => rfl
  | cons e m => exact stringRecord_entry _ key

theorem object_prop (m : List (String × Value)) (key : String) :
    (Value.object m).prop key = m.lookup key := rfl

theorem toValue_labels (r : CreateK8sObjectRequest) :
    r.toValue.prop "labels" = r.labels.map stringRecord := by
  obtain ⟨ns, name, labels, spec⟩ := r
  cases labels <;> rfl

theorem toValue_spec (r : CreateK8sObjectRequest) : r.toValue.prop "spec" = some r.spec := by
  obtain ⟨ns, name, labels, spec⟩ := r
  cases labels <;> rfl

namespace CreatePoolDialog

/-- What is sent for a form. -/
theorem handleSubmit_form {yaml : YamlParser} {d d' : CreatePoolDialog}
    {req : CreateK8sObjectRequest} (hmode : d.mode = .form)
    (hsent : d.handleSubmit yaml = (d', some req)) : req = d.formRequest := by
  unfold handleSubmit at hsent
  rw [hmode] at hsent
  split at hsent
  · cases hsent
    rfl
  · cases hsent

theorem path_labels (d : CreatePoolDialog) :
    path d.formRequest.toValue ["labels"] = optionalRecord (labelRecord d.labels) := by
  rw [path_one, toValue_labels]
  unfold formRequest optionalRecord
  by_cases h : (labelRecord d.labels).length > 0
  · simp only [h, if_true, Option.map_some]
  · simp only [h, if_false, Option.map_none]

theorem buildFormSpec_template (d : CreatePoolDialog) :
    d.buildFormSpec.lookup "template" =
      if d.templateSpec.length > 0 then some (.object d.templateSpec) else none := by
  have hfilled : ∀ key text, key ≠ "template" →
      ((filledIn key text).map fun e => (e.1, Value.string e.2)).lookup "template" = none := by
    intro key text hkey
    unfold filledIn
    split
    · rw [List.map_singleton, List.lookup_cons, beq_false_of_ne hkey.symm]
      rfl
    · rfl
  have hhead : ∀ v w : Value,
      [("ateomImage", v), ("replicas", w)].lookup "template" = none := fun _ _ => rfl
  unfold buildFormSpec
  simp only [List.lookup_append]
  rw [hfilled "sandboxClass" _ (by decide), hfilled "sandboxConfigName" _ (by decide), hhead,
    CreateTemplateDialog.lookup_optional_self, Option.none_or, Option.none_or, Option.none_or]

theorem templateSpec_nodeSelector (d : CreatePoolDialog) :
    d.templateSpec.lookup "nodeSelector" = optionalRecord (labelRecord d.nodeSelector) := by
  unfold templateSpec
  simp only [List.lookup_append]
  rw [CreateTemplateDialog.lookup_optional (k := "resources") _ (by decide),
    CreateTemplateDialog.lookup_optional_self, Option.none_or, optionalRecord]

theorem path_nodeSelector (d : CreatePoolDialog) :
    path d.formRequest.toValue ["spec", "template", "nodeSelector"] =
      optionalRecord (labelRecord d.nodeSelector) := by
  have hspec : d.formRequest.toValue.prop "spec" = some (.object d.buildFormSpec) := toValue_spec _
  rw [path_three, hspec, Option.bind_some, object_prop, buildFormSpec_template,
    ← templateSpec_nodeSelector]
  cases d.templateSpec <;> rfl

end CreatePoolDialog

theorem CreateTemplateDialog.path_labels (d : CreateTemplateDialog) :
    path d.formRequest.toValue ["spec", "workerSelector", "matchLabels"] =
      optionalRecord (labelRecord d.labels) := by
  have hselector : d.buildFormSpec.lookup "workerSelector" =
      if (labelRecord d.labels).length > 0 then
        some (.object [("matchLabels", stringRecord (labelRecord d.labels))]) else none := by
    have hhead : ∀ v w : Value,
        [("pauseImage", v), ("snapshotsConfig", w)].lookup "workerSelector" = none := fun _ _ => rfl
    unfold buildFormSpec
    simp only [List.lookup_append]
    rw [lookup_optional (k := "sandboxClass") _ (by decide), hhead,
      lookup_optional (k := "containers") _ (by decide), lookup_optional_self,
      lookup_optional (k := "volumes") _ (by decide), Option.or_none, Option.none_or,
      Option.none_or, Option.none_or]
  have hspec : d.formRequest.toValue.prop "spec" = some (.object d.buildFormSpec) := toValue_spec _
  rw [path_three, hspec, Option.bind_some, object_prop, hselector]
  unfold optionalRecord
  split <;> rfl

theorem CreateActorDialog.path_labels (d : CreateActorDialog) :
    path d.formRequest.toValue ["workerSelector", "matchLabels"] =
      optionalRecord (labelRecord d.labels) := by
  unfold formRequest optionalRecord
  by_cases h : (labelRecord d.labels).length > 0
  · simp only [h, if_true]
    rfl
  · simp only [h, if_false]
    rfl

theorem CreateSecretDialog.path_data (d : CreateSecretDialog) :
    path d.formRequest.toValue ["data"] = some (stringRecord
      (fromEntries (filledEntries (d.rows.map fun row => (trim row.key, row.value))))) := by
  have hrows : d.completeRows.map (fun row => (trim row.key, row.value)) =
      filledEntries (d.rows.map fun row => (trim row.key, row.value)) := by
    rw [filledEntries, List.filter_map]
    rfl
  rw [← hrows]
  rfl

/-- **What every editor sends**: the rows whose key and value are filled in. -/
theorem Submission.entry {rows : List (String × String)} {sent : Option Value}
    (h : Submission rows sent) (key : String) :
    sent.bind (·.prop key) = ((fromEntries (filledEntries rows)).lookup key).map .string := by
  cases h with
  | actorLabels hsent =>
    rw [CreateActorDialog.handleSubmit_some hsent, written_path, CreateActorDialog.path_labels]
    exact optionalRecord_entry _ key
  | templateLabels hmode hsent =>
    rw [CreateTemplateDialog.handleSubmit_form hmode hsent, written_path,
      CreateTemplateDialog.path_labels]
    exact optionalRecord_entry _ key
  | poolLabels hmode hsent =>
    rw [CreatePoolDialog.handleSubmit_form hmode hsent, written_path, CreatePoolDialog.path_labels]
    exact optionalRecord_entry _ key
  | poolNodeSelector hmode hsent =>
    rw [CreatePoolDialog.handleSubmit_form hmode hsent, written_path,
      CreatePoolDialog.path_nodeSelector]
    exact optionalRecord_entry _ key
  | secretData hsent =>
    rw [CreateSecretDialog.handleSubmit_some hsent, written_path, CreateSecretDialog.path_data]
    exact stringRecord_entry _ key

/-- **Rows of keys and values.**  A form that is submitted sends every row with a key, under keys
that differ, and has no value without a key, exactly when every row is filled in or empty and no key
occurs twice. -/
theorem rows_kept_iff {rows : List (String × String)} {sent : Option Value}
    (h : Submission rows sent) : RowsKept rows sent ↔ RowsComplete rows :=
  rowsKept_iff h.entry

/-- An actor that is to run on the workers whose label `gpu` is empty. -/
def gpuActor : CreateActorDialog :=
  { templatesUnavailable := true, customAtespace := "team", name := "agent",
    templateNamespace := "agents", templateName := "counter", labels := [⟨"gpu", ""⟩] }

theorem gpuActor_sent : gpuActor.handleSubmit =
    ({ gpuActor with mutation := gpuActor.mutation.mutate }, some gpuActor.formRequest) := by
  rw [CreateActorDialog.handleSubmit, if_pos (by decide)]

theorem rows_kept_iff_gpuActor :
    RowsKept [("gpu", "")]
        (path gpuActor.formRequest.toValue.written ["workerSelector", "matchLabels"]) ↔
      RowsComplete [("gpu", "")] :=
  rows_kept_iff (.actorLabels gpuActor_sent)

/-- A secret with a value that has no key. -/
def keylessSecret : CreateSecretDialog :=
  { ns := "default", name := "login", rows := [⟨"user", "admin", false⟩, ⟨" ", "hunter2", false⟩] }

theorem keylessSecret_sent : keylessSecret.handleSubmit =
    ({ keylessSecret with mutation := keylessSecret.mutation.mutate },
      some keylessSecret.formRequest) := by
  rw [CreateSecretDialog.handleSubmit, if_pos (by decide +kernel)]

/-- The actor is created without its worker selector, the secret without one of its values. -/
theorem rows_kept_counterexample :
    (∃ sent, Submission [("gpu", "")] sent ∧ sent.bind (·.prop "gpu") = none ∧
      ¬ RowsKept [("gpu", "")] sent) ∧
    ∃ sent, Submission [("user", "admin"), ("", "hunter2")] sent ∧
      ¬ RowsKept [("user", "admin"), ("", "hunter2")] sent := by
  constructor
  · refine ⟨_, .actorLabels gpuActor_sent, ?_, fun h => ?_⟩
    · rw [written_path, CreateActorDialog.path_labels]
      rfl
    · have hkept := h.entry ("gpu", "") (by decide) (by decide)
      rw [written_path, CreateActorDialog.path_labels] at hkept
      cases hkept
  · have hrows : keylessSecret.rows.map (fun row => (trim row.key, row.value)) =
        [("user", "admin"), ("", "hunter2")] := by decide +kernel
    refine ⟨_, hrows ▸ Submission.secretData keylessSecret_sent, fun h => ?_⟩
    exact absurd (h.sendable ("", "hunter2") (by decide) rfl) (by decide)

end Frontend
