import SubstrateControl.Js.Object

/-!
# Objects of the cluster in the console

Model of `frontend/src/lib/k8s.ts` and of what its callers share.

* `YamlParser` — the parser of the package `yaml`.
* `specFromYaml` — what a pasted document gives for a request.
* `containerImages` — the images shown for a template.
* `resolveNames` — the namespace and name of a request: the document's, else the form's.
* `Manifest` — a full manifest; `specFromYaml_manifest` — what is read of it.
-/

set_option autoImplicit false

namespace Frontend

open Js

/-- `parse` of the package `yaml`: the document of a text, or the message of the error it throws.
Documents are plain values, and a blank text holds no mapping. -/
structure YamlParser where
  parse : String → Except String Value
  parse_blank : ∀ text fields, trim text = "" → parse text ≠ .ok (.object fields)

structure ParsedManifest where
  ns : Option String
  name : Option String
  labels : Option (List (String × String))
  spec : Value

/-- `CreateK8sObjectRequest` (`frontend/src/lib/types.ts`). -/
structure CreateK8sObjectRequest where
  ns : String
  name : String
  labels : Option (List (String × String))
  spec : Value

/-- An object of string values. -/
def stringRecord (entries : List (String × String)) : Value :=
  .object (entries.map fun e => (e.1, .string e.2))

/-- The object that is written. -/
def CreateK8sObjectRequest.toValue (r : CreateK8sObjectRequest) : Value :=
  .object
    ([("namespace", .string r.ns), ("name", .string r.name)] ++
      (r.labels.map fun labels => ("labels", stringRecord labels)).toList ++ [("spec", r.spec)])

/-- The entries of `metadata.labels` that `specFromYaml` keeps. -/
def labelEntries : Option Value → List (String × String)
  | some (.object entries) => entries.filterMap fun e => e.2.asString.map fun s => (e.1, s)
  | _ => []

def specFromYaml (yaml : YamlParser) (input : String) : Except String ParsedManifest := do
  match ← yaml.parse input with
  | .object obj =>
    if (obj.lookup "spec").isSome || (obj.lookup "metadata").isSome then
      let metadata := obj.lookup "metadata"
      let entries := labelEntries (metadata.bind (·.prop "labels"))
      let manifest (spec : Value) : ParsedManifest :=
        { ns := (metadata.bind (·.prop "namespace")).bind Value.asString
          name := (metadata.bind (·.prop "name")).bind Value.asString
          labels := if entries.length > 0 then some (fromEntries entries) else none
          spec := spec }
      match obj.lookup "spec" with
      | some (.object fields) => return manifest (.object fields)
      -- `typeof` is "object" for an array, too
      | some (.array xs) => return manifest (.array xs)
      | _ => throw "Manifest has no spec field"
    else return { ns := none, name := none, labels := none, spec := .object obj }
  | _ => throw "YAML document must be a mapping"

/-- The part of a `K8sObject` that `containerImages` reads. -/
structure K8sObject where
  spec : Option Value

/-- `imagesOf` in `containerImages`. -/
def imagesOf : Option Value → List String
  | some (.array containers) => containers.filterMap fun c => (c.prop "image").bind Value.asString
  | _ => []

def containerImages (object : K8sObject) : List String :=
  let podSpec := (object.spec.bind (·.prop "template")).bind (·.prop "spec")
  imagesOf (podSpec.bind (·.prop "containers")) ++ imagesOf (podSpec.bind (·.prop "initContainers"))

/-! ## What the dialogs share -/

/-- The tab that is open. -/
inductive FormMode where
  | form
  | yaml
  deriving DecidableEq, Repr

/-- `LabelRow` (`frontend/src/lib/presets.ts`). -/
structure LabelRow where
  key : String
  value : String
  deriving DecidableEq, Repr

/-- The object of the rows whose key and value are filled in. -/
def labelRecord (rows : List LabelRow) : List (String × String) :=
  fromEntries ((rows.map fun row => (trim row.key, trim row.value)).filter
    fun e => e.1 ≠ "" ∧ e.2 ≠ "")

/-- `resolvedNamespace` and `resolvedName` of `handleSubmit`, or the error it shows. -/
def resolveNames (parsed : ParsedManifest) (ns name : String) : Except String (String × String) :=
  let resolvedNamespace := parsed.ns.getD (trim ns)
  let resolvedName := parsed.name.getD (trim name)
  if resolvedNamespace = "" ∨ resolvedName = "" then
    throw ("Namespace and name are required — fill them in above or use a full manifest with " ++
      "metadata.")
  else return (resolvedNamespace, resolvedName)

/-! ## Full manifests -/

/-- A full manifest: its spec is a mapping, and its metadata name it; labels are scalars. -/
structure Manifest where
  ns : String
  name : String
  labels : List (String × Value)
  spec : List (String × Value)
  ns_filled : trim ns ≠ ""
  name_filled : trim name ≠ ""
  labels_nodup : (labels.map (·.1)).Nodup

/-- The document is the manifest `m`, with whatever else stands in it. -/
structure IsManifest (doc : List (String × Value)) (m : Manifest) : Prop where
  spec : doc.lookup "spec" = some (.object m.spec)
  ns : (doc.lookup "metadata").bind (·.prop "namespace") = some (.string m.ns)
  name : (doc.lookup "metadata").bind (·.prop "name") = some (.string m.name)
  labels : (doc.lookup "metadata").bind (·.prop "labels") = some (.object m.labels) ∨
    (doc.lookup "metadata").bind (·.prop "labels") = none ∧ m.labels = []

/-- The labels whose values are strings. -/
def Manifest.stringLabels (m : Manifest) : List (String × String) :=
  m.labels.filterMap fun e => e.2.asString.map fun s => (e.1, s)

/-- The request has exactly the namespace, the name, the labels and the spec of the manifest, as it
is written. -/
structure Carries (r : CreateK8sObjectRequest) (m : Manifest) : Prop where
  ns : r.toValue.written.prop "namespace" = some (.string m.ns)
  name : r.toValue.written.prop "name" = some (.string m.name)
  labels : r.toValue.written.prop "labels" = some (.object m.labels) ∨
    r.toValue.written.prop "labels" = none ∧ m.labels = []
  spec : r.toValue.written.prop "spec" = some (.object m.spec)

theorem Manifest.ns_ne (m : Manifest) : m.ns ≠ "" := fun h => m.ns_filled (by rw [h]; rfl)

theorem Manifest.name_ne (m : Manifest) : m.name ≠ "" := fun h => m.name_filled (by rw [h]; rfl)

theorem Manifest.stringLabels_nodup (m : Manifest) : (m.stringLabels.map (·.1)).Nodup := by
  have hsub : ∀ es : List (String × Value),
      ((es.filterMap fun e => e.2.asString.map fun s => (e.1, s)).map (·.1)).Sublist
        (es.map (·.1)) := by
    intro es
    induction es with
    | nil => exact .slnil
    | cons e es ih =>
      cases h : e.2.asString with
      | none => simpa [h] using ih.cons e.1
      | some s => simpa [h] using ih.cons_cons e.1
  exact (hsub m.labels).nodup m.labels_nodup

/-- **What is read of a full manifest**: everything, but labels that are no strings. -/
theorem specFromYaml_manifest {yaml : YamlParser} {text : String} {doc : List (String × Value)}
    {m : Manifest} (hparse : yaml.parse text = .ok (.object doc)) (hm : IsManifest doc m) :
    specFromYaml yaml text = .ok
      { ns := some m.ns
        name := some m.name
        labels := if m.stringLabels.length > 0 then some m.stringLabels else none
        spec := .object m.spec } := by
  have hlabels : labelEntries ((doc.lookup "metadata").bind (·.prop "labels")) =
      m.stringLabels := by
    rcases hm.labels with h | ⟨h, hnone⟩
    · rw [h]
      rfl
    · rw [h, Manifest.stringLabels, hnone]
      rfl
  have hspec := hm.spec
  have hns := hm.ns
  have hname := hm.name
  unfold specFromYaml
  rw [hparse]
  simp only [bind, Except.bind, hspec, hns, hname, hlabels, Option.isSome_some, Bool.true_or,
    if_true, Option.bind_some, asString_string, fromEntries_eq m.stringLabels_nodup]
  rfl

theorem resolveNames_manifest {parsed : ParsedManifest} {m : Manifest} (hns : parsed.ns = some m.ns)
    (hname : parsed.name = some m.name) (ns name : String) :
    resolveNames parsed ns name = .ok (m.ns, m.name) := by
  unfold resolveNames
  rw [hns, hname]
  simp only [Option.getD_some]
  rw [if_neg (not_or.mpr ⟨m.ns_ne, m.name_ne⟩)]
  rfl

theorem fieldsWritten_strings : ∀ es : List (String × String),
    fieldsWritten (es.map fun e => (e.1, Value.string e.2)) = es.map fun e => (e.1, .string e.2)
  | [] => rfl
  | e :: es => by rw [List.map_cons, fieldsWritten, fieldsWritten_strings es]; rfl

/-- The fields of a written request. -/
theorem toValue_written (r : CreateK8sObjectRequest) :
    r.toValue.written.prop "namespace" = some (.string r.ns) ∧
    r.toValue.written.prop "name" = some (.string r.name) ∧
    r.toValue.written.prop "labels" = r.labels.map stringRecord ∧
    r.toValue.written.prop "spec" = some r.spec.written := by
  obtain ⟨ns, name, labels, spec⟩ := r
  cases labels with
  | none => exact ⟨rfl, rfl, rfl, rfl⟩
  | some labels =>
    refine ⟨rfl, rfl, ?_, rfl⟩
    show some (Value.object (fieldsWritten _)) = _
    rw [fieldsWritten_strings]
    rfl

/-- Which requests made of a manifest carry it. -/
theorem carries_iff (m : Manifest) (labels : Option (List (String × String))) :
    Carries { ns := m.ns, name := m.name, labels := labels, spec := .object m.spec } m ↔
      ((labels.getD []).map fun e => (e.1, Value.string e.2)) = m.labels ∧
        fieldsFinite m.spec = true := by
  obtain ⟨hns, hname, hlabels, hspec⟩ := toValue_written
    { ns := m.ns, name := m.name, labels := labels, spec := .object m.spec }
  have hkept : (labels.map stringRecord = some (.object m.labels) ∨
      labels.map stringRecord = none ∧ m.labels = []) ↔
        ((labels.getD []).map fun e => (e.1, Value.string e.2)) = m.labels := by
    cases labels with
    | none => simp [eq_comm]
    | some labels => simp [stringRecord]
  have hfinite : some (Value.object m.spec).written = some (Value.object m.spec) ↔
      fieldsFinite m.spec = true := by
    rw [Option.some.injEq, written_eq_self_iff]
    rfl
  rw [← hkept, ← hfinite, ← hlabels, ← hspec]
  exact ⟨fun h => ⟨h.labels, h.spec⟩, fun h => ⟨hns, hname, h.1, h.2⟩⟩

/-- All labels are read exactly when all are strings. -/
theorem stringLabels_eq_iff (m : Manifest) :
    (m.stringLabels.map fun e => (e.1, Value.string e.2)) = m.labels ↔
      ∀ e ∈ m.labels, e.2.asString.isSome = true := by
  have hlen : ∀ es : List (String × Value),
      (es.filterMap fun e => e.2.asString.map fun s => (e.1, s)).length ≤ es.length :=
    fun es => List.length_filterMap_le _ es
  have hlist : ∀ es : List (String × Value),
      ((es.filterMap fun e => e.2.asString.map fun s => (e.1, s)).map
        fun e => (e.1, Value.string e.2)) = es ↔ ∀ e ∈ es, e.2.asString.isSome = true := by
    intro es
    induction es with
    | nil => simp
    | cons e es ih =>
      obtain ⟨k, v⟩ := e
      cases h : v.asString with
      | none =>
        -- a label is missing, so that the lists have different lengths
        refine iff_of_false (fun heq => ?_) (fun hall => ?_)
        · have hshort := congrArg List.length heq
          simp only [List.filterMap_cons, h, Option.map_none, List.length_map,
            List.length_cons] at hshort
          have := hlen es
          omega
        · have := hall (k, v) (by simp)
          simp [h] at this
      | some s =>
        obtain rfl := asString_eq_some.mp h
        simp [ih]
  exact hlist m.labels

end Frontend
