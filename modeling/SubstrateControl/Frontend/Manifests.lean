import SubstrateControl.Frontend.CreatePoolDialog
import SubstrateControl.Frontend.CreateTemplateDialog

/-!
# Submitting a full manifest

* `Creates` — a submit of a manifest creates it: it can be made, and the request carries the whole
  manifest, or a label that is no string is reported and nothing is sent.
* `manifest_created_iff` — when the two dialogs do so.  Both ask for the namespace and the name
  that the manifest has; labels that are no strings are dropped by both, the others by the template
  dialog.
-/

set_option autoImplicit false

namespace Frontend

open Js

/-- What a submit of the manifest `m` should come to, by whether it can be made, the error shown
after it and the request sent. -/
def Creates (m : Manifest) (canSubmit : Bool) (yamlError : String)
    (sent : Option CreateK8sObjectRequest) : Prop :=
  canSubmit = true ∧ ((∃ req, sent = some req ∧ Carries req m) ∨
    (∃ e ∈ m.labels, e.2.asString.isSome = false) ∧ yamlError ≠ "" ∧ sent = none)

/-- A submit that sends `req` whenever it can be made. -/
theorem creates_iff {m : Manifest} {canSubmit : Bool} {yamlError : String}
    {sent : Option CreateK8sObjectRequest} {req : CreateK8sObjectRequest}
    (hsent : canSubmit = true → sent = some req) :
    Creates m canSubmit yamlError sent ↔ canSubmit = true ∧ Carries req m := by
  constructor
  · rintro ⟨hcan, ⟨req', hreq', hcarries⟩ | ⟨-, -, hnone⟩⟩
    · rw [hsent hcan] at hreq'
      cases hreq'
      exact ⟨hcan, hcarries⟩
    · rw [hsent hcan] at hnone
      cases hnone
  · rintro ⟨hcan, hcarries⟩
    exact ⟨hcan, .inl ⟨req, hsent hcan, hcarries⟩⟩

/-- The form's own fields are filled in, and no submit is under way. -/
def Ready (mutation : Mutation) (ns name : String) : Prop :=
  mutation.isPending = false ∧ trim ns ≠ "" ∧ trim name ≠ ""

section

variable {yaml : YamlParser} {text : String} {doc : List (String × Value)} {m : Manifest}

theorem filled_of_manifest (hparse : yaml.parse text = .ok (.object doc)) : trim text ≠ "" :=
  fun hblank => yaml.parse_blank text doc hblank hparse

theorem pool_canSubmit_iff (hparse : yaml.parse text = .ok (.object doc)) {d : CreatePoolDialog}
    (hmode : d.mode = .yaml) (htext : d.yamlText = text) :
    d.canSubmit = true ↔ Ready d.mutation d.ns d.name := by
  have hfilled := filled_of_manifest hparse
  simp [CreatePoolDialog.canSubmit, Ready, hmode, htext, hfilled, and_assoc]

theorem template_canSubmit_iff (hparse : yaml.parse text = .ok (.object doc))
    {d : CreateTemplateDialog} (hmode : d.mode = .yaml) (htext : d.yamlText = text) :
    d.canSubmit = true ↔ Ready d.mutation d.ns d.name := by
  have hfilled := filled_of_manifest hparse
  simp [CreateTemplateDialog.canSubmit, Ready, hmode, htext, hfilled, and_assoc]

/-- **When the dialogs create a full manifest.** -/
theorem manifest_created_iff (hparse : yaml.parse text = .ok (.object doc))
    (hm : IsManifest doc m) :
    (∀ d : CreatePoolDialog, d.mode = .yaml → d.yamlText = text →
      (Creates m d.canSubmit (d.handleSubmit yaml).1.yamlError (d.handleSubmit yaml).2 ↔
        Ready d.mutation d.ns d.name ∧ (∀ e ∈ m.labels, e.2.asString.isSome = true) ∧
          fieldsFinite m.spec = true)) ∧
    ∀ d : CreateTemplateDialog, d.mode = .yaml → d.yamlText = text →
      (Creates m d.canSubmit (d.handleSubmit yaml).1.yamlError (d.handleSubmit yaml).2 ↔
        Ready d.mutation d.ns d.name ∧ m.labels = [] ∧ fieldsFinite m.spec = true) := by
  constructor
  · rintro d hmode htext
    have hparse' : yaml.parse d.yamlText = .ok (.object doc) := by rw [htext, hparse]
    have hlabels : (if m.stringLabels.length > 0 then some m.stringLabels else none).getD [] =
        m.stringLabels := by
      split
      · rfl
      · rename_i hnone
        exact (List.length_eq_zero_iff.mp (by omega)).symm
    rw [creates_iff fun hcan => congrArg Prod.snd (d.handleSubmit_manifest hmode hparse' hm hcan),
      pool_canSubmit_iff hparse hmode htext, carries_iff, hlabels, stringLabels_eq_iff]
  · rintro d hmode htext
    have hparse' : yaml.parse d.yamlText = .ok (.object doc) := by rw [htext, hparse]
    rw [creates_iff fun hcan => congrArg Prod.snd (d.handleSubmit_manifest hmode hparse' hm hcan),
      template_canSubmit_iff hparse hmode htext, carries_iff]
    show _ ∧ [] = m.labels ∧ _ ↔ _
    rw [@eq_comm _ [] m.labels]

end

/-! ## A manifest -/

/-- `{metadata: {namespace: web, name: pool, labels: {app: web}}, spec: {}}`. -/
def webDoc : List (String × Value) :=
  [("metadata", .object [("namespace", .string "web"), ("name", .string "pool"),
    ("labels", .object [("app", .string "web")])]), ("spec", .object [])]

def webText : String :=
  "\x7bmetadata: \x7bnamespace: web, name: pool, labels: \x7bapp: web\x7d\x7d, spec: \x7b\x7d\x7d"

/-- A parser that reads this text. -/
def webYaml : YamlParser where
  parse text := if text = webText then .ok (.object webDoc) else .error "not supported"
  parse_blank text fields hblank h := by
    split at h
    · rename_i heq
      rw [heq] at hblank
      exact absurd hblank (by decide)
    · cases h

def webManifest : Manifest where
  ns := "web"
  name := "pool"
  labels := [("app", .string "web")]
  spec := []
  ns_filled := by decide
  name_filled := by decide
  labels_nodup := by decide

theorem webYaml_parse : webYaml.parse webText = .ok (.object webDoc) := by
  simp [webYaml]

theorem isManifest_webDoc : IsManifest webDoc webManifest := ⟨rfl, rfl, rfl, .inl rfl⟩

/-- The pool dialog creates it once its own fields are filled in. -/
theorem manifest_created_web :
    Creates webManifest
      (CreatePoolDialog.canSubmit { mode := .yaml, ns := "n", name := "n", yamlText := webText })
      (CreatePoolDialog.handleSubmit webYaml
        { mode := .yaml, ns := "n", name := "n", yamlText := webText }).1.yamlError
      (CreatePoolDialog.handleSubmit webYaml
        { mode := .yaml, ns := "n", name := "n", yamlText := webText }).2 :=
  ((manifest_created_iff webYaml_parse isManifest_webDoc).1 _ rfl rfl).mpr
    ⟨⟨rfl, by decide, by decide⟩, by simp [webManifest], rfl⟩

/-- With its fields empty the pool dialog cannot be submitted. -/
theorem manifest_created_counterexample :
    ¬ ∀ (yaml : YamlParser) (text : String) (doc : List (String × Value)) (m : Manifest),
      yaml.parse text = .ok (.object doc) → IsManifest doc m →
      (∀ d : CreatePoolDialog, d.mode = .yaml → d.yamlText = text →
        d.mutation.isPending = false →
        Creates m d.canSubmit (d.handleSubmit yaml).1.yamlError (d.handleSubmit yaml).2) ∧
      ∀ d : CreateTemplateDialog, d.mode = .yaml → d.yamlText = text →
        d.mutation.isPending = false →
        Creates m d.canSubmit (d.handleSubmit yaml).1.yamlError (d.handleSubmit yaml).2 := by
  intro h
  have hpool := (h webYaml webText webDoc webManifest webYaml_parse isManifest_webDoc).1
    { mode := .yaml, yamlText := webText } rfl rfl rfl
  exact absurd hpool.1 (by decide)

end Frontend
