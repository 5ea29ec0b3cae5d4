import SubstrateControl.Frontend.K8s

/-!
# The documents that `specFromYaml` accepts

* `Thrown`, `specFromDoc` — `specFromYaml` of a parsed document, read by read: a read of null or
  undefined throws a `TypeError`.
* `specFromYaml_doc` — `specFromYaml` is that function behind the parser.
* `SpecOf` — the spec of a document: that of a manifest, or a document with neither a spec nor
  metadata.
* `accepts_specs_iff` — exactly the documents with a spec are accepted, for it, unless the document
  is a manifest whose spec is a sequence: `typeof` does not tell it from a mapping.
-/

set_option autoImplicit false

namespace Frontend

open Js

/-- What is thrown. -/
inductive Thrown where
  | error (message : String)
  | typeError
  deriving DecidableEq, Repr

/-- `value.key`, where `none` is undefined. -/
def readProp : Option Value → String → Except Thrown (Option Value)
  | none, _ => .error .typeError
  | some .null, _ => .error .typeError
  | some v, key => .ok (v.prop key)

/-- `value?.key` -/
def readOptional : Option Value → String → Except Thrown (Option Value)
  | none, _ => .ok none
  | some .null, _ => .ok none
  | some v, key => readProp (some v) key

/-- `value !== null && typeof value === "object"` -/
def objectLike : Option Value → Bool
  | some (.object _) => true
  | some (.array _) => true
  | _ => false

/-- `key in obj` -/
def hasKey (key : String) : Value → Bool
  | .object fields => (fields.lookup key).isSome
  | _ => false

def isArray : Value → Bool
  | .array _ => true
  | _ => false

/-- `specFromYaml`, from the parsed document on. -/
def specFromDoc (doc : Value) : Except Thrown ParsedManifest := do
  if !objectLike (some doc) || isArray doc then
    throw (.error "YAML document must be a mapping")
  if hasKey "spec" doc || hasKey "metadata" doc then
    match ← readProp (some doc) "spec" with
    | none => throw (.error "Manifest has no spec field")
    | some spec =>
      if !objectLike (some spec) then
        throw (.error "Manifest has no spec field")
      let metadata ← readProp (some doc) "metadata"
      let entries := labelEntries (← readOptional metadata "labels")
      let ns ← readOptional metadata "namespace"
      let name ← readOptional metadata "name"
      return { ns := ns.bind Value.asString
               name := name.bind Value.asString
               labels := if entries.length > 0 then some (fromEntries entries) else none
               spec := spec }
  else return { ns := none, name := none, labels := none, spec := doc }

/-- The manifest of a spec and metadata. -/
def manifestOf (metadata : Option Value) (spec : Value) : ParsedManifest :=
  let entries := labelEntries (metadata.bind (·.prop "labels"))
  { ns := (metadata.bind (·.prop "namespace")).bind Value.asString
    name := (metadata.bind (·.prop "name")).bind Value.asString
    labels := if entries.length > 0 then some (fromEntries entries) else none
    spec := spec }

/-- An optional read throws nothing. -/
theorem readOptional_eq (v : Option Value) (key : String) :
    readOptional v key = .ok (v.bind (·.prop key)) := by
  cases v with
  | none => rfl
  | some v => cases v <;> rfl

section Doc

variable {fields : List (String × Value)}

theorem specFromDoc_of_not_mapping {v : Value} (hv : ∀ fields, v ≠ .object fields) :
    specFromDoc v = .error (.error "YAML document must be a mapping") := by
  cases v with
  | object fields => exact absurd rfl (hv fields)
  | null => rfl
  | bool b => rfl
  | string s => rfl
  | number x => rfl
  | array xs => rfl

theorem specFromDoc_bare (hspec : fields.lookup "spec" = none)
    (hmetadata : fields.lookup "metadata" = none) :
    specFromDoc (.object fields) =
      .ok { ns := none, name := none, labels := none, spec := .object fields } := by
  have hkeys : (hasKey "spec" (.object fields) || hasKey "metadata" (.object fields)) = false := by
    simp [hasKey, hspec, hmetadata]
  simp only [specFromDoc, objectLike, isArray, hkeys]
  rfl

/-- **A manifest**: its spec decides. -/
theorem specFromDoc_manifest
    (hkeys : (fields.lookup "spec").isSome = true ∨ (fields.lookup "metadata").isSome = true) :
    specFromDoc (.object fields) =
      match fields.lookup "spec" with
      | some spec =>
        if objectLike (some spec) then .ok (manifestOf (fields.lookup "metadata") spec)
        else .error (.error "Manifest has no spec field")
      | none => .error (.error "Manifest has no spec field") := by
  have hcond : (hasKey "spec" (.object fields) || hasKey "metadata" (.object fields)) = true := by
    simpa [hasKey] using hkeys
  have hread : ∀ key, readProp (some (.object fields)) key = .ok (fields.lookup key) :=
    fun _ => rfl
  simp only [specFromDoc, objectLike, isArray, hcond, hread, readOptional_eq, bind, Except.bind]
  cases fields.lookup "spec" with
  | none => rfl
  | some spec => cases spec <;> rfl

/-- Without a spec that is a mapping or a sequence there is no manifest. -/
theorem specFromDoc_noSpec
    (hkeys : (fields.lookup "spec").isSome = true ∨ (fields.lookup "metadata").isSome = true)
    (hspec : objectLike (fields.lookup "spec") = false) :
    specFromDoc (.object fields) = .error (.error "Manifest has no spec field") := by
  rw [specFromDoc_manifest hkeys]
  split
  · rename_i spec hlookup
    rw [hlookup] at hspec
    rw [if_neg (by simp [hspec])]
  · rfl

theorem specFromDoc_spec {spec : Value} (hspec : fields.lookup "spec" = some spec)
    (hlike : objectLike (some spec) = true) :
    specFromDoc (.object fields) = .ok (manifestOf (fields.lookup "metadata") spec) := by
  rw [specFromDoc_manifest (.inl (by rw [hspec]; rfl)), hspec]
  exact if_pos hlike

/-- A mapping is read as a manifest or as a bare spec. -/
theorem keyed_or_bare (fields : List (String × Value)) :
    ((fields.lookup "spec").isSome = true ∨ (fields.lookup "metadata").isSome = true) ∨
      (fields.lookup "spec" = none ∧ fields.lookup "metadata" = none) := by
  by_cases hkeys : (fields.lookup "spec").isSome = true ∨ (fields.lookup "metadata").isSome = true
  · exact .inl hkeys
  · rw [not_or, Option.not_isSome_iff_eq_none, Option.not_isSome_iff_eq_none] at hkeys
    exact .inr hkeys

end Doc

/-- **`specFromYaml` is that function behind the parser**; a `TypeError` is not among its errors. -/
theorem specFromYaml_doc {yaml : YamlParser} {input : String} {v : Value}
    (hparse : yaml.parse input = .ok v) :
    specFromDoc v = (specFromYaml yaml input).mapError Thrown.error := by
  cases v with
  | object fields =>
    rcases keyed_or_bare fields with hkeys | ⟨hspec, hmetadata⟩
    · have hcond : ((fields.lookup "spec").isSome || (fields.lookup "metadata").isSome) = true := by
        simpa using hkeys
      rw [specFromDoc_manifest hkeys, specFromYaml]
      simp only [hparse, bind, Except.bind, hcond, if_true]
      cases fields.lookup "spec" with
      | none => rfl
      | some spec => cases spec <;> rfl
    · have hcond :
          ((fields.lookup "spec").isSome || (fields.lookup "metadata").isSome) = false := by
        rw [hspec, hmetadata]
        rfl
      rw [specFromDoc_bare hspec hmetadata, specFromYaml]
      simp only [hparse, bind, Except.bind, hcond]
      rfl
  | null => rw [specFromYaml, hparse]; rfl
  | bool b => rw [specFromYaml, hparse]; rfl
  | string s => rw [specFromYaml, hparse]; rfl
  | number x => rw [specFromYaml, hparse]; rfl
  | array xs => rw [specFromYaml, hparse]; rfl

/-! ## What is accepted -/

/-- The spec of a document. -/
inductive SpecOf : Value → Value → Prop where
  | bare {fields : List (String × Value)} :
      fields.lookup "spec" = none → fields.lookup "metadata" = none →
        SpecOf (.object fields) (.object fields)
  | manifest {fields spec : List (String × Value)} :
      fields.lookup "spec" = some (.object spec) → SpecOf (.object fields) (.object spec)

/-- Exactly the documents with a spec are accepted, each for its spec, and another document is
refused with one of the two errors that `specFromYaml` throws itself. -/
structure AcceptsSpecs (yaml : YamlParser) (input : String) (v : Value) : Prop where
  accepts : ∀ spec, SpecOf v spec → ∃ m, specFromYaml yaml input = .ok m ∧ m.spec = spec
  specs : ∀ m, specFromYaml yaml input = .ok m → SpecOf v m.spec
  errors : ∀ e, specFromDoc v = .error e →
    e = .error "YAML document must be a mapping" ∨ e = .error "Manifest has no spec field"

/-- The document is a mapping whose spec is a sequence. -/
def SequenceSpec (v : Value) : Prop :=
  ∃ fields xs, v = .object fields ∧ fields.lookup "spec" = some (.array xs)

theorem specOf_of_ok {v : Value} {m : ParsedManifest} (hseq : ¬ SequenceSpec v)
    (h : specFromDoc v = .ok m) : SpecOf v m.spec := by
  cases v with
  | object fields =>
    rcases keyed_or_bare fields with hkeys | ⟨hspec, hmetadata⟩
    · cases hlike : objectLike (fields.lookup "spec") with
      | false =>
        rw [specFromDoc_noSpec hkeys hlike] at h
        cases h
      | true =>
        cases hspec : fields.lookup "spec" with
        | none =>
          rw [hspec] at hlike
          cases hlike
        | some spec =>
          rw [hspec] at hlike
          rw [specFromDoc_spec hspec hlike] at h
          cases h
          -- of the values that look like an object only a mapping is left
          cases spec with
          | object spec => exact .manifest hspec
          | array xs => exact absurd ⟨fields, xs, rfl, hspec⟩ hseq
          | null => cases hlike
          | bool b => cases hlike
          | string s => cases hlike
          | number x => cases hlike
    · rw [specFromDoc_bare hspec hmetadata] at h
      cases h
      exact .bare hspec hmetadata
  | null => cases h
  | bool b => cases h
  | string s => cases h
  | number x => cases h
  | array xs => cases h

theorem specFromDoc_of_specOf {v spec : Value} (h : SpecOf v spec) :
    ∃ m, specFromDoc v = .ok m ∧ m.spec = spec := by
  cases h with
  | bare hspec hmetadata => exact ⟨_, specFromDoc_bare hspec hmetadata, rfl⟩
  | manifest hspec => exact ⟨_, specFromDoc_spec hspec rfl, rfl⟩

theorem specFromDoc_error {v : Value} {e : Thrown} (h : specFromDoc v = .error e) :
    e = .error "YAML document must be a mapping" ∨ e = .error "Manifest has no spec field" := by
  by_cases hmapping : ∀ fields, v ≠ .object fields
  · rw [specFromDoc_of_not_mapping hmapping] at h
    cases h
    exact .inl rfl
  · push Not at hmapping
    obtain ⟨fields, rfl⟩ := hmapping
    rcases keyed_or_bare fields with hkeys | ⟨hspec, hmetadata⟩
    · rw [specFromDoc_manifest hkeys] at h
      split at h
      · split at h
        · cases h
        · cases h
          exact .inr rfl
      · cases h
        exact .inr rfl
    · rw [specFromDoc_bare hspec hmetadata] at h
      cases h

theorem ok_iff_specFromDoc {yaml : YamlParser} {input : String} {v : Value}
    (hparse : yaml.parse input = .ok v) {m : ParsedManifest} :
    specFromYaml yaml input = .ok m ↔ specFromDoc v = .ok m := by
  rw [specFromYaml_doc hparse]
  cases specFromYaml yaml input <;> simp [Except.mapError]

/-- **Accepted documents.**  `specFromYaml` accepts exactly the documents with a spec, for that
spec, as long as the document is no mapping whose spec is a sequence. -/
theorem accepts_specs_iff {yaml : YamlParser} {input : String} {v : Value}
    (hparse : yaml.parse input = .ok v) : AcceptsSpecs yaml input v ↔ ¬ SequenceSpec v := by
  constructor
  · rintro h ⟨fields, xs, rfl, hspec⟩
    have hok := (ok_iff_specFromDoc hparse).mpr (specFromDoc_spec hspec rfl)
    cases h.specs _ hok
  · intro hseq
    refine ⟨fun spec hspec => ?_, fun m hok => ?_, fun e => specFromDoc_error⟩
    · obtain ⟨m, hm, heq⟩ := specFromDoc_of_specOf hspec
      exact ⟨m, (ok_iff_specFromDoc hparse).mpr hm, heq⟩
    · exact specOf_of_ok hseq ((ok_iff_specFromDoc hparse).mp hok)

/-- A manifest whose spec is a sequence. -/
def sequenceDoc : Value := .object [("kind", .string "WorkerPool"), ("spec", .array [.string "a"])]

/-- A parser that reads this manifest only. -/
def sequenceYaml : YamlParser where
  parse text :=
    if text = "kind: WorkerPool\nspec: [a]" then .ok sequenceDoc else .error "unexpected text"
  parse_blank text fields hblank hok := by
    split at hok
    · rename_i htext
      rw [htext] at hblank
      exact absurd hblank (by decide)
    · cases hok

theorem accepts_specs_iff_sequenceDoc :
    AcceptsSpecs sequenceYaml "kind: WorkerPool\nspec: [a]" sequenceDoc ↔
      ¬ SequenceSpec sequenceDoc :=
  accepts_specs_iff rfl

/-- The sequence is accepted as a spec. -/
theorem accepts_specs_counterexample :
    ¬ ∀ (yaml : YamlParser) (input : String) (v : Value), yaml.parse input = .ok v →
      AcceptsSpecs yaml input v := by
  intro h
  have hspecs := (h sequenceYaml "kind: WorkerPool\nspec: [a]" sequenceDoc rfl).specs
    (manifestOf none (.array [.string "a"])) rfl
  cases hspecs

end Frontend
