import SubstrateControl.Frontend.CreateTemplateDialog

/-!
# What the template form keeps of its container

`buildFormSpec` and `canSubmit` of `CreateTemplateDialog`
(`frontend/src/components/CreateTemplateDialog.tsx`) look at a row or a field in two places.

* `sentContainer` — the container of a request, as JSON carries it.
* `env_kept_iff` — every named row is sent exactly when the secret rows among them are complete:
  `canSubmit` does not look at what `buildFormSpec` filters out.
* `readyz_kept_iff` — a probe is sent as it was filled in exactly when both of its fields are, the
  port with a number from 1 to 65535.
-/

set_option autoImplicit false

namespace Frontend

open Js Kit.Float

namespace CreateTemplateDialog

/-- The container of the spec that is sent. -/
def sentContainer (req : CreateK8sObjectRequest) : Option Value :=
  match (req.toValue.written.prop "spec").bind (·.prop "containers") with
  | some (.array (c :: _)) => some c
  | _ => none

theorem sentContainer_form {d : CreateTemplateDialog} (h : d.containerTouched = true) :
    sentContainer d.formRequest = some (Value.object d.container).written := by
  have hlist : (d.formRequest.toValue.written.prop "spec").bind (·.prop "containers") =
      some (.array [(Value.object d.container).written]) := by
    rw [(toValue_written d.formRequest).2.2.2, Option.bind_some, written_prop]
    show (d.buildFormSpec.lookup "containers").map Value.written = _
    rw [buildFormSpec_containers h]
    rfl
  unfold sentContainer
  rw [hlist]

theorem sentContainer_untouched {d : CreateTemplateDialog} (h : d.containerTouched = false) :
    sentContainer d.formRequest = none := by
  have hnone : (d.formRequest.toValue.written.prop "spec").bind (·.prop "containers") = none := by
    rw [(toValue_written d.formRequest).2.2.2, Option.bind_some, written_prop]
    show (d.buildFormSpec.lookup "containers").map Value.written = _
    unfold buildFormSpec
    simp only [List.lookup_append]
    rw [lookup_optional (k := "sandboxClass") _ (by decide), h,
      lookup_optional (k := "workerSelector") _ (by decide),
      lookup_optional (k := "volumes") _ (by decide)]
    rfl
  unfold sentContainer
  rw [hnone]

/-- Of a container that is sent every property is. -/
theorem sentContainer_prop {d : CreateTemplateDialog} (h : d.containerTouched = true)
    (key : String) : (sentContainer d.formRequest).bind (·.prop key) =
      (d.container.lookup key).map Value.written := by
  rw [sentContainer_form h, Option.bind_some, written_prop]
  rfl

/-! ## Environment variables -/

/-- The env list of a container; without the property it has none. -/
def envOf (container : Option Value) : List Value :=
  match container.bind (·.prop "env") with
  | some (.array env) => env
  | _ => []

/-- The rows with a name. -/
def namedRows (d : CreateTemplateDialog) : List EnvRow :=
  d.envRows.filter fun row => trim row.name ≠ ""

/-- The entry of a row: under its trimmed name, the value or the reference that was selected. -/
def EntryOf (row : EnvRow) (entry : Value) : Prop :=
  entry.prop "name" = some (.string (trim row.name)) ∧
    match row.mode with
    | .literal => entry.prop "value" = some (.string row.value)
    | .secret => (entry.prop "valueFrom").bind (·.prop "secretKeyRef") =
        some (stringRecord [("name", row.secretName), ("key", row.secretKey)])

/-- The named secret rows name a secret and a key. -/
def ReferencesComplete (d : CreateTemplateDialog) : Prop :=
  ∀ row ∈ d.envRows, trim row.name ≠ "" → row.mode = .secret →
    row.secretName ≠ "" ∧ row.secretKey ≠ ""

theorem entryOf_envValue (row : EnvRow) : EntryOf row (envValue row) := by
  unfold EntryOf envValue
  cases row.mode <;> exact ⟨rfl, rfl⟩

theorem itemsFinite_env (rows : List EnvRow) : itemsFinite (rows.map envValue) = true := by
  induction rows with
  | nil => rfl
  | cons row rows ih =>
    have hrow : (envValue row).finite = true := by
      unfold envValue
      cases row.mode <;> rfl
    rw [List.map_cons, itemsFinite, hrow, ih]
    rfl

theorem env_eq (d : CreateTemplateDialog) :
    d.env = (d.namedRows.filter fun row =>
      row.mode = .literal ∨ row.secretName ≠ "" ∧ row.secretKey ≠ "").map envValue := rfl

theorem container_env (d : CreateTemplateDialog) :
    d.container.lookup "env" = if d.env.length > 0 then some (.array d.env) else none := by
  unfold container
  simp only [List.lookup_append]
  rw [lookup_optional (k := "command") _ (by decide), lookup_optional (k := "readyz") _ (by decide),
    lookup_optional_self]
  rfl

/-- The env list that is sent is the one that is built. -/
theorem envOf_sent (d : CreateTemplateDialog) : envOf (sentContainer d.formRequest) = d.env := by
  cases htouched : d.containerTouched with
  | true =>
    have hwritten : (Value.array d.env).written = .array d.env := by
      rw [written_eq_self_iff, env_eq]
      exact itemsFinite_env _
    unfold envOf
    rw [sentContainer_prop htouched, container_env]
    by_cases h : d.env.length > 0
    · rw [if_pos h, Option.map_some, hwritten]
    · rw [if_neg h]
      exact (List.length_eq_zero_iff.mp (by omega)).symm
  | false =>
    have hnone : d.namedRows = [] := by
      unfold containerTouched at htouched
      rw [Bool.or_eq_false_iff] at htouched
      rw [namedRows, List.filter_eq_nil_iff]
      simpa using htouched.2
    rw [sentContainer_untouched htouched, env_eq, hnone]
    rfl

/-- **Environment variables.**  A form that is sent has an entry for every named row, in their
order, exactly when the references of the named secret rows are complete. -/
theorem env_kept_iff {yaml : YamlParser} {d d' : CreateTemplateDialog}
    {req : CreateK8sObjectRequest} (hmode : d.mode = .form)
    (hsent : d.handleSubmit yaml = (d', some req)) :
    List.Forall₂ EntryOf d.namedRows (envOf (sentContainer req)) ↔ d.ReferencesComplete := by
  have hcomplete : d.ReferencesComplete ↔ ∀ row ∈ d.namedRows,
      row.mode = .literal ∨ row.secretName ≠ "" ∧ row.secretKey ≠ "" := by
    unfold ReferencesComplete namedRows
    constructor
    · intro h row hrow
      obtain ⟨hmem, hname⟩ := List.mem_filter.mp hrow
      cases hrowMode : row.mode with
      | literal => exact .inl rfl
      | secret => exact .inr (h row hmem (by simpa using hname) hrowMode)
    · intro h row hmem hname hrowMode
      have hrow := h row (List.mem_filter.mpr ⟨hmem, by simpa using hname⟩)
      rw [hrowMode] at hrow
      simpa using hrow
  rw [handleSubmit_form hmode hsent, envOf_sent, env_eq, hcomplete]
  constructor
  · intro h row hrow
    have hlength := h.length_eq
    rw [List.length_map, eq_comm, List.length_filter_eq_length_iff] at hlength
    simpa using hlength row hrow
  · intro h
    have hall : (d.namedRows.filter fun row =>
        row.mode = .literal ∨ row.secretName ≠ "" ∧ row.secretKey ≠ "") = d.namedRows :=
      List.filter_eq_self.mpr fun row hrow => by simpa using h row hrow
    rw [hall, List.forall₂_map_right_iff, List.forall₂_same]
    exact fun row _ => entryOf_envValue row

/-- A form whose secret row has no key selected yet. -/
def incompleteForm : CreateTemplateDialog :=
  { filledForm with envRows := [⟨"API_KEY", .secret, "", "llm", ""⟩] }

theorem incompleteForm_sent : incompleteForm.handleSubmit noYaml =
    ({ incompleteForm with mutation := incompleteForm.mutation.mutate },
      some incompleteForm.formRequest) :=
  handleSubmit_of_canSubmit rfl (filledForm_canSubmit _ "" "")

theorem env_kept_iff_incompleteForm :
    List.Forall₂ EntryOf incompleteForm.namedRows
        (envOf (sentContainer incompleteForm.formRequest)) ↔ incompleteForm.ReferencesComplete :=
  env_kept_iff rfl incompleteForm_sent

/-- The variable `API_KEY` is not sent. -/
theorem env_kept_counterexample :
    ¬ ∀ (yaml : YamlParser) (d d' : CreateTemplateDialog) (req : CreateK8sObjectRequest),
      d.mode = .form → d.handleSubmit yaml = (d', some req) →
      List.Forall₂ EntryOf d.namedRows (envOf (sentContainer req)) := by
  intro h
  have hkept := h noYaml incompleteForm _ _ rfl incompleteForm_sent
  have hlength := hkept.length_eq
  rw [envOf_sent] at hlength
  exact absurd hlength (by decide)

/-! ## The readiness probe -/

/-- The probe of a container is the one that was filled in, with a port. -/
def ReadyzOf (d : CreateTemplateDialog) (container : Option Value) : Prop :=
  ∃ (port : Float64) (n : ℕ), port.val = n ∧ 1 ≤ n ∧ n ≤ 65535 ∧
    (container.bind (·.prop "readyz")).bind (·.prop "httpGet") = some (.object
      [("path", .string (trim d.readyzPath)), ("port", .number (.finite port))])

/-- The text is a numeric literal of a port, once it is rounded to a Number. -/
def PortText (s : String) : Prop :=
  ∃ (q : ℚ) (n : ℕ), literalOf s = some (.value q) ∧ binary64.round q = some (n : ℚ) ∧ 1 ≤ n ∧
    n ≤ 65535

theorem container_readyz (d : CreateTemplateDialog) :
    d.container.lookup "readyz" =
      if trim d.readyzPath ≠ "" ∧ trim d.readyzPort ≠ "" then
        some (.object [("httpGet", .object
          [("path", .string (trim d.readyzPath)),
            ("port", .number (stringToNumber (trim d.readyzPort)))])])
      else none := by
  unfold container
  simp only [List.lookup_append]
  rw [lookup_optional (k := "command") _ (by decide), lookup_optional_self,
    lookup_optional (k := "env") _ (by decide)]
  split <;> rfl

theorem literalOf_trim (s : String) : literalOf (trim s) = literalOf s := by
  unfold literalOf
  rw [trim_trim]

theorem portText_iff {s : String} (hs : trim s ≠ "") :
    PortText s ↔ ∃ (port : Float64) (n : ℕ), port.val = n ∧ 1 ≤ n ∧ n ≤ 65535 ∧
      stringToNumber (trim s) = .finite port := by
  have hs' : trim (trim s) ≠ "" := by rwa [trim_trim]
  constructor
  · rintro ⟨q, n, hq, hround, hlo, hhi⟩
    refine ⟨⟨n, Format.round_round hround⟩, n, rfl, hlo, hhi, ?_⟩
    rw [stringToNumber_finite_iff hs', literalOf_trim]
    exact ⟨q, hq, hround⟩
  · rintro ⟨port, n, hn, hlo, hhi, hnumber⟩
    rw [stringToNumber_finite_iff hs', literalOf_trim] at hnumber
    obtain ⟨q, hq, hround⟩ := hnumber
    exact ⟨q, n, hq, hn ▸ hround, hlo, hhi⟩

/-- The probe that JSON carries, of a form that has one. -/
theorem sent_httpGet {d : CreateTemplateDialog} (hpath : trim d.readyzPath ≠ "")
    (hport : trim d.readyzPort ≠ "") :
    ((sentContainer d.formRequest).bind (·.prop "readyz")).bind (·.prop "httpGet") =
      some (.object [("path", .string (trim d.readyzPath)),
        ("port", (Value.number (stringToNumber (trim d.readyzPort))).written)]) := by
  have htouched : d.containerTouched = true := by simp [containerTouched, hpath]
  rw [sentContainer_prop htouched, container_readyz, if_pos ⟨hpath, hport⟩]
  rfl

theorem not_readyzOf_of_blank {d : CreateTemplateDialog}
    (hblank : ¬ (trim d.readyzPath ≠ "" ∧ trim d.readyzPort ≠ "")) :
    ¬ ReadyzOf d (sentContainer d.formRequest) := by
  have hnone : (sentContainer d.formRequest).bind (·.prop "readyz") = none := by
    cases htouched : d.containerTouched with
    | false =>
      rw [sentContainer_untouched htouched]
      rfl
    | true =>
      rw [sentContainer_prop htouched, container_readyz, if_neg hblank]
      rfl
  rintro ⟨port, n, -, -, -, hget⟩
  rw [hnone] at hget
  cases hget

theorem written_number_eq_iff {x : Number} {y : Float64} :
    (Value.number x).written = .number (.finite y) ↔ x = .finite y := by
  cases x <;> simp [Value.written]

theorem readyzOf_iff {d : CreateTemplateDialog} (hpath : trim d.readyzPath ≠ "")
    (hport : trim d.readyzPort ≠ "") :
    ReadyzOf d (sentContainer d.formRequest) ↔ PortText d.readyzPort := by
  rw [portText_iff hport]
  unfold ReadyzOf
  rw [sent_httpGet hpath hport]
  simp [written_number_eq_iff]

/-- **Readiness probes.**  A form is sent with the probe that was filled in exactly when both of its
fields are, the port with the literal of one. -/
theorem readyz_kept_iff {yaml : YamlParser} {d d' : CreateTemplateDialog}
    {req : CreateK8sObjectRequest} (hmode : d.mode = .form)
    (hsent : d.handleSubmit yaml = (d', some req)) :
    ReadyzOf d (sentContainer req) ↔
      trim d.readyzPath ≠ "" ∧ trim d.readyzPort ≠ "" ∧ PortText d.readyzPort := by
  rw [handleSubmit_form hmode hsent]
  by_cases hboth : trim d.readyzPath ≠ "" ∧ trim d.readyzPort ≠ ""
  · rw [readyzOf_iff hboth.1 hboth.2]
    exact ⟨fun h => ⟨hboth.1, hboth.2, h⟩, fun h => h.2.2⟩
  · exact iff_of_false (not_readyzOf_of_blank hboth) fun h => hboth ⟨h.1, h.2.1⟩

/-- A form with a probe that has no port. -/
def portlessForm : CreateTemplateDialog := { filledForm with readyzPath := "/healthz" }

theorem portlessForm_sent : portlessForm.handleSubmit noYaml =
    ({ portlessForm with mutation := portlessForm.mutation.mutate },
      some portlessForm.formRequest) :=
  handleSubmit_of_canSubmit rfl (filledForm_canSubmit [] "/healthz" "")

theorem readyz_kept_iff_portlessForm :
    ReadyzOf portlessForm (sentContainer portlessForm.formRequest) ↔
      trim portlessForm.readyzPath ≠ "" ∧ trim portlessForm.readyzPort ≠ "" ∧
        PortText portlessForm.readyzPort :=
  readyz_kept_iff rfl portlessForm_sent

/-- The template is created without the probe of `/healthz`. -/
theorem readyz_kept_counterexample :
    ¬ ∀ (yaml : YamlParser) (d d' : CreateTemplateDialog) (req : CreateK8sObjectRequest),
      d.mode = .form → d.handleSubmit yaml = (d', some req) →
      trim d.readyzPath ≠ "" ∨ trim d.readyzPort ≠ "" → ReadyzOf d (sentContainer req) := by
  intro h
  have hkept := h noYaml portlessForm _ _ rfl portlessForm_sent (.inl (by decide))
  exact not_readyzOf_of_blank (by decide) hkept

end CreateTemplateDialog

end Frontend
