import SubstrateControl.Frontend.Mutation
import SubstrateControl.Js.Object
import SubstrateControl.Kit.Machine

/-!
# The dialog that registers models

Model of `RegisterModelDialog` (`frontend/src/components/RegisterModelDialog.tsx`), which stays
mounted while it is closed.

* `RegisterModelDialog` — its state, by the variables of the component.
* `applyProvider`, `canSubmit`, `handleSubmit` — the provider helper, and what a submit sends.
* `RegisterEvent`, `step` — what the user does, and the responses that arrive.
* `model_kept_iff` — the helper keeps what stands behind the prefix exactly when that has no slash
  or the provider without a prefix is never left: it takes any text up to a slash for a prefix.
* `base_shown_iff` — no request of a run carries an API base that is not shown exactly when that
  provider is left with a blank base only: `handleSubmit` does not look at the provider.
-/

set_option autoImplicit false

namespace Frontend

open Js Kit

/-- The ids of `providerOptions`. -/
inductive Provider where
  | anthropic
  | openai
  | gemini
  | deepseek
  | compatible
  deriving DecidableEq, Repr

/-- The prefixes of `providerOptions`. -/
def Provider.modelPrefix : Provider → String
  | .anthropic => "anthropic/"
  | .openai => "openai/"
  | .gemini => "gemini/"
  | .deepseek => "deepseek/"
  | .compatible => ""

/-- `RegisterModelRequest` (`frontend/src/lib/types.ts`). -/
structure RegisterModelRequest where
  modelName : String
  model : String
  apiKey : String
  apiBase : Option String
  /-- `Record<string, unknown>` -/
  extraParams : Option (List (String × Value)) := none

/-- The object that is written. -/
def RegisterModelRequest.toValue (r : RegisterModelRequest) : Value :=
  .object
    ([("modelName", .string r.modelName), ("model", .string r.model),
      ("apiKey", .string r.apiKey)] ++
      (r.apiBase.map fun base => ("apiBase", Value.string base)).toList ++
      (r.extraParams.map fun params => ("extraParams", Value.object params)).toList)

/-- The state of the component, with its initial values. -/
structure RegisterModelDialog where
  isOpen : Bool := false
  modelName : String := ""
  provider : Provider := .anthropic
  model : String := "anthropic/"
  apiKey : String := ""
  apiBase : String := ""
  mutation : Mutation := {}
  deriving DecidableEq, Repr

/-- The text behind its first slash; a text without one is left alone. -/
def afterSlash (current : String) : String :=
  match current.toList.dropWhile (· ≠ '/') with
  | _ :: suffix => String.ofList suffix
  | [] => current

/-- What happens to the dialog. -/
inductive RegisterEvent where
  | openDialog
  | closeDialog
  | editModelName (text : String)
  | editModel (text : String)
  | editApiKey (text : String)
  | editApiBase (text : String)
  /-- An option of the provider is chosen. -/
  | select (p : Provider)
  | submit
  | succeed (id : ℕ)
  | fail (id : ℕ)
  deriving DecidableEq, Repr

namespace RegisterModelDialog

/-- The effect of opening. -/
def reset (d : RegisterModelDialog) : RegisterModelDialog :=
  { d with modelName := "", provider := .anthropic, model := "anthropic/", apiKey := "",
           apiBase := "" }

def applyProvider (d : RegisterModelDialog) (id : Provider) : RegisterModelDialog :=
  { d with provider := id, model := id.modelPrefix ++ afterSlash d.model }

def canSubmit (d : RegisterModelDialog) : Bool :=
  trim d.modelName != "" && trim d.model != "" && d.apiKey != "" &&
    (d.provider != .compatible || trim d.apiBase != "") && !d.mutation.isPending

/-- The request that a submit sends. -/
def handleSubmit (d : RegisterModelDialog) : Option RegisterModelRequest :=
  if d.canSubmit then
    some
      { modelName := trim d.modelName
        model := trim d.model
        apiKey := d.apiKey
        apiBase := if trim d.apiBase ≠ "" then some (trim d.apiBase) else none }
  else none

/-- The API-base field is rendered. -/
def baseShown (d : RegisterModelDialog) : Bool := d.isOpen && d.provider == .compatible

def step (d : RegisterModelDialog) : RegisterEvent → RegisterModelDialog
  | .openDialog => if d.isOpen then d else { d.reset with isOpen := true }
  | .closeDialog => { d with isOpen := false }
  | .editModelName text => if d.isOpen then { d with modelName := text } else d
  | .editModel text => if d.isOpen then { d with model := text } else d
  | .editApiKey text => if d.isOpen then { d with apiKey := text } else d
  | .editApiBase text => if d.baseShown then { d with apiBase := text } else d
  -- `Select` calls `onValueChange` when its value changes
  | .select p => if d.isOpen && p != d.provider then d.applyProvider p else d
  | .submit =>
    if d.isOpen && d.handleSubmit.isSome then { d with mutation := d.mutation.mutate } else d
  | .succeed id =>
    if id ∈ d.mutation.inFlight then { d with isOpen := false, mutation := d.mutation.settle id }
    else d
  | .fail id => { d with mutation := d.mutation.settle id }

/-! ## The provider helper -/

theorem afterSlash_append {name : List Char} (hname : '/' ∉ name) (s : String) :
    afterSlash (String.ofList (name ++ ['/']) ++ s) = s := by
  have hdrop : (String.ofList (name ++ ['/']) ++ s).toList.dropWhile (· ≠ '/') =
      '/' :: s.toList := by
    rw [String.toList_append, String.toList_ofList, List.append_assoc]
    rw [List.dropWhile_append_of_pos]
    · simp
    · intro c hc
      have hne : c ≠ '/' := fun h => hname (h ▸ hc)
      simpa using hne
  unfold afterSlash
  rw [hdrop]
  exact String.ofList_toList

theorem afterSlash_of_not_mem {s : String} (hs : '/' ∉ s.toList) : afterSlash s = s := by
  have hdrop : s.toList.dropWhile (· ≠ '/') = [] := by
    rw [List.dropWhile_eq_nil_iff]
    intro c hc
    have hne : c ≠ '/' := fun h => hs (h ▸ hc)
    simpa using hne
  unfold afterSlash
  rw [hdrop]

theorem length_afterSlash_lt {s : String} (hs : '/' ∈ s.toList) :
    (afterSlash s).length < s.length := by
  have hle := (List.dropWhile_suffix (l := s.toList) (· ≠ '/')).length_le
  unfold afterSlash
  split
  · rename_i suffix hdrop
    rw [hdrop, List.length_cons, String.length_toList] at hle
    rw [String.length_ofList]
    omega
  · rename_i hdrop
    have hnone := List.dropWhile_eq_nil_iff.mp hdrop '/' hs
    simp at hnone

theorem length_afterSlash_le (s : String) : (afterSlash s).length ≤ s.length := by
  by_cases hs : '/' ∈ s.toList
  · exact (length_afterSlash_lt hs).le
  · rw [afterSlash_of_not_mem hs]

/-- The prefix of a provider ends with its only slash. -/
theorem modelPrefix_eq {p : Provider} (hp : p ≠ .compatible) :
    ∃ name, '/' ∉ name ∧ p.modelPrefix = String.ofList (name ++ ['/']) := by
  cases p with
  | anthropic => exact ⟨"anthropic".toList, by decide, rfl⟩
  | openai => exact ⟨"openai".toList, by decide, rfl⟩
  | gemini => exact ⟨"gemini".toList, by decide, rfl⟩
  | deepseek => exact ⟨"deepseek".toList, by decide, rfl⟩
  | compatible => exact absurd rfl hp

/-- A prefix is recognised, unless it is empty. -/
theorem afterSlash_modelPrefix {p : Provider} (hp : p ≠ .compatible) (s : String) :
    afterSlash (p.modelPrefix ++ s) = s := by
  obtain ⟨name, hname, heq⟩ := modelPrefix_eq hp
  rw [heq]
  exact afterSlash_append hname s

/-- An option is chosen in the open dialog. -/
def choose (d : RegisterModelDialog) (p : Provider) : RegisterModelDialog := d.step (.select p)

/-- The model field holds the provider's prefix and then `s`. -/
def Prefixed (s : String) (d : RegisterModelDialog) : Prop :=
  d.isOpen = true ∧ d.model = d.provider.modelPrefix ++ s

/-- The model field holds the provider's prefix and then less than `s`. -/
def Cut (s : String) (d : RegisterModelDialog) : Prop :=
  ∃ t, t.length < s.length ∧ Prefixed t d

/-- Choosing `p` keeps what stands behind the prefix. -/
def Keeps (s : String) (d : RegisterModelDialog) (p : Provider) : Prop :=
  '/' ∉ s.toList ∨ (d.provider = .compatible → p = .compatible)

theorem choose_eq {d : RegisterModelDialog} {p : Provider} (hopen : d.isOpen = true)
    (hp : p ≠ d.provider) : d.choose p = d.applyProvider p := by
  show (if d.isOpen && p != d.provider then d.applyProvider p else d) = _
  rw [if_pos (by simp [hopen, hp])]

theorem choose_same (d : RegisterModelDialog) : d.choose d.provider = d := by
  show (if d.isOpen && d.provider != d.provider then _ else d) = d
  rw [if_neg (by simp)]

theorem choose_provider {d : RegisterModelDialog} (hopen : d.isOpen = true) (p : Provider) :
    (d.choose p).provider = p ∧ (d.choose p).isOpen = true := by
  by_cases hp : p = d.provider
  · subst hp
    rw [choose_same]
    exact ⟨rfl, hopen⟩
  · rw [choose_eq hopen hp]
    exact ⟨rfl, hopen⟩

/-- **One choice**: the text behind the prefix loses what stands before its first slash when the
provider without a prefix is left, and is kept otherwise. -/
theorem choose_prefixed {s : String} {d : RegisterModelDialog} (h : Prefixed s d) (p : Provider) :
    Prefixed (if d.provider = .compatible ∧ p ≠ .compatible then afterSlash s else s)
      (d.choose p) := by
  obtain ⟨hopen, hmodel⟩ := h
  by_cases hp : p = d.provider
  · subst hp
    rw [choose_same, if_neg (by simp)]
    exact ⟨hopen, hmodel⟩
  · rw [choose_eq hopen hp]
    refine ⟨hopen, ?_⟩
    show p.modelPrefix ++ afterSlash d.model = p.modelPrefix ++ _
    rw [hmodel]
    by_cases hcompatible : d.provider = .compatible
    · rw [hcompatible, if_pos ⟨rfl, hcompatible ▸ hp⟩]
      rw [show Provider.compatible.modelPrefix ++ s = s from String.empty_append]
    · rw [if_neg (fun h => hcompatible h.1), afterSlash_modelPrefix hcompatible]

theorem not_cut {s : String} {d : RegisterModelDialog} (h : Prefixed s d) : ¬ Cut s d := by
  rintro ⟨t, hlt, -, hmodel⟩
  have hlength := congrArg String.length (h.2.symm.trans hmodel)
  rw [String.length_append, String.length_append] at hlength
  omega

theorem prefixed_choose {s : String} (d : RegisterModelDialog) (p : Provider) (hp : Keeps s d p)
    (h : Prefixed s d) : Prefixed s (d.choose p) := by
  have hnext := choose_prefixed h p
  rcases hp with hslash | hstay
  · rwa [afterSlash_of_not_mem hslash, ite_self] at hnext
  · rwa [if_neg fun hleave => hleave.2 (hstay hleave.1)] at hnext

theorem cut_of_not_keeps {s : String} (d : RegisterModelDialog) (p : Provider) (h : Prefixed s d)
    (hp : ¬ Keeps s d p) : Cut s (d.choose p) := by
  unfold Keeps at hp
  push Not at hp
  obtain ⟨hslash, hleave⟩ := hp
  have hnext := choose_prefixed h p
  rw [if_pos hleave] at hnext
  exact ⟨afterSlash s, length_afterSlash_lt hslash, hnext⟩

theorem cut_choose {s : String} (d : RegisterModelDialog) (p : Provider) (h : Cut s d) :
    Cut s (d.choose p) := by
  obtain ⟨t, hlt, hcut⟩ := h
  refine ⟨_, ?_, choose_prefixed hcut p⟩
  have hle := length_afterSlash_le t
  split <;> omega

/-- The provider without a prefix is never left. -/
def NeverLeft (ps : List Provider) : Prop :=
  ps.IsChain fun p q => p = .compatible → q = .compatible

theorem along_keeps_iff (s : String) : ∀ (ps : List Provider) {d : RegisterModelDialog},
    d.isOpen = true →
    (Machine.Along (Keeps s) choose d ps ↔ '/' ∉ s.toList ∨ NeverLeft (d.provider :: ps))
  | [], d, _ => iff_of_true trivial (.inr (List.isChain_singleton _))
  | p :: ps, d, hopen => by
    obtain ⟨hprovider, hopen'⟩ := choose_provider hopen p
    have htail := along_keeps_iff s ps hopen'
    rw [hprovider] at htail
    unfold NeverLeft at htail ⊢
    rw [Machine.Along, htail, List.isChain_cons_cons, Keeps, or_and_left]

theorem run_choose_provider : ∀ (ps : List Provider) {d : RegisterModelDialog}, d.isOpen = true →
    (Machine.run choose d ps).provider = ps.getLastD d.provider ∧
      (Machine.run choose d ps).isOpen = true
  | [], _, hopen => ⟨rfl, hopen⟩
  | p :: ps, d, hopen => by
    obtain ⟨hprovider, hopen'⟩ := choose_provider hopen p
    have htail := run_choose_provider ps hopen'
    rw [hprovider] at htail
    rw [Machine.run_cons, List.getLastD_cons]
    exact htail

/-- **The provider helper.**  After any choices the model field holds the last prefix and what stood
behind the first exactly when that has no slash or the provider without a prefix was never left. -/
theorem model_kept_iff {d : RegisterModelDialog} {s : String} (hopen : d.isOpen = true)
    (hmodel : d.model = d.provider.modelPrefix ++ s) (ps : List Provider) :
    (Machine.run step d (ps.map .select)).model = (ps.getLastD d.provider).modelPrefix ++ s ↔
      '/' ∉ s.toList ∨ NeverLeft (d.provider :: ps) := by
  have hrun : Machine.run step d (ps.map .select) = Machine.run choose d ps := List.foldl_map
  obtain ⟨hprovider, hopen'⟩ := run_choose_provider ps hopen
  have hprefixed : Prefixed s (Machine.run choose d ps) ↔
      (Machine.run choose d ps).model = (ps.getLastD d.provider).modelPrefix ++ s := by
    unfold Prefixed
    rw [hprovider, and_iff_right hopen']
  rw [hrun, ← hprefixed, ← along_keeps_iff s ps hopen]
  exact Machine.run_iff_along prefixed_choose cut_of_not_keeps cut_choose
    (fun d h => not_cut h) ps d ⟨hopen, hmodel⟩

/-- The form of an OpenAI-compatible model of an organisation. -/
def llamaForm : RegisterModelDialog :=
  { isOpen := true, provider := .compatible, model := "meta/llama" }

theorem model_kept_iff_llamaForm :
    (Machine.run step llamaForm ([Provider.openai, .compatible].map .select)).model =
        ([Provider.openai, .compatible].getLastD .compatible).modelPrefix ++ "meta/llama" ↔
      '/' ∉ "meta/llama".toList ∨ NeverLeft [.compatible, .openai, .compatible] :=
  model_kept_iff rfl rfl [.openai, .compatible]

/-- Choosing OpenAI and going back leaves `llama`. -/
theorem model_kept_counterexample :
    ¬ ∀ (d : RegisterModelDialog) (s : String) (ps : List Provider), d.isOpen = true →
      d.model = d.provider.modelPrefix ++ s →
      (Machine.run step d (ps.map .select)).model =
        (ps.getLastD d.provider).modelPrefix ++ s := by
  intro h
  exact absurd (h llamaForm "meta/llama" [.openai, .compatible] rfl rfl) (by decide)

/-! ## The API base -/

/-- The request that a submit sends now. -/
def sent (d : RegisterModelDialog) : Option RegisterModelRequest :=
  if d.isOpen then d.handleSubmit else none

/-- A request that is sent now carries an API base only where the field is shown, and for an
OpenAI-compatible provider the text of the field. -/
def BaseSent (d : RegisterModelDialog) : Prop :=
  ∀ req, d.sent = some req →
    (req.toValue.prop "apiBase" ≠ none → d.baseShown = true) ∧
    (d.provider = .compatible → req.toValue.prop "apiBase" = some (.string (trim d.apiBase)))

/-- The same, however the other fields are filled in, and whether or not a request is pending. -/
def BaseSentFilled (d : RegisterModelDialog) : Prop :=
  ∀ modelName model apiKey mutation, BaseSent { d with modelName, model, apiKey, mutation }

/-- The open dialog holds no API base that is not shown. -/
def NoHiddenBase (d : RegisterModelDialog) : Prop :=
  d.isOpen = true → d.provider ≠ .compatible → trim d.apiBase = ""

/-- The OpenAI-compatible provider is left with a blank API base only. -/
def Calm (d : RegisterModelDialog) (e : RegisterEvent) : Prop :=
  ∀ p, e = .select p → d.baseShown = true → p ≠ .compatible → trim d.apiBase = ""

theorem toValue_apiBase (r : RegisterModelRequest) :
    r.toValue.prop "apiBase" = r.apiBase.map .string := by
  obtain ⟨modelName, model, apiKey, apiBase, extraParams⟩ := r
  cases apiBase <;> cases extraParams <;> rfl

theorem sent_some {d : RegisterModelDialog} {req : RegisterModelRequest} (h : d.sent = some req) :
    d.isOpen = true ∧ d.canSubmit = true ∧
      req.apiBase = if trim d.apiBase ≠ "" then some (trim d.apiBase) else none := by
  unfold sent handleSubmit at h
  split at h
  · rename_i hopen
    split at h
    · rename_i hcan
      have hreq := Option.some.inj h
      exact ⟨hopen, hcan, by rw [← hreq]⟩
    · cases h
  · cases h

theorem baseSent_of_noHiddenBase {d : RegisterModelDialog} (h : NoHiddenBase d) : BaseSent d := by
  intro req hsent
  obtain ⟨hopen, hcan, hbase⟩ := sent_some hsent
  rw [toValue_apiBase, hbase]
  constructor
  · intro hcarried
    by_contra hhidden
    have hother : d.provider ≠ .compatible := by
      intro hp
      exact hhidden (by simp [baseShown, hopen, hp])
    rw [if_neg (not_not.mpr (h hopen hother))] at hcarried
    exact hcarried rfl
  · intro hp
    have hfilled : trim d.apiBase ≠ "" := by
      simp only [canSubmit, hp, Bool.and_eq_true] at hcan
      simpa using hcan.1.2
    rw [if_pos hfilled]
    rfl

theorem noHiddenBase_of_baseSentFilled {d : RegisterModelDialog} (h : BaseSentFilled d) :
    NoHiddenBase d := by
  intro hopen hp
  by_contra hbase
  have hm : trim "m" = "m" := by decide
  have hsent : sent { d with modelName := "m", model := "m", apiKey := "k", mutation := {} } =
      some { modelName := "m", model := "m", apiKey := "k", apiBase := some (trim d.apiBase) } := by
    simp [sent, handleSubmit, canSubmit, Mutation.isPending, hopen, hp, hbase, hm]
  have hshown := (h "m" "m" "k" {} _ hsent).1 (by rw [toValue_apiBase]; simp)
  simp [baseShown, hp] at hshown

/-- **No API base is hidden** exactly as long as the text has nothing to hide. -/
theorem baseSentFilled_iff (d : RegisterModelDialog) : BaseSentFilled d ↔ NoHiddenBase d :=
  ⟨noHiddenBase_of_baseSentFilled, fun h _ _ _ _ => baseSent_of_noHiddenBase h⟩

/-- A change that depends on a condition. -/
theorem NoHiddenBase.ite {c : Prop} [Decidable c] {d d' : RegisterModelDialog}
    (hthen : c → NoHiddenBase d') (helse : NoHiddenBase d) :
    NoHiddenBase (if c then d' else d) := by
  split
  · rename_i hc
    exact hthen hc
  · exact helse

theorem noHiddenBase_step (d : RegisterModelDialog) (e : RegisterEvent) (hcalm : Calm d e)
    (h : NoHiddenBase d) : NoHiddenBase (d.step e) := by
  cases e with
  | openDialog =>
    apply NoHiddenBase.ite fun _ => h
    exact fun _ _ => show trim "" = "" by decide
  | closeDialog =>
    intro hopen
    cases hopen
  | editModelName text => exact .ite (fun _ => h) h
  | editModel text => exact .ite (fun _ => h) h
  | editApiKey text => exact .ite (fun _ => h) h
  | editApiBase text =>
    refine .ite (fun hshown => ?_) h
    intro _ hp
    simp [baseShown, hp] at hshown
  | select p =>
    refine .ite (fun _ => ?_) h
    intro (hopen : d.isOpen = true) hp
    show trim d.apiBase = ""
    by_cases hprovider : d.provider = .compatible
    · exact hcalm p rfl (by simpa [baseShown, hprovider] using hopen) hp
    · exact h hopen hprovider
  | submit => exact .ite (fun _ => h) h
  | succeed id =>
    refine .ite (fun _ => ?_) h
    intro hopen
    cases hopen
  | fail id => exact h

theorem hidden_of_not_calm (d : RegisterModelDialog) (e : RegisterEvent) (_ : NoHiddenBase d)
    (hcalm : ¬ Calm d e) : ¬ BaseSentFilled (d.step e) := by
  unfold Calm at hcalm
  push Not at hcalm
  obtain ⟨p, rfl, hshown, hp, hbase⟩ := hcalm
  simp only [baseShown, Bool.and_eq_true, beq_iff_eq] at hshown
  have hchosen : d.step (.select p) = d.applyProvider p :=
    choose_eq hshown.1 (hshown.2 ▸ hp)
  rw [baseSentFilled_iff, hchosen]
  exact fun hnone => hbase (hnone hshown.1 hp)

/-- **No hidden API base is submitted** in a run, whenever and however the form is filled in and
submitted, exactly when the OpenAI-compatible provider is left with a blank API base only; after
such a run a submit of the form as it is sends none. -/
theorem base_shown_iff (events : List RegisterEvent) :
    (Machine.Always BaseSentFilled step {} events ↔ Machine.Along Calm step {} events) ∧
      (Machine.Along Calm step {} events → BaseSent (Machine.run step {} events)) := by
  have hclosed : NoHiddenBase {} := by
    intro hopen
    cases hopen
  have hsafe : ∀ d, NoHiddenBase d → BaseSentFilled d := fun d h => (baseSentFilled_iff d).mpr h
  constructor
  · exact Machine.always_iff_along hsafe noHiddenBase_step hidden_of_not_calm events {} hclosed
  · intro hcalm
    apply baseSent_of_noHiddenBase
    exact Machine.run_invariant_along noHiddenBase_step events {} hcalm hclosed

/-- The user fills in the API base of an endpoint, then chooses Anthropic. -/
def switchedEvents : List RegisterEvent :=
  [.openDialog, .select .compatible, .editApiBase "https://llm.local/v1", .select .anthropic,
    .editModelName "claude", .editModel "anthropic/claude", .editApiKey "sk-ant"]

/-- The key of Anthropic is registered for that endpoint. -/
theorem base_shown_counterexample :
    ¬ ∀ events : List RegisterEvent, BaseSent (Machine.run step {} events) := by
  intro h
  have hsent : (Machine.run step {} switchedEvents).sent.map (·.apiBase) =
      some (some "https://llm.local/v1") := by
    decide +kernel
  obtain ⟨req, hreq, hbase⟩ := Option.map_eq_some_iff.mp hsent
  have hshown := (h switchedEvents req hreq).1 (by rw [toValue_apiBase, hbase]; simp)
  exact absurd hshown (by decide +kernel)

end RegisterModelDialog

end Frontend
