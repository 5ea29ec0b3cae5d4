import SubstrateControl.Gateway.Models
import Mathlib.Data.List.Infix

/-!
# The has-key flag of a model

What `normalizeModel` (`internal/gateway/client.go`) says about the key of a registration.

* `NamesCredential`, `sensitiveField_iff` — the names of credentials, letter case left aside.
* `CarriesCredential`, `hasCredentials_iff` — a credential that is visible in the parameters.
* `Keyed` — what the flag is for: a visible credential, or a model of the database.
* `hasAPIKey_exact_iff` — the flag is exact but for models of the configuration file that say so
  and show no credential.
-/

set_option autoImplicit false

namespace Gateway

open Go

/-- The name contains one of the words, letter case left aside. -/
def NamesCredential (k : String) : Prop :=
  ∃ word ∈ ["key", "secret", "password"], ∃ mid, mid <:+: k.toList ∧
    mid.map lowerRune = word.toList

/-- A parameter with a credential's name has a value. -/
def CarriesCredential (params : JObj) : Prop :=
  ∃ kv ∈ params, NamesCredential kv.1 ∧ kv.2 ≠ .null ∧ kv.2 ≠ .str ""

/-- A registration that has a key: one is visible, or the model is one of the database. -/
def Keyed (params info : JObj) : Prop :=
  CarriesCredential params ∨ info.get "db_model" = .bool true

theorem contains_iff (s sub : String) : contains s sub = true ↔ sub.toList <:+: s.toList := by
  unfold contains
  rw [List.any_eq_true, List.infix_iff_prefix_suffix]
  constructor
  · rintro ⟨t, ht, hpre⟩
    exact ⟨t, List.isPrefixOf_iff_prefix.mp hpre, (List.mem_tails _ _).mp ht⟩
  · rintro ⟨t, hpre, ht⟩
    exact ⟨t, (List.mem_tails _ _).mpr ht, List.isPrefixOf_iff_prefix.mpr hpre⟩

theorem sensitiveField_iff (k : String) : sensitiveField k = true ↔ NamesCredential k := by
  have hword : ∀ word : String, contains (toLower k) word = true ↔
      ∃ mid, mid <:+: k.toList ∧ mid.map lowerRune = word.toList := by
    intro word
    rw [contains_iff, toLower, String.toList_ofList, List.infix_map_iff]
    simp only [eq_comm]
  unfold sensitiveField NamesCredential
  simp only [Bool.or_eq_true, hword, List.mem_cons, List.not_mem_nil, or_false, exists_eq_or_imp,
    exists_eq_left, or_assoc]

theorem isEmpty_eq_false {v : JVal} : v.isEmpty = false ↔ v ≠ .null ∧ v ≠ .str "" := by
  cases v <;> simp [JVal.isEmpty]

theorem hasCredentials_iff (params : JObj) :
    hasCredentials params = true ↔ CarriesCredential params := by
  unfold hasCredentials CarriesCredential
  rw [List.any_eq_true]
  refine exists_congr fun kv => and_congr_right fun _ => ?_
  rw [Bool.and_eq_true, sensitiveField_iff, Bool.not_eq_true', isEmpty_eq_false]

/-- The scan ends the same in every order of the map. -/
theorem hasCredentials_perm {params params' : JObj} (h : params'.Perm params) :
    hasCredentials params' = hasCredentials params := h.any_eq

/-- The hint is the type of `db_model`, not its value. -/
theorem isDBModel_iff (info : JObj) : isDBModel info = true ↔
    info.get "db_model" = .bool true ∨ info.get "db_model" = .bool false := by
  unfold isDBModel
  cases info.get "db_model" with
  | bool b => cases b <;> simp
  | null => simp
  | num q => simp
  | str s => simp
  | arr xs => simp
  | obj m => simp

/-- **The has-key flag is exact**, in whatever order the parameters come, unless `db_model` is false
and no credential is visible. -/
theorem hasAPIKey_exact_iff (go : Runtime) (modelName : String) (params params' info : JObj)
    (horder : params'.Perm params) :
    ((normalizeModel go modelName params' info).hasAPIKey = true ↔ Keyed params info) ↔
      ¬ (info.get "db_model" = .bool false ∧ ¬ CarriesCredential params) := by
  have hflag : (normalizeModel go modelName params' info).hasAPIKey = true ↔
      CarriesCredential params ∨ info.get "db_model" = .bool true ∨
        info.get "db_model" = .bool false := by
    rw [← hasCredentials_iff, ← isDBModel_iff, ← hasCredentials_perm horder, ← Bool.or_eq_true]
    rfl
  unfold Keyed
  rw [hflag]
  by_cases hcred : CarriesCredential params
  · simp [hcred]
  · by_cases hfalse : info.get "db_model" = .bool false
    · simp [hcred, hfalse]
    · simp [hcred, hfalse]

/-- A model of the configuration file that names an API base, its parameters in reverse. -/
theorem hasAPIKey_exact_fileModel :
    let params : JObj := [("model", .str "ollama/llama3"), ("api_base", .str "http://ollama")]
    let info : JObj := [("id", .str "m1")]
    ((normalizeModel ⟨fun _ => "", fun _ => 0⟩ "llama" params.reverse info).hasAPIKey = true ↔
      Keyed params info) ↔ ¬ (info.get "db_model" = .bool false ∧ ¬ CarriesCredential params) := by
  intro params info
  exact hasAPIKey_exact_iff _ _ _ _ _ (List.reverse_perm params)

/-- A model of the configuration file without a credential is reported as keyed. -/
theorem hasAPIKey_exact_counterexample :
    let params : JObj := [("model", .str "ollama/llama3")]
    let info : JObj := [("db_model", .bool false)]
    (normalizeModel ⟨fun _ => "", fun _ => 0⟩ "llama" params info).hasAPIKey = true ∧
      ¬ Keyed params info := by
  intro params info
  refine ⟨by decide, ?_⟩
  rintro (hcred | hdb)
  · rw [← hasCredentials_iff] at hcred
    revert hcred
    decide
  · cases hdb

end Gateway
