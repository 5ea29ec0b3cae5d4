import SubstrateControl.Api.Monitoring
import Mathlib.Algebra.Order.Ring.Rat
import Mathlib.Tactic.NormNum

/-!
# What the spend rows of the overview add up to

* `row_spend_key`, `row_spend_model` — a row shows the seeded total of its last list entry plus
  the spend of its logs.
* `Attributed` — the attribution the section is documented to make: the logs' spend for a key
  with traffic in the window, the lifetime total for a key without.
* `spend_attributed_iff` — it makes that attribution exactly when no key with traffic was seeded
  with a non-zero total (and no quiet key is listed with two different totals): the seeded total
  is never reset before the logs are added to it.
* `Conserved` — requests and tokens of the rows add up to the totals, and no key or model has
  two rows.
* `conserved_iff` — this holds exactly when no key and no model is listed twice: the seeding loop
  appends to the order list without the membership test the log loop makes.
-/

set_option autoImplicit false

namespace Api

open Go Gateway Kit

/-! ## Rows of the two tables -/

variable {keys : List KeySpend} {models : List ModelSpend} {logs : List SpendLogEntry}

theorem seedKeys_order (keys : List KeySpend) : (seedKeys keys).order = keys.map (·.apiKey) := by
  simp [seedKeys, Table.announceAll_order, Table.empty]

theorem seedModels_order (models : List ModelSpend) :
    (seedModels models).order = models.map (·.model) := by
  simp [seedModels, Table.announceAll_order, Table.empty]

theorem seedKeys_row (keys : List KeySpend) (h : String) :
    (seedKeys keys).row h = (keys.filter fun k => k.apiKey = h).getLast?.map
      fun k => ⟨k.keyAlias, k.keyName, k.totalSpend, 0, 0⟩ := by
  simp [seedKeys, Table.announceAll_row, Table.empty]

theorem seedModels_row (models : List ModelSpend) (m : String) :
    (seedModels models).row m = (models.filter fun e => e.model = m).getLast?.map
      fun e => ⟨e.model, e.totalSpend, 0, 0⟩ := by
  simp [seedModels, Table.announceAll_row, Table.empty]

theorem mem_keyRows_order (h : String) :
    h ∈ (keyRows keys logs).order ↔ h ∈ keys.map (·.apiKey) ∨ h ∈ logs.map (·.apiKey) := by
  rw [keyRows, Table.mem_touchAll_order, seedKeys_order]

theorem mem_modelRows_order (m : String) :
    m ∈ (modelRows models logs).order ↔ m ∈ models.map (·.model) ∨ m ∈ logs.map (·.model) := by
  rw [modelRows, Table.mem_touchAll_order, seedModels_order]

/-! ## Attribution -/

/-- The total of the last entry of `h`, zero without one. -/
def lifetime (totals : List (String × ℚ)) (h : String) : ℚ :=
  ((totals.filter fun e => e.1 = h).getLast?.map Prod.snd).getD 0

/-- The spend of the logs of `h`. -/
def windowSpend (spends : List (String × ℚ)) (h : String) : ℚ :=
  ((spends.filter fun e => e.1 = h).map Prod.snd).sum

/-- Each row shows the window's spend when the window has logs of its key, and the lifetime
total otherwise. -/
def Attributed (totals spends rows : List (String × ℚ)) : Prop :=
  ∀ h s, (h, s) ∈ rows →
    (h ∈ spends.map Prod.fst → s = windowSpend spends h) ∧
    (h ∉ spends.map Prod.fst → ∀ t, (h, t) ∈ totals → s = t)

/-- The lifetime totals that do no harm: zero for every key with logs in the window, and the same
in all entries of a key without. -/
def TotalsHarmless (totals spends : List (String × ℚ)) : Prop :=
  (∀ h ∈ spends.map Prod.fst, lifetime totals h = 0) ∧
  ∀ h t, h ∉ spends.map Prod.fst → (h, t) ∈ totals → t = lifetime totals h

theorem windowSpend_of_not_mem {spends : List (String × ℚ)} {h : String}
    (hn : h ∉ spends.map Prod.fst) : windowSpend spends h = 0 := by
  have hnil : (spends.filter fun e => e.1 = h) = [] := by
    rw [List.filter_eq_nil_iff]
    intro e he heq
    exact hn (List.mem_map.mpr ⟨e, he, by simpa using heq⟩)
  simp [windowSpend, hnil]

/-- Rows that show "total plus window" are attributed exactly when the totals are harmless. -/
theorem attributed_iff_harmless {totals spends rows : List (String × ℚ)}
    (hrow : ∀ h s, (h, s) ∈ rows → s = lifetime totals h + windowSpend spends h)
    (hmem : ∀ h, h ∈ totals.map Prod.fst ∨ h ∈ spends.map Prod.fst → ∃ s, (h, s) ∈ rows) :
    Attributed totals spends rows ↔ TotalsHarmless totals spends := by
  constructor
  · intro hat
    refine ⟨fun h hh => ?_, fun h t hh ht => ?_⟩
    · obtain ⟨s, hs⟩ := hmem h (Or.inr hh)
      have h1 := hrow h s hs
      rw [(hat h s hs).1 hh] at h1
      exact left_eq_add.mp (h1.trans (add_comm _ _))
    · obtain ⟨s, hs⟩ := hmem h (Or.inl (List.mem_map.mpr ⟨_, ht, rfl⟩))
      rw [← (hat h s hs).2 hh t ht, hrow h s hs, windowSpend_of_not_mem hh, add_zero]
  · intro hharm h s hs
    refine ⟨fun hh => ?_, fun hh t ht => ?_⟩
    · rw [hrow h s hs, hharm.1 h hh, zero_add]
    · rw [hrow h s hs, windowSpend_of_not_mem hh, add_zero, hharm.2 h t hh ht]

def keyTotals (keys : List KeySpend) : List (String × ℚ) :=
  keys.map fun k => (k.apiKey, k.totalSpend)

def modelTotals (models : List ModelSpend) : List (String × ℚ) :=
  models.map fun m => (m.model, m.totalSpend)

def keySpends (logs : List SpendLogEntry) : List (String × ℚ) :=
  logs.map fun l => (l.apiKey, l.spend)

def modelSpends (logs : List SpendLogEntry) : List (String × ℚ) :=
  logs.map fun l => (l.model, l.spend)

/-- **A key row shows its seeded total plus the spend of its logs.** -/
theorem row_spend_key {h : String} {r : SpendByKeyJSON} (hr : (keyRows keys logs).row h = some r) :
    r.spend = lifetime (keyTotals keys) h + windowSpend (keySpends logs) h := by
  unfold keyRows at hr
  rw [Table.field_touchAll (p := SpendByKeyJSON.spend) (w := SpendLogEntry.spend) _ _ _
    (fun _ _ => rfl) _ _ hr, seedKeys_row]
  simp only [lifetime, keyTotals, windowSpend, keySpends, List.filter_map, List.map_map,
    List.getLast?_map, Option.map_map, Function.comp_def]
  cases (keys.filter fun k => k.apiKey = h).getLast? <;> rfl

/-- **A model row shows its seeded total plus the spend of its logs.** -/
theorem row_spend_model {m : String} {r : SpendByModelJSON}
    (hr : (modelRows models logs).row m = some r) :
    r.spend = lifetime (modelTotals models) m + windowSpend (modelSpends logs) m := by
  unfold modelRows at hr
  rw [Table.field_touchAll (p := SpendByModelJSON.spend) (w := SpendLogEntry.spend) _ _ _
    (fun _ _ => rfl) _ _ hr, seedModels_row]
  simp only [lifetime, modelTotals, windowSpend, modelSpends, List.filter_map, List.map_map,
    List.getLast?_map, Option.map_map, Function.comp_def]
  cases (models.filter fun e => e.model = m).getLast? <;> rfl

/-- A model row carries the model it stands for. -/
theorem row_model {m : String} {r : SpendByModelJSON}
    (hr : (modelRows models logs).row m = some r) : r.model = m := by
  unfold modelRows at hr
  refine Table.forall_row_touchAll (Q := fun m (r : SpendByModelJSON) => r.model = m) _ _
    SpendByModelJSON.add (fun _ _ _ h => h) _ (fun m => ?_) _ hr
  rw [seedModels_row]
  cases hl : (models.filter fun e => e.model = m).getLast? with
  | none => rfl
  | some e => simpa using (List.mem_filter.mp (List.mem_of_getLast? hl)).2

/-- The emitted key rows, each with the key it stands for. -/
def shownKeySpend (out : GatewayMetricsJSON) (keyOrder : List String) : List (String × ℚ) :=
  keyOrder.zip (out.spendByKey.map (·.spend))

/-- The emitted model rows. -/
def shownModelSpend (out : GatewayMetricsJSON) : List (String × ℚ) :=
  out.spendByModel.map fun r => (r.model, r.spend)

section Answered

variable (go : Runtime) (global : GlobalSpend) (rawLogs rawKeys rawModels : List JObj)

theorem shownKeySpend_answered :
    shownKeySpend (collectGatewayMetrics (answered go global rawLogs rawKeys rawModels))
        (keyRows (globalSpendKeys go rawKeys) (spendLogs go rawLogs)).order =
      (keyRows (globalSpendKeys go rawKeys) (spendLogs go rawLogs)).entries.map
        fun e => (e.1, e.2.spend) := by
  simp only [shownKeySpend, collectGatewayMetrics, answered, List.map_map]
  rw [← Table.entries_map_fst, List.zip_map']
  rfl

theorem shownModelSpend_answered :
    shownModelSpend (collectGatewayMetrics (answered go global rawLogs rawKeys rawModels)) =
      (modelRows (globalSpendModels go rawModels) (spendLogs go rawLogs)).entries.map
        fun e => (e.1, e.2.spend) := by
  simp only [shownModelSpend, collectGatewayMetrics, answered, List.map_map, Function.comp_def]
  refine List.map_congr_left fun e he => ?_
  rw [row_model (Table.mem_entries.mp he)]

/-- The whole section attributes spend as documented, for keys and for models. -/
def SpendAttributed : Prop :=
  let keys := globalSpendKeys go rawKeys
  let models := globalSpendModels go rawModels
  let logs := spendLogs go rawLogs
  let out := collectGatewayMetrics (answered go global rawLogs rawKeys rawModels)
  Attributed (keyTotals keys) (keySpends logs) (shownKeySpend out (keyRows keys logs).order) ∧
    Attributed (modelTotals models) (modelSpends logs) (shownModelSpend out)

/-- **Spend attribution.**  The section attributes every key's and every model's spend correctly
exactly when the lifetime totals of both lists are harmless. -/
theorem spend_attributed_iff :
    SpendAttributed go global rawLogs rawKeys rawModels ↔
      TotalsHarmless (keyTotals (globalSpendKeys go rawKeys)) (keySpends (spendLogs go rawLogs)) ∧
      TotalsHarmless (modelTotals (globalSpendModels go rawModels))
        (modelSpends (spendLogs go rawLogs)) := by
  refine and_congr (attributed_iff_harmless ?_ ?_) (attributed_iff_harmless ?_ ?_)
  · intro h s hs
    rw [shownKeySpend_answered, Table.mem_map_entries] at hs
    obtain ⟨r, hr, rfl⟩ := hs
    exact row_spend_key hr
  · intro h hh
    have ho : h ∈ (keyRows (globalSpendKeys go rawKeys) (spendLogs go rawLogs)).order := by
      rw [mem_keyRows_order]
      simpa [keyTotals, keySpends] using hh
    obtain ⟨r, hr⟩ := Table.exists_row_of_mem ho
    rw [shownKeySpend_answered]
    exact ⟨r.spend, Table.mem_map_entries.mpr ⟨r, hr, rfl⟩⟩
  · intro m s hs
    rw [shownModelSpend_answered, Table.mem_map_entries] at hs
    obtain ⟨r, hr, rfl⟩ := hs
    exact row_spend_model hr
  · intro m hm
    have ho : m ∈ (modelRows (globalSpendModels go rawModels) (spendLogs go rawLogs)).order := by
      rw [mem_modelRows_order]
      simpa [modelTotals, modelSpends] using hm
    obtain ⟨r, hr⟩ := Table.exists_row_of_mem ho
    rw [shownModelSpend_answered]
    exact ⟨r.spend, Table.mem_map_entries.mpr ⟨r, hr, rfl⟩⟩

end Answered

/-- A runtime for concrete runs that print no float and convert none out of range. -/
def plainRuntime : Runtime := ⟨fun q => toString q, fun _ => Int64.minValue⟩

/-- A key with a lifetime total of 5 and one log of 2 in the window is shown with 7. -/
theorem spend_attributed_counterexample :
    ¬ SpendAttributed plainRuntime ⟨7, 0⟩
        [[("api_key", .str "k1"), ("model", .str "m1"), ("spend", .num 2)]]
        [[("api_key", .str "k1"), ("total_spend", .num 5)]] [] := by
  rintro ⟨hkeys, -⟩
  have hrow := (hkeys "k1" 7 (by decide +kernel)).1 (by decide +kernel)
  have hsum : windowSpend (keySpends (spendLogs plainRuntime
      [[("api_key", .str "k1"), ("model", .str "m1"), ("spend", .num 2)]])) "k1" = 2 := by
    decide +kernel
  rw [hsum] at hrow
  norm_num at hrow

/-! ## Conservation -/

/-- The rows account for every request and every token once, and no key or model has two rows.
Token counts are int64 counters and are added as such. -/
structure Conserved (out : GatewayMetricsJSON) (keyOrder : List String) : Prop where
  keyRequests : (out.spendByKey.map (·.requests)).sum = out.totalRequests
  modelRequests : (out.spendByModel.map (·.requests)).sum = out.totalRequests
  keyTokens : (out.spendByKey.map (·.tokens)).sum = out.tokens.total
  modelTokens : (out.spendByModel.map (·.tokens)).sum = out.tokens.total
  keysOnce : keyOrder.Nodup
  modelsOnce : (out.spendByModel.map (·.model)).Nodup

/-- Seeded and fresh key rows count nothing yet. -/
theorem seedKeys_counts (keys : List KeySpend) (h : String) :
    (((seedKeys keys).row h).getD ⟨"", "", 0, 0, 0⟩).requests = 0 ∧
      (((seedKeys keys).row h).getD ⟨"", "", 0, 0, 0⟩).tokens = 0 := by
  rw [seedKeys_row]
  cases (keys.filter fun k => k.apiKey = h).getLast? <;> exact ⟨rfl, rfl⟩

/-- Seeded and fresh model rows count nothing yet. -/
theorem seedModels_counts (models : List ModelSpend) (m : String) :
    (((seedModels models).row m).getD ⟨m, 0, 0, 0⟩).requests = 0 ∧
      (((seedModels models).row m).getD ⟨m, 0, 0, 0⟩).tokens = 0 := by
  rw [seedModels_row]
  cases (models.filter fun e => e.model = m).getLast? <;> exact ⟨rfl, rfl⟩

theorem keyRows_sums (hnd : (keys.map (·.apiKey)).Nodup) (logs : List SpendLogEntry) :
    ((keyRows keys logs).entries.map fun e => e.2.requests).sum = logs.length ∧
      ((keyRows keys logs).entries.map fun e => e.2.tokens).sum =
        (logs.map (·.totalTokens)).sum := by
  rw [← seedKeys_order] at hnd
  constructor
  · have hone := Table.sum_entries_touchAll (·.apiKey) _ SpendByKeyJSON.add
      (p := SpendByKeyJSON.requests) (w := fun _ => 1) (fun _ _ => rfl)
      (fun h => (seedKeys_counts keys h).1) hnd logs
    simpa [keyRows] using hone
  · exact Table.sum_entries_touchAll _ _ SpendByKeyJSON.add (fun _ _ => rfl)
      (fun h => (seedKeys_counts keys h).2) hnd logs

theorem modelRows_sums (hnd : (models.map (·.model)).Nodup) (logs : List SpendLogEntry) :
    ((modelRows models logs).entries.map fun e => e.2.requests).sum = logs.length ∧
      ((modelRows models logs).entries.map fun e => e.2.tokens).sum =
        (logs.map (·.totalTokens)).sum := by
  rw [← seedModels_order] at hnd
  constructor
  · have hone := Table.sum_entries_touchAll (·.model) _ SpendByModelJSON.add
      (p := SpendByModelJSON.requests) (w := fun _ => 1) (fun _ _ => rfl)
      (fun m => (seedModels_counts models m).1) hnd logs
    simpa [modelRows] using hone
  · exact Table.sum_entries_touchAll _ _ SpendByModelJSON.add (fun _ _ => rfl)
      (fun m => (seedModels_counts models m).2) hnd logs

theorem keyRows_nodup (keys : List KeySpend) (logs : List SpendLogEntry) :
    (keyRows keys logs).order.Nodup ↔ (keys.map (·.apiKey)).Nodup := by
  rw [keyRows, Table.nodup_touchAll, seedKeys_order]

theorem modelRows_nodup (models : List ModelSpend) (logs : List SpendLogEntry) :
    (modelRows models logs).order.Nodup ↔ (models.map (·.model)).Nodup := by
  rw [modelRows, Table.nodup_touchAll, seedModels_order]

/-- The models shown are the models of the order list. -/
theorem shown_models (models : List ModelSpend) (logs : List SpendLogEntry) :
    ((modelRows models logs).entries.map fun e => e.2.model) = (modelRows models logs).order := by
  rw [← Table.entries_map_fst]
  exact List.map_congr_left fun e he => row_model (Table.mem_entries.mp he)

/-- **Conservation.**  The rows account for the totals, each key and model in one row, exactly
when no key hash and no model occurs twice in the lists of known ones. -/
theorem conserved_iff (go : Runtime) (global : GlobalSpend)
    (rawLogs rawKeys rawModels : List JObj) :
    Conserved (collectGatewayMetrics (answered go global rawLogs rawKeys rawModels))
        (keyRows (globalSpendKeys go rawKeys) (spendLogs go rawLogs)).order ↔
      (rawKeys.map fun e => strField go e "api_key").Nodup ∧
        (rawModels.map fun e => strField go e "model").Nodup := by
  have hkeys : (rawKeys.map fun e => strField go e "api_key") =
      (globalSpendKeys go rawKeys).map (·.apiKey) := by simp [globalSpendKeys]
  have hmodels : (rawModels.map fun e => strField go e "model") =
      (globalSpendModels go rawModels).map (·.model) := by simp [globalSpendModels]
  rw [hkeys, hmodels]
  constructor
  · intro h
    refine ⟨(keyRows_nodup _ _).mp h.keysOnce, ?_⟩
    have hm := h.modelsOnce
    simp only [collectGatewayMetrics, answered, List.map_map, Function.comp_def] at hm
    rwa [shown_models, modelRows_nodup] at hm
  · rintro ⟨hk, hm⟩
    have hks := keyRows_sums hk (spendLogs go rawLogs)
    have hms := modelRows_sums hm (spendLogs go rawLogs)
    refine ⟨?_, ?_, ?_, ?_, (keyRows_nodup _ _).mpr hk, ?_⟩ <;>
      simp only [collectGatewayMetrics, answered, List.map_map, Function.comp_def]
    · exact hks.1
    · exact hms.1
    · exact hks.2
    · exact hms.2
    · rw [shown_models]
      exact (modelRows_nodup _ _).mpr hm

/-- Two entries without an `api_key` and one log without one: the log is counted in two rows. -/
theorem conserved_counterexample :
    ¬ Conserved (collectGatewayMetrics (answered plainRuntime ⟨0, 0⟩ [[]] [[], []] []))
        (keyRows (globalSpendKeys plainRuntime [[], []]) (spendLogs plainRuntime [[]])).order := by
  intro h
  exact absurd h.keyRequests (by decide +kernel)

end Api
