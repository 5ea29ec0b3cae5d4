import SubstrateControl.Api.Attribution
import SubstrateControl.Api.Reads

/-!
# One alias for a key hash

`handleMetricsSpendLogs` and `collectGatewayMetrics` (`internal/api/monitoring.go`) each build a map
of their own from the list of known keys.

* `aliasByHash_eq`, `keyRow_keyAlias` — in both maps the last entry of a hash gives its alias.
* `keyRow_requests` — the row of a hash counts the logs of that hash.
* `CountedIn` — the rows of the section a log is counted in.
* `NamedAsRow` — an entry is shown with the alias of the row it is counted in.
* `spendLogs_named_as_rows` — the spend logs name every entry as the overview does.
-/

set_option autoImplicit false

namespace Api

open Go Gateway Kit

variable {keys : List KeySpend} {logs : List SpendLogEntry} {h : String} {r : SpendByKeyJSON}

/-- The last entry of a hash gives its alias. -/
theorem aliasByHash_eq (keys : List KeySpend) (h : String) :
    aliasByHash keys h =
      ((keys.filter fun k => k.apiKey = h).getLast?.map (·.keyAlias)).getD "" := by
  suffices hfold : ∀ m : String → String,
      keys.foldl (fun m k hash => if hash = k.apiKey then k.keyAlias else m hash) m h =
        ((keys.filter fun k => k.apiKey = h).getLast?.map (·.keyAlias)).getD (m h) from
    hfold fun _ => ""
  induction keys with
  | nil => exact fun m => rfl
  | cons k keys ih =>
    intro m
    rw [List.foldl_cons, ih]
    by_cases hk : k.apiKey = h
    · have hfirst : (if h = k.apiKey then k.keyAlias else m h) = k.keyAlias := if_pos hk.symm
      rw [hfirst, List.filter_cons_of_pos (by simpa using hk), List.getLast?_cons]
      cases (keys.filter fun k => k.apiKey = h).getLast? <;> rfl
    · have hrest : (if h = k.apiKey then k.keyAlias else m h) = m h := if_neg fun e => hk e.symm
      rw [hrest, List.filter_cons_of_neg (by simpa using hk)]

/-- **A key row carries the alias of its hash**: counting a log leaves it alone, and a row made for
an unknown hash has none. -/
theorem keyRow_keyAlias (hr : (keyRows keys logs).row h = some r) :
    r.keyAlias = aliasByHash keys h := by
  unfold keyRows at hr
  refine Table.forall_row_touchAll (Q := fun h (r : SpendByKeyJSON) =>
    r.keyAlias = aliasByHash keys h) _ _ SpendByKeyJSON.add (fun _ _ _ hq => hq) _ (fun h => ?_)
    _ hr
  rw [seedKeys_row, aliasByHash_eq]
  cases (keys.filter fun k => k.apiKey = h).getLast? <;> rfl

/-- **A key row counts the logs of its hash.** -/
theorem keyRow_requests (hr : (keyRows keys logs).row h = some r) :
    r.requests = logs.countP fun l => l.apiKey = h := by
  unfold keyRows at hr
  rw [Table.field_touchAll (p := SpendByKeyJSON.requests) (w := fun _ => 1) _ _ _
    (fun _ _ => rfl) _ _ hr, (seedKeys_counts keys h).1]
  simp [List.countP_eq_length_filter]

/-! ## The two answers -/

/-- The rows of the section that the log is counted in: those at the places of its hash. -/
def CountedIn (keys : List KeySpend) (logs : List SpendLogEntry) (out : GatewayMetricsJSON)
    (l : SpendLogEntry) (r : SpendByKeyJSON) : Prop :=
  (l.apiKey, r) ∈ (keyRows keys logs).order.zip out.spendByKey

theorem countedIn_iff {global : GlobalSpend} {models : List ModelSpend} {l : SpendLogEntry} :
    CountedIn keys logs (collectGatewayMetrics ⟨.ok global, .ok logs, .ok keys, .ok models⟩) l r ↔
      (keyRows keys logs).row l.apiKey = some r := by
  have hzip : (keyRows keys logs).order.zip
      (collectGatewayMetrics ⟨.ok global, .ok logs, .ok keys, .ok models⟩).spendByKey =
      (keyRows keys logs).entries := by
    rw [← Table.entries_map_fst]
    exact List.zip_map'.trans (List.map_id _)
  unfold CountedIn
  rw [hzip, Table.mem_entries]

/-- The entry is counted in a row, and shown with the alias of every row it is counted in; such a
row counts the entries of its hash and no others. -/
def NamedAsRow (keys : List KeySpend) (logs : List SpendLogEntry) (out : GatewayMetricsJSON)
    (l : SpendLogEntry) (shown : SpendLogJSON) : Prop :=
  (∃ r, CountedIn keys logs out l r) ∧
    ∀ r, CountedIn keys logs out l r →
      r.requests = (logs.countP fun l' => l'.apiKey = l.apiKey) ∧ shown.keyAlias = r.keyAlias

theorem spendLogJSON_named {global : GlobalSpend} {models : List ModelSpend} {l : SpendLogEntry}
    (hl : l ∈ logs) :
    NamedAsRow keys logs (collectGatewayMetrics ⟨.ok global, .ok logs, .ok keys, .ok models⟩) l
      (spendLogJSON keys l) := by
  have hlisted : l.apiKey ∈ (keyRows keys logs).order :=
    (mem_keyRows_order _).mpr (.inr (List.mem_map_of_mem hl))
  obtain ⟨r, hr⟩ := Table.exists_row_of_mem hlisted
  refine ⟨⟨r, countedIn_iff.mpr hr⟩, fun r' hcounted => ?_⟩
  have hr' := countedIn_iff.mp hcounted
  exact ⟨keyRow_requests hr', (keyRow_keyAlias hr').symm⟩

/-- **The spend logs and the overview name the same key.**  Given the same keys and logs, every
entry is shown with the alias of the row it is counted in. -/
theorem spendLogs_named_as_rows {Atespace Actor Worker : Type}
    (s : Reader Atespace Actor Worker) {q : String} {limit : ℤ}
    (hlimit : spendLogsLimit q = some limit) (hlogs : s.spendLogs limit = .ok logs)
    (hkeys : s.globalSpendKeys = .ok keys) (global : GlobalSpend) (models : List ModelSpend) :
    ∃ shown, (handleMetricsSpendLogs s q).trace.responses = [.ok (.spendLogs shown)] ∧
      List.Forall₂
        (NamedAsRow keys logs
          (collectGatewayMetrics ⟨.ok global, .ok logs, .ok keys, .ok models⟩)) logs shown := by
  refine ⟨logs.map (spendLogJSON keys), ?_, ?_⟩
  · simp only [handleMetricsSpendLogs, hlimit, hlogs, hkeys]
    rfl
  · rw [List.forall₂_map_right_iff, List.forall₂_same]
    exact fun l hl => spendLogJSON_named hl

/-- The hash `"k"`, renamed. -/
def sampleKeys : List JObj :=
  [[("api_key", .str "k"), ("key_alias", .str "old")],
    [("api_key", .str "k"), ("key_alias", .str "new")]]

/-- A log of that hash and one of an unknown hash. -/
def sampleLogs : List JObj := [[("api_key", .str "k")], [("api_key", .str "?")]]

def sampleReader : Reader Unit Unit Unit :=
  { idleServer with
    ping := .error "down"
    listAtespaces := .ok []
    listActors := fun _ => .ok []
    getActor := fun _ => .ok ()
    listWorkers := .ok []
    assigned := fun _ => false
    statusToString := fun _ => ""
    listActorTemplates := .ok []
    listWorkerPools := .ok []
    listNodeMetrics := .ok []
    listNodes := .ok []
    listPodMetrics := .ok []
    resource := exactResource
    mapOrder := .inserted
    baseURL := ""
    info := .ok ""
    listKeys := .ok []
    globalSpend := .ok ⟨0, 0⟩
    spendLogs := fun _ => .ok (spendLogs plainRuntime sampleLogs)
    globalSpendKeys := .ok (globalSpendKeys plainRuntime sampleKeys)
    globalSpendModels := .ok [] }

theorem spendLogs_named_as_rows_sample :
    ∃ shown, (handleMetricsSpendLogs sampleReader "").trace.responses = [.ok (.spendLogs shown)] ∧
      List.Forall₂
        (NamedAsRow (globalSpendKeys plainRuntime sampleKeys) (spendLogs plainRuntime sampleLogs)
          (collectGatewayMetrics ⟨.ok ⟨0, 0⟩, .ok (spendLogs plainRuntime sampleLogs),
            .ok (globalSpendKeys plainRuntime sampleKeys), .ok []⟩))
        (spendLogs plainRuntime sampleLogs) shown :=
  spendLogs_named_as_rows sampleReader (show spendLogsLimit "" = some 100 from rfl) rfl rfl ⟨0, 0⟩
    []

end Api
