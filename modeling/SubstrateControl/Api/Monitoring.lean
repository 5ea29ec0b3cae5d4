import SubstrateControl.Kit.Table
import SubstrateControl.Gateway.Client

/-!
# The gateway section of the monitoring overview

Model of `collectGatewayMetrics` (`internal/api/monitoring.go`):

* `keyRows`, `modelRows` — the two map-building passes: seed a row for every known key (model),
  then add every log to its row, creating the missing ones.
* `collectGatewayMetrics` — the section, from the answers to the four upstream calls.
-/

set_option autoImplicit false

namespace Api

open Go Gateway Kit

structure TokensJSON where
  prompt : Int64
  completion : Int64
  total : Int64
  deriving DecidableEq, Repr

structure SpendByKeyJSON where
  keyAlias : String
  keyName : String
  spend : ℚ
  tokens : Int64
  requests : ℕ
  deriving DecidableEq, Repr

structure SpendByModelJSON where
  model : String
  spend : ℚ
  tokens : Int64
  requests : ℕ
  deriving DecidableEq, Repr

structure GatewayMetricsJSON where
  reachable : Bool
  totalSpend : ℚ
  maxBudget : ℚ
  totalRequests : ℕ
  tokens : TokensJSON
  spendByKey : List SpendByKeyJSON
  spendByModel : List SpendByModelJSON
  deriving DecidableEq, Repr

/-- `reachable=false` with zero values. -/
def GatewayMetricsJSON.zero : GatewayMetricsJSON := ⟨false, 0, 0, 0, ⟨0, 0, 0⟩, [], []⟩

/-- What the four upstream calls return. -/
structure GatewayAnswers where
  globalSpend : Except Err GlobalSpend
  spendLogs : Except Err (List SpendLogEntry)
  globalSpendKeys : Except Err (List KeySpend)
  globalSpendModels : Except Err (List ModelSpend)

/-- `e.Spend += l.Spend; e.Tokens += l.TotalTokens; e.Requests++` on a key row. -/
def SpendByKeyJSON.add (l : SpendLogEntry) (e : SpendByKeyJSON) : SpendByKeyJSON :=
  { e with spend := e.spend + l.spend, tokens := e.tokens + l.totalTokens,
           requests := e.requests + 1 }

/-- The same on a model row. -/
def SpendByModelJSON.add (l : SpendLogEntry) (e : SpendByModelJSON) : SpendByModelJSON :=
  { e with spend := e.spend + l.spend, tokens := e.tokens + l.totalTokens,
           requests := e.requests + 1 }

/-- `byKey` and `keyOrder` after the seeding loop: one append for every entry. -/
def seedKeys (keys : List KeySpend) : Table String SpendByKeyJSON :=
  Table.announceAll (·.apiKey) (fun k => ⟨k.keyAlias, k.keyName, k.totalSpend, 0, 0⟩)
    Table.empty keys

/-- `byKey` and `keyOrder` after the logs. -/
def keyRows (keys : List KeySpend) (logs : List SpendLogEntry) : Table String SpendByKeyJSON :=
  Table.touchAll (·.apiKey) (fun _ => ⟨"", "", 0, 0, 0⟩) SpendByKeyJSON.add (seedKeys keys) logs

/-- `byModel` and `modelOrder` after the seeding loop. -/
def seedModels (models : List ModelSpend) : Table String SpendByModelJSON :=
  Table.announceAll (·.model) (fun m => ⟨m.model, m.totalSpend, 0, 0⟩) Table.empty models

/-- `byModel` and `modelOrder` after the logs. -/
def modelRows (models : List ModelSpend) (logs : List SpendLogEntry) :
    Table String SpendByModelJSON :=
  Table.touchAll (·.model) (fun m => ⟨m, 0, 0, 0⟩) SpendByModelJSON.add (seedModels models) logs

/-- `collectGatewayMetrics`: any failing call degrades the whole section. -/
def collectGatewayMetrics (a : GatewayAnswers) : GatewayMetricsJSON :=
  match a.globalSpend, a.spendLogs, a.globalSpendKeys, a.globalSpendModels with
  | .ok global, .ok logs, .ok keys, .ok models =>
    { reachable := true
      totalSpend := global.spend
      maxBudget := global.maxBudget
      totalRequests := logs.length
      tokens :=
        { prompt := (logs.map (·.promptTokens)).sum
          completion := (logs.map (·.completionTokens)).sum
          total := (logs.map (·.totalTokens)).sum }
      spendByKey := (keyRows keys logs).entries.map Prod.snd
      spendByModel := (modelRows models logs).entries.map Prod.snd }
  | _, _, _, _ => .zero

/-- The answers LiteLLM gives when all four calls succeed, from its decoded JSON. -/
def answered (go : Runtime) (global : GlobalSpend) (rawLogs rawKeys rawModels : List JObj) :
    GatewayAnswers :=
  { globalSpend := .ok global
    spendLogs := .ok (spendLogs go rawLogs)
    globalSpendKeys := .ok (globalSpendKeys go rawKeys)
    globalSpendModels := .ok (globalSpendModels go rawModels) }

end Api
