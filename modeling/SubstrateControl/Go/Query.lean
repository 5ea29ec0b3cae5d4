import Mathlib.Data.List.TakeWhile
import SubstrateControl.Kit.Percent

/-!
# Query strings

`net/url`, over bytes.

* `queryUnescape` — `QueryUnescape`: `+` is a space, `%` and two digits are a byte.
* `parseQuery` — the pairs of a query, in order; a pair that cannot be read is left out.
* `queryGet` — `Values.Get`: the first value, or the empty one.
* `queryGet_pair` — a single pair is read back, its value unescaped.
-/

set_option autoImplicit false

namespace Go

open Kit

/-- `&`. -/
def ampersand : UInt8 := 0x26

/-- `=`. -/
def equals : UInt8 := 0x3D

/-- `;`. -/
def semicolon : UInt8 := 0x3B

/-- `+`. -/
def plus : UInt8 := 0x2B

/-- `url.QueryUnescape`; `none` is an error. -/
def queryUnescape (s : List UInt8) : Option (List UInt8) :=
  Percent.decode (s.map fun b => if b = plus then 0x20 else b)

/-- One piece of a query: it is cut at the first `=`. -/
def parsePair (piece : List UInt8) : Option (List UInt8 × List UInt8) :=
  if piece = [] ∨ semicolon ∈ piece then none
  else do
    let key ← queryUnescape (piece.takeWhile (· != equals))
    let value ← queryUnescape (piece.dropWhile (· != equals)).tail
    return (key, value)

/-- `url.ParseQuery`, its error dropped as `URL.Query` does. -/
def parseQuery (query : List UInt8) : List (List UInt8 × List UInt8) :=
  (query.splitOn ampersand).filterMap parsePair

/-- `Values.Get` of a query. -/
def queryGet (query key : List UInt8) : List UInt8 := ((parseQuery query).lookup key).getD []

/-- Without `+` only escapes are undone. -/
theorem queryUnescape_of_not_mem {s : List UInt8} (h : plus ∉ s) :
    queryUnescape s = Percent.decode s := by
  have hmap : s.map (fun b => if b = plus then 0x20 else b) = s := by
    conv_rhs => rw [← List.map_id s]
    exact List.map_congr_left fun b hb => if_neg (ne_of_mem_of_not_mem hb h)
  rw [queryUnescape, hmap]

/-- A piece with a `=` is read as its two sides. -/
theorem parsePair_equals {key value : List UInt8} (hkey : equals ∉ key)
    (hsemicolon : semicolon ∉ key ++ equals :: value) :
    parsePair (key ++ equals :: value) =
      (queryUnescape key).bind fun k => (queryUnescape value).map fun v => (k, v) := by
  have hstay : ∀ b ∈ key, (b != equals) = true := fun b hb =>
    bne_iff_ne.mpr (ne_of_mem_of_not_mem hb hkey)
  have htake : (key ++ equals :: value).takeWhile (· != equals) = key := by
    rw [List.takeWhile_append_of_pos hstay]
    simp
  have hdrop : (key ++ equals :: value).dropWhile (· != equals) = equals :: value := by
    rw [List.dropWhile_append_of_pos hstay]
    simp
  have hne : key ++ equals :: value ≠ [] := by simp
  rw [parsePair, if_neg (not_or.mpr ⟨hne, hsemicolon⟩), htake, hdrop,
    List.tail_cons]
  cases queryUnescape key <;> cases queryUnescape value <;> rfl

theorem parseQuery_piece {piece : List UInt8} (h : ampersand ∉ piece) :
    parseQuery piece = (parsePair piece).toList := by
  rw [parseQuery, List.splitOn_eq_singleton h, List.filterMap_cons]
  cases parsePair piece <;> rfl

/-- **A single pair is read back**, its value unescaped. -/
theorem queryGet_pair {key value v : List UInt8} (hkey : equals ∉ key)
    (hampersand : ampersand ∉ key ++ equals :: value)
    (hsemicolon : semicolon ∉ key ++ equals :: value) (hk : queryUnescape key = some key)
    (hv : queryUnescape value = some v) : queryGet (key ++ equals :: value) key = v := by
  rw [queryGet, parseQuery_piece hampersand, parsePair_equals hkey hsemicolon, hk, hv]
  simp

end Go
