import SubstrateControl.Api.PodMetrics
import SubstrateControl.Kit.FloatError

/-!
# Node usage

Model of `collectNodeMetrics` and `percent` (`internal/api/monitoring.go`).

* `percent` — a percentage with one decimal, computed in floating point.
* `Percentage` — how exact it is, and what bounds it.
* `capByName`, `collectNodeMetrics` — the capacities of the nodes, and the section made of them.
* `capByName_perm` — the order of the nodes does not matter when no two have one name.
-/

set_option autoImplicit false

namespace Api

open Go Kit Kit.Float Kube

/-- `nodeMetricJSON`. -/
structure NodeMetricJSON where
  name : String
  cpuUsage : String
  cpuPercent : ℚ
  memoryUsage : String
  memoryPercent : ℚ
  deriving DecidableEq, Repr

/-- `percent`. -/
def percent (part whole : Int64) : ℚ :=
  if whole ≤ 0 then 0
  else
    let ratio := binary64.nearest (float64OfInt part / float64OfInt whole)
    let tenths := roundAway (binary64.nearest (ratio * 1000))
    binary64.nearest (tenths / 10)

section

variable (res : Resource)

/-- `formatCPU`. -/
def formatCPU (q : res.Quantity) : String := toString (res.milliValue q).toInt ++ "m"

/-- `capacity`. -/
structure Capacity where
  cpu : res.Quantity
  mem : res.Quantity

/-- The capacity of a node. -/
def capacityOf (n : Unstructured) : Capacity res :=
  { cpu := parseQuantity res (nestedString n ["status", "capacity", "cpu"])
    mem := parseQuantity res (nestedString n ["status", "capacity", "memory"]) }

/-- `capByName`: the last node of a name counts, and an unknown name has no capacity. -/
def capByName (nodes : List Unstructured) : String → Capacity res :=
  nodes.foldl (fun m n name => if name = n.getName then capacityOf res n else m name)
    fun _ => ⟨res.zero, res.zero⟩

/-- The item of a node's usage. -/
def nodeItem (cap : String → Capacity res) (m : Unstructured) : NodeMetricJSON :=
  let cpuUse := parseQuantity res (nestedString m ["usage", "cpu"])
  let memUse := parseQuantity res (nestedString m ["usage", "memory"])
  let cp := cap m.getName
  { name := m.getName
    cpuUsage := formatCPU res cpuUse
    cpuPercent := percent (res.milliValue cpuUse) (res.milliValue cp.cpu)
    memoryUsage := formatMemory res memUse
    memoryPercent := percent (res.value memUse) (res.value cp.mem) }

/-- `collectNodeMetrics`, with the Kubernetes client or the error of its set-up, and what
`ListNodeMetrics` and `ListNodes` return. -/
def collectNodeMetrics {κ : Type} (kube : Except String κ)
    (listNodeMetrics listNodes : Except KubeError (List Unstructured)) :
    MetricsSectionJSON NodeMetricJSON :=
  match kube, listNodeMetrics, listNodes with
  | .ok _, .ok usage, .ok nodes =>
    { available := true, items := usage.map (nodeItem res (capByName res nodes)) }
  | _, _, _ => { available := false, items := [] }

end

/-! ## Percentages -/

/-- The error of one operation on 64-bit numbers. -/
theorem binary64_approx {q : ℚ} (hq : q = 0 ∨ 1 / 2 ^ 65 ≤ |q|) :
    Approx (1 / 2 ^ 53) (binary64.nearest q) q := by
  have hnormal : q = 0 ∨ (2 : ℚ) ^ (binary64.emin + binary64.precision - 1) ≤ |q| := by
    apply hq.imp_right
    intro h
    have hle : (2 : ℚ) ^ (-1022 : ℤ) ≤ 2 ^ (-65 : ℤ) := zpow_le_zpow_right₀ (by norm_num) (by omega)
    have hpow : (2 : ℚ) ^ (-65 : ℤ) = 1 / 2 ^ 65 := by norm_num
    exact hle.trans (hpow ▸ h)
  have happrox := Format.nearest_approx hnormal
  have hunit : (2 : ℚ) ^ (-(binary64.precision : ℤ)) = 1 / 2 ^ 53 := by
    norm_num [binary64]
  rwa [hunit] at happrox

theorem float64OfInt_approx (v : Int64) : Approx (1 / 2 ^ 53) (float64OfInt v) v.toInt := by
  apply binary64_approx
  rcases eq_or_ne v.toInt 0 with h | h
  · left
    rw [h, Int.cast_zero]
  · right
    have hone : (1 : ℤ) ≤ |v.toInt| := Int.one_le_abs h
    have hcast : (1 : ℚ) ≤ |(v.toInt : ℚ)| := by exact_mod_cast hone
    linarith

theorem float64OfInt_mono {v w : Int64} (h : v ≤ w) : float64OfInt v ≤ float64OfInt w := by
  apply Format.nearest_mono
  exact_mod_cast Int64.le_iff_toInt_le.mp h

theorem float64OfInt_pos {v : Int64} (h : 0 < v) : 0 < float64OfInt v := by
  have hone : float64OfInt 1 ≤ float64OfInt v := by
    apply float64OfInt_mono
    have hlt := Int64.lt_iff_toInt_lt.mp h
    rw [Int64.le_iff_toInt_le]
    have hzero : (0 : Int64).toInt = 0 := rfl
    have hunit : (1 : Int64).toInt = 1 := rfl
    omega
  have heq : float64OfInt 1 = ((1 : ℤ) : ℚ) := Format.nearest_intCast (by decide) (by decide)
  rw [heq, Int.cast_one] at hone
  linarith

/-- The ratio of two integers is zero or not small. -/
theorem le_abs_ratio {part whole : Int64} (hpart : part.toInt ≠ 0) (hwhole : 0 < whole) :
    1 / 2 ^ 63 ≤ |(part.toInt : ℚ) / whole.toInt| := by
  have hpos : 0 < whole.toInt := Int64.lt_iff_toInt_lt.mp hwhole
  have hwpos : (0 : ℚ) < whole.toInt := by exact_mod_cast hpos
  have hone : (1 : ℚ) ≤ |(part.toInt : ℚ)| := by exact_mod_cast Int.one_le_abs hpart
  have hmax : (whole.toInt : ℚ) ≤ 2 ^ 63 := by
    have hle : whole.toInt ≤ 2 ^ 63 := (Int64.toInt_lt whole).le
    exact_mod_cast hle
  rw [abs_div, abs_of_pos hwpos, le_div_iff₀ hwpos]
  linarith

/-- The quotient of two converted integers, rounded. -/
theorem quotient_approx (part : Int64) {whole : Int64} (hwhole : 0 < whole) :
    Approx (5 / 2 ^ 53) (binary64.nearest (float64OfInt part / float64OfInt whole))
      (part.toInt / whole.toInt) := by
  have hne : (whole.toInt : ℚ) ≠ 0 := by
    have hpos : 0 < whole.toInt := Int64.lt_iff_toInt_lt.mp hwhole
    exact_mod_cast hpos.ne'
  have hdiv : Approx (3 * (1 / 2 ^ 53)) (float64OfInt part / float64OfInt whole)
      (part.toInt / whole.toInt) :=
    Approx.div (by norm_num) (by norm_num) hne (float64OfInt_approx part)
      (float64OfInt_approx whole)
  have hsize : float64OfInt part / float64OfInt whole = 0 ∨
      1 / 2 ^ 65 ≤ |float64OfInt part / float64OfInt whole| := by
    rcases eq_or_ne part.toInt 0 with h | h
    · left
      unfold float64OfInt
      rw [h, Int.cast_zero, Format.nearest_zero, zero_div]
    · right
      have hexact := le_abs_ratio h hwhole
      have hle := hdiv.le_abs
      linarith
  have hround := (binary64_approx hsize).of_rounded (by norm_num) (by norm_num) hdiv
  have hsum : (2 * (1 / 2 ^ 53) + 3 * (1 / 2 ^ 53) : ℚ) = 5 / 2 ^ 53 := by norm_num
  rwa [hsum] at hround

/-- What `percent` rounds to an integer is nearly the exact number of tenths of a percent. -/
theorem tenths_approx (part : Int64) {whole : Int64} (hwhole : 0 < whole) :
    Approx (7 / 2 ^ 53)
      (binary64.nearest (binary64.nearest (float64OfInt part / float64OfInt whole) * 1000))
      (part.toInt / whole.toInt * 1000) := by
  have hratio := (quotient_approx part hwhole).mul_right 1000
  have hsize : binary64.nearest (float64OfInt part / float64OfInt whole) * 1000 = 0 ∨
      1 / 2 ^ 65 ≤ |binary64.nearest (float64OfInt part / float64OfInt whole) * 1000| := by
    rcases eq_or_ne part.toInt 0 with h | h
    · left
      unfold float64OfInt
      rw [h, Int.cast_zero, Format.nearest_zero, zero_div, Format.nearest_zero, zero_mul]
    · right
      have hexact := le_abs_ratio h hwhole
      have hle := hratio.le_abs
      rw [abs_mul, abs_of_pos (by norm_num : (0 : ℚ) < 1000)] at hle
      linarith
  have hround := (binary64_approx hsize).of_rounded (by norm_num) (by norm_num) hratio
  have hsum : (2 * (1 / 2 ^ 53) + 5 / 2 ^ 53 : ℚ) = 7 / 2 ^ 53 := by norm_num
  rwa [hsum] at hround

theorem percent_of_nonpos (part : Int64) {whole : Int64} (h : whole ≤ 0) :
    percent part whole = 0 := if_pos h

theorem percent_of_pos (part : Int64) {whole : Int64} (h : 0 < whole) :
    percent part whole = binary64.nearest (roundAway (binary64.nearest
      (binary64.nearest (float64OfInt part / float64OfInt whole) * 1000)) / 10) :=
  if_neg (Int64.not_le.mpr h)

/-- **How exact a percentage is**: half a tenth, and what the floating-point operations add. -/
theorem abs_percent_sub_le (part : Int64) {whole : Int64} (hwhole : 0 < whole) :
    |percent part whole - 100 * (part.toInt / whole.toInt)| ≤
      1 / 20 + (1 + 100 * |(part.toInt : ℚ) / whole.toInt|) / 2 ^ 49 := by
  rw [percent_of_pos part hwhole]
  have htenths := tenths_approx part hwhole
  generalize (part.toInt : ℚ) / whole.toInt = q at htenths ⊢
  generalize binary64.nearest
    (binary64.nearest (float64OfInt part / float64OfInt whole) * 1000) = y at htenths ⊢
  have hround := abs_roundAway_sub_le y
  generalize roundAway y = n at hround ⊢
  have hsize : (n : ℚ) / 10 = 0 ∨ 1 / 2 ^ 65 ≤ |(n : ℚ) / 10| := by
    rcases eq_or_ne n 0 with h | h
    · left
      rw [h, Int.cast_zero, zero_div]
    · right
      have hone : (1 : ℚ) ≤ |(n : ℚ)| := by exact_mod_cast Int.one_le_abs h
      rw [abs_div, abs_of_pos (by norm_num : (0 : ℚ) < 10), le_div_iff₀ (by norm_num)]
      linarith
  have hlast : |binary64.nearest (n / 10) - (n : ℚ) / 10| ≤ 1 / 2 ^ 53 * |(n : ℚ) / 10| :=
    binary64_approx hsize
  have hmul : |y - q * 1000| ≤ 7 / 2 ^ 53 * (|q| * 1000) := by
    rw [← abs_of_pos (by norm_num : (0 : ℚ) < 1000), ← abs_mul,
      abs_of_pos (by norm_num : (0 : ℚ) < 1000)]
    exact htenths
  have hn : |(n : ℚ) / 10| ≤ (1 / 2 + (1 + 7 / 2 ^ 53) * (|q| * 1000)) / 10 := by
    have hy := htenths.abs_le
    rw [abs_mul, abs_of_pos (by norm_num : (0 : ℚ) < 1000)] at hy
    have htri := abs_add_le ((n : ℚ) - y) y
    rw [sub_add_cancel] at htri
    rw [abs_div, abs_of_pos (by norm_num : (0 : ℚ) < 10)]
    apply div_le_div_of_nonneg_right _ (by norm_num)
    linarith
  have hq := abs_nonneg q
  rw [abs_le] at hlast hround hmul ⊢
  obtain ⟨hlast, hlast'⟩ := hlast
  obtain ⟨hround, hround'⟩ := hround
  obtain ⟨hmul, hmul'⟩ := hmul
  constructor
  · linarith
  · linarith

/-- **Percentages grow with the usage.** -/
theorem percent_mono {part part' : Int64} (whole : Int64) (h : part ≤ part') :
    percent part whole ≤ percent part' whole := by
  by_cases hwhole : whole ≤ 0
  · rw [percent_of_nonpos part hwhole, percent_of_nonpos part' hwhole]
  · have hpos : 0 < whole := Int64.not_le.mp hwhole
    rw [percent_of_pos part hpos, percent_of_pos part' hpos]
    apply Format.nearest_mono
    have hratio := div_le_div_of_nonneg_right (float64OfInt_mono h) (float64OfInt_pos hpos).le
    have htenths := mul_le_mul_of_nonneg_right (Format.nearest_mono (f := binary64) hratio)
      (by norm_num : (0 : ℚ) ≤ 1000)
    have hround := roundAway_mono (Format.nearest_mono (f := binary64) htenths)
    apply div_le_div_of_nonneg_right _ (by norm_num)
    exact_mod_cast hround

/-- Nothing used is 0 %. -/
theorem percent_zero (whole : Int64) : percent 0 whole = 0 := by
  by_cases hwhole : whole ≤ 0
  · exact percent_of_nonpos 0 hwhole
  · have hzero : float64OfInt 0 = 0 := Format.nearest_zero
    have hround : roundAway 0 = 0 := roundAway_intCast 0
    rw [percent_of_pos 0 (Int64.not_le.mp hwhole), hzero, zero_div, Format.nearest_zero, zero_mul,
      Format.nearest_zero, hround, Int.cast_zero, zero_div, Format.nearest_zero]

/-- All used is 100 %. -/
theorem percent_self {whole : Int64} (hwhole : 0 < whole) : percent whole whole = 100 := by
  have hkept : ∀ n : ℤ, |n| < 2 ^ 53 → binary64.nearest n = n := fun n hn =>
    Format.nearest_intCast hn (by decide)
  have hone : binary64.nearest 1 = 1 := by exact_mod_cast hkept 1 (by norm_num)
  have hthousand : binary64.nearest 1000 = 1000 := by exact_mod_cast hkept 1000 (by norm_num)
  have hround : roundAway 1000 = 1000 := by exact_mod_cast roundAway_intCast 1000
  have hhundred : binary64.nearest 100 = 100 := by exact_mod_cast hkept 100 (by norm_num)
  rw [percent_of_pos whole hwhole, div_self (float64OfInt_pos hwhole).ne', hone, one_mul,
    hthousand, hround]
  norm_num
  exact hhundred

/-- A percentage of the console: what it is, and how it is bounded. -/
structure Percentage (part whole : Int64) (x : ℚ) : Prop where
  /-- without a capacity it is 0 -/
  zero : whole ≤ 0 → x = 0
  nonneg : 0 ≤ part → 0 ≤ x
  nonpos : part ≤ 0 → x ≤ 0
  /-- at most 100 within the capacity -/
  within : 0 < whole → part ≤ whole → x ≤ 100
  /-- at least 100 beyond it -/
  beyond : 0 < whole → whole ≤ part → 100 ≤ x
  close : 0 < whole → |x - 100 * (part.toInt / whole.toInt)| ≤
    1 / 20 + (1 + 100 * |(part.toInt : ℚ) / whole.toInt|) / 2 ^ 49

theorem percent_percentage (part whole : Int64) : Percentage part whole (percent part whole) where
  zero := percent_of_nonpos part
  nonneg h := (percent_zero whole).symm.le.trans (percent_mono whole h)
  nonpos h := (percent_mono whole h).trans (percent_zero whole).le
  within hwhole h := (percent_mono whole h).trans (percent_self hwhole).le
  beyond hwhole h := (percent_self hwhole).symm.le.trans (percent_mono whole h)
  close := abs_percent_sub_le part

/-! ## Capacities -/

variable {res : Resource} {nodes nodes' : List Unstructured}

theorem capByName_concat (nodes : List Unstructured) (n : Unstructured) (name : String) :
    capByName res (nodes ++ [n]) name =
      if name = n.getName then capacityOf res n else capByName res nodes name := by
  unfold capByName
  rw [List.foldl_append, List.foldl_cons, List.foldl_nil]

/-- The last node of a name gives its capacity. -/
theorem capByName_last (before : List Unstructured) {n : Unstructured}
    {after : List Unstructured} (h : ∀ n' ∈ after, n'.getName ≠ n.getName) :
    capByName res (before ++ n :: after) n.getName = capacityOf res n := by
  induction after using List.reverseRecOn with
  | nil => rw [capByName_concat, if_pos rfl]
  | append_singleton after n' ih =>
    rw [← List.cons_append, ← List.append_assoc, capByName_concat,
      if_neg (h n' (by simp)).symm]
    exact ih fun n'' hn'' => h n'' (by simp [hn''])

/-- A name of no node has no capacity. -/
theorem capByName_unknown {name : String} (h : name ∉ nodes.map Unstructured.getName) :
    capByName res nodes name = ⟨res.zero, res.zero⟩ := by
  induction nodes using List.reverseRecOn with
  | nil => rfl
  | append_singleton nodes n ih =>
    rw [List.map_append, List.mem_append, not_or] at h
    have hne : name ≠ n.getName := by
      intro heq
      exact h.2 (by simp [heq])
    rw [capByName_concat, if_neg hne]
    exact ih h.1

theorem capByName_of_mem (hnodup : (nodes.map Unstructured.getName).Nodup) {n : Unstructured}
    (hn : n ∈ nodes) : capByName res nodes n.getName = capacityOf res n := by
  obtain ⟨before, after, rfl⟩ := List.append_of_mem hn
  apply capByName_last
  intro n' hn' heq
  rw [List.map_append, List.map_cons] at hnodup
  have hnotin := (List.nodup_cons.mp hnodup.of_append_right).1
  exact hnotin (heq ▸ List.mem_map_of_mem hn')

/-- **The order of the nodes does not matter** when no two have one name. -/
theorem capByName_perm (hnodup : (nodes.map Unstructured.getName).Nodup)
    (hperm : nodes.Perm nodes') : capByName res nodes' = capByName res nodes := by
  have hnodup' : (nodes'.map Unstructured.getName).Nodup :=
    (hperm.map Unstructured.getName).nodup_iff.mp hnodup
  funext name
  by_cases hmem : name ∈ nodes.map Unstructured.getName
  · obtain ⟨n, hn, rfl⟩ := List.mem_map.mp hmem
    rw [capByName_of_mem hnodup hn, capByName_of_mem hnodup' (hperm.mem_iff.mp hn)]
  · have hmem' : name ∉ nodes'.map Unstructured.getName := fun h =>
      hmem ((hperm.map Unstructured.getName).mem_iff.mpr h)
    rw [capByName_unknown hmem, capByName_unknown hmem']

end Api
