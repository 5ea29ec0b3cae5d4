import SubstrateControl.Api.NodeMetrics
import Mathlib.Algebra.Order.Group.MinMax

/-!
# The nodes of the monitoring page

Model of `UsageBar` and of the table of nodes in `MonitoringPage.tsx`.

* `usageBar` — the bar of a percentage: its width, its color and its label.
* `BarOf` — the bar of a usage and a capacity, told from their exact ratio.
* `nodeRows` — the rows of the table, none where the metrics are unavailable.
* `nodeRows_shown` — every row is what its node uses of its capacity.
-/

set_option autoImplicit false

namespace Frontend

open Go Kube Api

/-- `Math.max(0, Math.min(100, percent))`. -/
def clamp (percent : ℚ) : ℚ := max 0 (min 100 percent)

/-- The color of a bar. -/
def barColor (clamped : ℚ) : String :=
  if 90 ≤ clamped then "bg-[#C2402F]"
  else if 70 ≤ clamped then "bg-[#C98F2A]"
  else "bg-primary"

/-- A bar, with the number of its label. -/
structure Bar where
  width : ℚ
  color : String
  label : ℤ
  deriving DecidableEq, Repr

/-- `UsageBar`. -/
def usageBar (percent : ℚ) : Bar :=
  let clamped := clamp percent
  { width := clamped
    color := barColor clamped
    -- `Math.round`
    label := ⌊clamped + 1 / 2⌋ }

/-- A row of the table of nodes. -/
structure NodeRow where
  name : String
  cpuUsage : String
  cpu : Bar
  memoryUsage : String
  memory : Bar
  deriving DecidableEq, Repr

/-- The row of a node. -/
def nodeRow (node : NodeMetricJSON) : NodeRow :=
  { name := node.name
    cpuUsage := node.cpuUsage
    cpu := usageBar node.cpuPercent
    memoryUsage := node.memoryUsage
    memory := usageBar node.memoryPercent }

/-- The rows of the table of nodes; none is the warning that the metrics server is unavailable. -/
def nodeRows (nodes : MetricsSectionJSON NodeMetricJSON) : Option (List NodeRow) :=
  if !nodes.available then none else some (nodes.items.map nodeRow)

/-! ## Bars -/

theorem clamp_mem (p : ℚ) : 0 ≤ clamp p ∧ clamp p ≤ 100 :=
  ⟨le_max_left _ _, max_le (by norm_num) (min_le_left _ _)⟩

theorem clamp_of_nonpos {p : ℚ} (h : p ≤ 0) : clamp p = 0 := by
  unfold clamp
  rw [min_eq_right (by linarith), max_eq_left h]

theorem clamp_of_ge {p : ℚ} (h : 100 ≤ p) : clamp p = 100 := by
  unfold clamp
  rw [min_eq_left h, max_eq_right (by norm_num)]

/-- Clamping brings numbers together. -/
theorem abs_clamp_sub_le (p q : ℚ) : |clamp p - clamp q| ≤ |p - q| := by
  unfold clamp
  rw [max_comm 0, max_comm 0, min_comm 100, min_comm 100]
  calc |max (min p 100) 0 - max (min q 100) 0| ≤ |min p 100 - min q 100| :=
        abs_max_sub_max_le_abs _ _ _
    _ ≤ |p - q| := by
      have hmin := abs_min_sub_min_le_max p 100 q 100
      rwa [sub_self, abs_zero, max_eq_left (abs_nonneg _)] at hmin

/-- A clamped number is on the same side of a threshold. -/
theorem le_clamp_iff {t : ℚ} (hlo : 0 < t) (hhi : t ≤ 100) (p : ℚ) : t ≤ clamp p ↔ t ≤ p := by
  unfold clamp
  rw [le_max_iff, le_min_iff]
  constructor
  · rintro (h | h)
    · linarith
    · exact h.2
  · exact fun h => Or.inr ⟨hhi, h⟩

/-- What the bar of a usage and a capacity looks like: it tells their exact ratio, up to a twentieth
of a percent and the roundings. -/
structure BarOf (part whole : Int64) (b : Bar) : Prop where
  width : 0 ≤ b.width ∧ b.width ≤ 100
  /-- there is nothing to fill -/
  empty : whole ≤ 0 → b = usageBar 0
  full : 0 < whole → whole ≤ part → b.width = 100
  close : 0 < whole → |b.width - clamp (100 * (part.toInt / whole.toInt))| ≤ 51 / 1000
  label : 0 < whole → |b.label - clamp (100 * (part.toInt / whole.toInt))| ≤ 551 / 1000
  /-- away from the thresholds the color is that of the exact ratio -/
  color : 0 < whole → (∀ t ∈ [(70 : ℚ), 90],
      51 / 1000 < |100 * ((part.toInt : ℚ) / whole.toInt) - t|) →
    b.color = barColor (clamp (100 * (part.toInt / whole.toInt)))

/-- The width of the bar is nearly the exact ratio, whatever the size of the usage. -/
theorem abs_clamp_percent_sub_le (part : Int64) {whole : Int64} (hwhole : 0 < whole) :
    |clamp (percent part whole) - clamp (100 * (part.toInt / whole.toInt))| ≤ 51 / 1000 := by
  have hpercent := percent_percentage part whole
  have hpos : 0 < whole.toInt := Int64.lt_iff_toInt_lt.mp hwhole
  have hwpos : (0 : ℚ) < whole.toInt := by exact_mod_cast hpos
  by_cases hneg : part ≤ 0
  · have hle : (part.toInt : ℚ) / whole.toInt ≤ 0 := by
      apply div_nonpos_of_nonpos_of_nonneg _ hwpos.le
      exact_mod_cast Int64.le_iff_toInt_le.mp hneg
    rw [clamp_of_nonpos (hpercent.nonpos hneg), clamp_of_nonpos (by linarith)]
    norm_num
  · by_cases hbeyond : whole ≤ part
    · have hge : 1 ≤ (part.toInt : ℚ) / whole.toInt := by
        rw [le_div_iff₀ hwpos, one_mul]
        exact_mod_cast Int64.le_iff_toInt_le.mp hbeyond
      rw [clamp_of_ge (hpercent.beyond hwhole hbeyond), clamp_of_ge (by linarith)]
      norm_num
    · -- within the capacity the floating-point error is bounded too
      have hnonneg : 0 ≤ (part.toInt : ℚ) / whole.toInt := by
        apply div_nonneg _ hwpos.le
        exact_mod_cast (Int64.lt_iff_toInt_lt.mp (Int64.not_le.mp hneg)).le
      have hle : (part.toInt : ℚ) / whole.toInt ≤ 1 := by
        rw [div_le_one hwpos]
        exact_mod_cast (Int64.lt_iff_toInt_lt.mp (Int64.not_le.mp hbeyond)).le
      have hclose := hpercent.close hwhole
      rw [abs_of_nonneg hnonneg] at hclose
      refine (abs_clamp_sub_le _ _).trans (hclose.trans ?_)
      linarith

/-- Numbers on the same side of both thresholds have the same color. -/
theorem barColor_congr {p q : ℚ} (h : ∀ t ∈ [(70 : ℚ), 90], t ≤ p ↔ t ≤ q) :
    barColor p = barColor q := by
  unfold barColor
  simp only [h 90 (by simp), h 70 (by simp)]

theorem usageBar_percent (part whole : Int64) :
    BarOf part whole (usageBar (percent part whole)) where
  width := clamp_mem _
  empty h := by rw [percent_of_nonpos part h]
  full hwhole h := clamp_of_ge ((percent_percentage part whole).beyond hwhole h)
  close := abs_clamp_percent_sub_le part
  label hwhole := by
    have hclose := abs_clamp_percent_sub_le part hwhole
    have hlo := Int.floor_le (clamp (percent part whole) + 1 / 2)
    have hhi := Int.lt_floor_add_one (clamp (percent part whole) + 1 / 2)
    have hlabel : (usageBar (percent part whole)).label =
      ⌊clamp (percent part whole) + 1 / 2⌋ := rfl
    rw [hlabel]
    rw [abs_le] at hclose ⊢
    constructor
    · linarith
    · linarith
  color hwhole haway := by
    have hclose := abs_le.mp (abs_clamp_percent_sub_le part hwhole)
    apply barColor_congr
    intro t ht
    have hmem : 1 ≤ t ∧ t ≤ 99 := by
      rcases List.mem_cons.mp ht with rfl | ht
      · norm_num
      · rw [List.mem_singleton.mp ht]
        norm_num
    rcases lt_abs.mp (haway t ht) with hgt | hlt
    · have hexact := (le_clamp_iff (t := t + 51 / 1000) (by linarith) (by linarith) _).mpr
        (by linarith : t + 51 / 1000 ≤ 100 * ((part.toInt : ℚ) / whole.toInt))
      exact iff_of_true (by linarith) (by linarith)
    · have hexact := (le_clamp_iff (t := t - 51 / 1000) (by linarith) (by linarith) _).not.mpr
        (by linarith : ¬t - 51 / 1000 ≤ 100 * ((part.toInt : ℚ) / whole.toInt))
      exact iff_of_false (by linarith) (by linarith)

/-! ## Rows -/

variable {res : Resource}

/-- The capacity that is found for a name: that of the last node of the name, nothing where there is
none. -/
def HasCapacity (res : Resource) (nodes : List Unstructured) (name : String) (cap : Capacity res) :
    Prop :=
  (∃ before n after, nodes = before ++ n :: after ∧ n.getName = name ∧
      (∀ n' ∈ after, n'.getName ≠ name) ∧ cap = capacityOf res n) ∨
    name ∉ nodes.map Unstructured.getName ∧ cap = ⟨res.zero, res.zero⟩

/-- The row shows what a node uses of its capacity. -/
structure RowOf (res : Resource) (nodes : List Unstructured) (m : Unstructured) (row : NodeRow) :
    Prop where
  name : row.name = m.getName
  cpuUsage : row.cpuUsage = formatCPU res (parseQuantity res (nestedString m ["usage", "cpu"]))
  memoryUsage : row.memoryUsage =
    formatMemory res (parseQuantity res (nestedString m ["usage", "memory"]))
  bars : ∃ cap, HasCapacity res nodes m.getName cap ∧
    BarOf (res.milliValue (parseQuantity res (nestedString m ["usage", "cpu"])))
      (res.milliValue cap.cpu) row.cpu ∧
    BarOf (res.value (parseQuantity res (nestedString m ["usage", "memory"])))
      (res.value cap.mem) row.memory
  /-- a node that is not listed has empty bars -/
  unknown : m.getName ∉ nodes.map Unstructured.getName →
    row.cpu = usageBar 0 ∧ row.memory = usageBar 0

theorem exists_last {nodes : List Unstructured} {name : String}
    (h : name ∈ nodes.map Unstructured.getName) : ∃ before n after,
      nodes = before ++ n :: after ∧ n.getName = name ∧ ∀ n' ∈ after, n'.getName ≠ name := by
  induction nodes using List.reverseRecOn with
  | nil => cases h
  | append_singleton nodes n ih =>
    by_cases hn : n.getName = name
    · exact ⟨nodes, n, [], rfl, hn, fun _ h => by cases h⟩
    · have hmem : name ∈ nodes.map Unstructured.getName := by
        rw [List.map_append, List.mem_append] at h
        apply h.resolve_right
        intro hlast
        rw [List.map_singleton, List.mem_singleton] at hlast
        exact hn hlast.symm
      obtain ⟨before, n', after, rfl, hname, hafter⟩ := ih hmem
      refine ⟨before, n', after ++ [n], by simp, hname, ?_⟩
      intro n'' hn''
      rcases List.mem_append.mp hn'' with hn'' | hn''
      · exact hafter n'' hn''
      · rw [List.mem_singleton.mp hn'']
        exact hn

theorem hasCapacity_capByName (nodes : List Unstructured) (name : String) :
    HasCapacity res nodes name (capByName res nodes name) := by
  by_cases hmem : name ∈ nodes.map Unstructured.getName
  · obtain ⟨before, n, after, rfl, rfl, hafter⟩ := exists_last hmem
    exact Or.inl ⟨before, n, after, rfl, rfl, hafter, capByName_last before hafter⟩
  · exact Or.inr ⟨hmem, capByName_unknown hmem⟩

theorem rowOf_nodeRow (hres : res.Documented) (nodes : List Unstructured) (m : Unstructured) :
    RowOf res nodes m (nodeRow (nodeItem res (capByName res nodes) m)) where
  name := rfl
  cpuUsage := rfl
  memoryUsage := rfl
  bars := ⟨_, hasCapacity_capByName nodes _, usageBar_percent _ _, usageBar_percent _ _⟩
  unknown h := by
    unfold nodeRow nodeItem
    dsimp only
    rw [capByName_unknown h, hres.milliValue_zero, hres.value_zero,
      percent_of_nonpos _ (Int64.le_refl 0), percent_of_nonpos _ (Int64.le_refl 0)]
    exact ⟨rfl, rfl⟩

/-- **The table of nodes.**  It is there exactly when there is a Kubernetes client and both lists
could be read.  It then has a row for each node with a usage, in their order, whose bars tell the
exact ratio of usage and capacity up to a twentieth of a percent and the roundings of the
floating-point operations; and the order of the listed nodes does not change it when no two have one
name. -/
theorem nodeRows_shown (hres : res.Documented) {κ : Type} (kube : Except String κ)
    (listNodeMetrics listNodes : Except KubeError (List Unstructured)) :
    (nodeRows (collectNodeMetrics res kube listNodeMetrics listNodes) = none ↔
      ¬((∃ client, kube = .ok client) ∧ (∃ usage, listNodeMetrics = .ok usage) ∧
        ∃ nodes, listNodes = .ok nodes)) ∧
      ∀ usage nodes rows, listNodeMetrics = .ok usage → listNodes = .ok nodes →
        nodeRows (collectNodeMetrics res kube listNodeMetrics listNodes) = some rows →
          List.Forall₂ (RowOf res nodes) usage rows ∧
            ∀ nodes', (nodes.map Unstructured.getName).Nodup → nodes.Perm nodes' →
              nodeRows (collectNodeMetrics res kube listNodeMetrics (.ok nodes')) = some rows := by
  constructor
  · constructor
    · rintro h ⟨⟨client, rfl⟩, ⟨usage, rfl⟩, nodes, rfl⟩
      cases h
    · intro h
      cases kube with
      | error e => rfl
      | ok client =>
        cases listNodeMetrics with
        | error e => rfl
        | ok usage =>
          cases listNodes with
          | error e => rfl
          | ok nodes => exact absurd ⟨⟨client, rfl⟩, ⟨usage, rfl⟩, nodes, rfl⟩ h
  · rintro usage nodes rows rfl rfl h
    cases kube with
    | error e => cases h
    | ok client =>
      have hrows : rows = usage.map fun m => nodeRow (nodeItem res (capByName res nodes) m) := by
        rw [← Option.some.inj h]
        exact List.map_map
      rw [hrows]
      constructor
      · rw [List.forall₂_map_right_iff]
        exact List.forall₂_same.mpr fun m _ => rowOf_nodeRow hres nodes m
      · intro nodes' hnodup hperm
        have hsection : ∀ ns, collectNodeMetrics res (.ok client) (.ok usage) (.ok ns) =
            ⟨true, usage.map (nodeItem res (capByName res ns))⟩ := fun ns => rfl
        rw [hsection, capByName_perm hnodup hperm, ← hsection, h, hrows]

/-- A node that uses a quarter of its processors and nine tenths of its memory. -/
theorem nodeRows_shown_worker :
    List.Forall₂
      (RowOf exactResource
        [[("metadata", .obj [("name", .str "worker")]),
          ("status", .obj [("capacity", .obj [("cpu", .str "4"), ("memory", .str "10Gi")])])]])
      [[("metadata", .obj [("name", .str "worker")]),
        ("usage", .obj [("cpu", .str "1000m"), ("memory", .str "9Gi")])]]
      [{ name := "worker"
         cpuUsage := "1000m"
         cpu := ⟨25, "bg-primary", 25⟩
         memoryUsage := "9.0Gi"
         memory := ⟨90, "bg-[#C2402F]", 90⟩ }] :=
  ((nodeRows_shown exactResource_documented (.ok ()) (.ok _) (.ok _)).2 _ _ _ rfl rfl
    (by decide +kernel)).1

end Frontend
