import SubstrateControl.Api.PodMetrics
import SubstrateControl.Kit.RoundUp
import Mathlib.Algebra.BigOperators.Ring.List

/-!
# How exact the totals of a namespace are

`collectPodMetrics` rounds every container's usage up and adds the rounded numbers;
`collectNodeMetrics` rounds a node's usage once.

* `RoundsUp` — the package rounds exact amounts up.
* `UsagesFit` — no usage of the namespace is negative and no total overflows.
* `byNS_rounded` — the counters are sums of rounded amounts.
* `RoundedOnce` — the counters are the exact sums, rounded up once.
* `roundedOnce_iff` — they are exactly when the containers' usages are rounded up by less than one
  unit altogether.
-/

set_option autoImplicit false

namespace Api

open Go Kit Kube

variable {res : Resource} {amount : res.Quantity → ℚ} {pods : List Unstructured} {ns : String}

/-- `MilliValue` and `Value` round the exact amount up, where the result is an int64. -/
structure RoundsUp (res : Resource) (amount : res.Quantity → ℚ) : Prop where
  milliValue : ∀ q, 0 ≤ amount q → ⌈1000 * amount q⌉ ≤ Int64.maxValue.toInt →
    (res.milliValue q).toInt = ⌈1000 * amount q⌉
  value : ∀ q, 0 ≤ amount q → ⌈amount q⌉ ≤ Int64.maxValue.toInt →
    (res.value q).toInt = ⌈amount q⌉

/-- The containers of a namespace. -/
def containersIn (pods : List Unstructured) (ns : String) : List JVal :=
  (podsOf pods ns).flatMap containersOf

/-- The exact usages of a resource by the containers of a namespace. -/
def usagesIn (amount : res.Quantity → ℚ) (pods : List Unstructured) (ns resource : String) :
    List ℚ :=
  (containersIn pods ns).map fun c => amount (usageOf res c resource)

/-- No usage is negative, and the rounded usages add up to an int64. -/
structure UsagesFit (amount : res.Quantity → ℚ) (pods : List Unstructured) (ns : String) :
    Prop where
  nonneg : ∀ resource ∈ ["cpu", "memory"], ∀ x ∈ usagesIn amount pods ns resource, 0 ≤ x
  cpu : ((usagesIn amount pods ns "cpu").map fun x => ⌈1000 * x⌉).sum ≤ Int64.maxValue.toInt
  memory : ((usagesIn amount pods ns "memory").map fun x => ⌈x⌉).sum ≤ Int64.maxValue.toInt

/-! ## The counters -/

theorem sum_podTotal (v : JVal → Int64) (pods : List Unstructured) :
    (pods.map (podTotal v)).sum = ((pods.flatMap containersOf).map v).sum := by
  induction pods with
  | nil => rfl
  | cons p pods ih =>
    rw [List.map_cons, List.sum_cons, ih, List.flatMap_cons, List.map_append, List.sum_append]
    rfl

/-- Rounded usages add up, as long as their sum is an int64. -/
theorem toInt_sum_rounded {v : res.Quantity → Int64} {scale : ℚ} {resource : String}
    (hscale : 0 ≤ scale)
    (hround : ∀ q, 0 ≤ amount q → ⌈scale * amount q⌉ ≤ Int64.maxValue.toInt →
      (v q).toInt = ⌈scale * amount q⌉)
    (hnonneg : ∀ x ∈ usagesIn amount pods ns resource, 0 ≤ x)
    (hfits : ((usagesIn amount pods ns resource).map fun x => ⌈scale * x⌉).sum ≤
      Int64.maxValue.toInt) :
    ((podsOf pods ns).map (podTotal fun c => v (usageOf res c resource))).sum.toInt =
      ((usagesIn amount pods ns resource).map fun x => ⌈scale * x⌉).sum := by
  have hpos : ∀ x ∈ usagesIn amount pods ns resource, 0 ≤ ⌈scale * x⌉ := fun x hx =>
    Int.ceil_nonneg (mul_nonneg hscale (hnonneg x hx))
  -- each rounded usage is at most their sum, so that it is an int64 as well
  have hone : ∀ c ∈ containersIn pods ns, (v (usageOf res c resource)).toInt =
      ⌈scale * amount (usageOf res c resource)⌉ := by
    intro c hc
    have hmem : amount (usageOf res c resource) ∈ usagesIn amount pods ns resource :=
      List.mem_map_of_mem hc
    refine hround _ (hnonneg _ hmem) (le_trans ?_ hfits)
    apply List.single_le_sum
    · intro n hn
      obtain ⟨x, hx, rfl⟩ := List.mem_map.mp hn
      exact hpos x hx
    · exact List.mem_map_of_mem hmem
  have hsame : (containersIn pods ns).map (fun c => (v (usageOf res c resource)).toInt) =
      (usagesIn amount pods ns resource).map fun x => ⌈scale * x⌉ := by
    rw [usagesIn, List.map_map]
    exact List.map_congr_left hone
  rw [sum_podTotal, ← hsame]
  apply toInt_sum
  · intro c hc
    rw [hone c hc]
    exact hpos _ (List.mem_map_of_mem hc)
  · exact hsame ▸ hfits

/-- **The counters add up rounded usages.** -/
theorem byNS_rounded (hround : RoundsUp res amount) (hfit : UsagesFit amount pods ns) {a : Agg}
    (ha : (byNS res pods).row ns = some a) :
    a.cpu.toInt = ((usagesIn amount pods ns "cpu").map fun x => ⌈1000 * x⌉).sum ∧
      a.mem.toInt = ((usagesIn amount pods ns "memory").map fun x => ⌈x⌉).sum := by
  rw [byNS_row ha]
  constructor
  · exact toInt_sum_rounded (by norm_num) hround.milliValue (hfit.nonneg "cpu" (by simp)) hfit.cpu
  · have hmem : ((podsOf pods ns).map
        (podTotal fun c => res.value (usageOf res c "memory"))).sum.toInt =
        ((usagesIn amount pods ns "memory").map fun x => ⌈1 * x⌉).sum := by
      apply toInt_sum_rounded one_pos.le
      · simpa using hround.value
      · exact hfit.nonneg "memory" (by simp)
      · simpa using hfit.memory
    simpa using hmem

/-! ## One rounding -/

/-- The counters are the exact sums of the usages, rounded up once: to a millicore and to a byte. -/
def RoundedOnce (amount : res.Quantity → ℚ) (pods : List Unstructured) (ns : String) (a : Agg) :
    Prop :=
  a.cpu.toInt = ⌈1000 * (usagesIn amount pods ns "cpu").sum⌉ ∧
    a.mem.toInt = ⌈(usagesIn amount pods ns "memory").sum⌉

/-- Rounding every container's usage up adds less than one millicore and less than one byte. -/
def RoundsLittle (amount : res.Quantity → ℚ) (pods : List Unstructured) (ns : String) : Prop :=
  ((usagesIn amount pods ns "cpu").map fun x => roundedUpBy (1000 * x)).sum < 1 ∧
    ((usagesIn amount pods ns "memory").map fun x => roundedUpBy x).sum < 1

/-- A namespace that occurs has its counters, and they are shown. -/
theorem exists_shown (hns : ns ∈ pods.map Unstructured.getNamespace) {κ : Type} (client : κ)
    (o : MapOrder) :
    ∃ a, (byNS res pods).row ns = some a ∧
      namespaceItem res ns a ∈ (collectPodMetrics res o (.ok client) (.ok pods)).items := by
  obtain ⟨a, ha⟩ := Table.exists_row_of_mem (mem_byNS_order.mpr hns)
  refine ⟨a, ha, List.mem_map.mpr ⟨ns, ?_, by rw [ha, Option.getD_some]⟩⟩
  rw [mem_sortStrings, o.mem_order, mem_byNS_order]
  exact hns

/-- **Accuracy of the totals.**  The totals shown for a namespace are the exact sums, rounded up
once, exactly when rounding up each usage adds less than one unit altogether. -/
theorem roundedOnce_iff (hround : RoundsUp res amount)
    (hns : ns ∈ pods.map Unstructured.getNamespace) (hfit : UsagesFit amount pods ns) {κ : Type}
    (client : κ) (o : MapOrder) :
    ∃ a, (byNS res pods).row ns = some a ∧
      namespaceItem res ns a ∈ (collectPodMetrics res o (.ok client) (.ok pods)).items ∧
      (RoundedOnce amount pods ns a ↔ RoundsLittle amount pods ns) := by
  obtain ⟨a, ha, hshown⟩ := exists_shown hns client o
  refine ⟨a, ha, hshown, ?_⟩
  obtain ⟨hcpu, hmem⟩ := byNS_rounded hround hfit ha
  have hscaled : 1000 * (usagesIn amount pods ns "cpu").sum =
      ((usagesIn amount pods ns "cpu").map fun x => 1000 * x).sum := by
    rw [List.sum_map_mul_left, List.map_id']
  unfold RoundedOnce RoundsLittle
  rw [hcpu, hmem, hscaled]
  apply and_congr
  · exact sum_ceil_eq_iff (fun x : ℚ => 1000 * x) _
  · simpa using sum_ceil_eq_iff (fun x : ℚ => x) (usagesIn amount pods ns "memory")

theorem toInt_ofInt_ceil {x : ℚ} (hx : 0 ≤ x) (hfits : ⌈x⌉ ≤ Int64.maxValue.toInt) :
    (Int64.ofInt ⌈x⌉).toInt = ⌈x⌉ := by
  have hnonneg : 0 ≤ ⌈x⌉ := Int.ceil_nonneg hx
  have hmax : Int64.maxValue.toInt = 2 ^ 63 - 1 := rfl
  rw [hmax] at hfits
  apply Int64.toInt_ofInt_of_le <;> omega

/-- The quantities of `exactResource` are their amounts. -/
def exactAmount : exactResource.Quantity → ℚ := id

theorem exactResource_roundsUp : RoundsUp exactResource exactAmount where
  milliValue q hq hfits := by
    apply toInt_ofInt_ceil _ hfits
    exact mul_nonneg (by norm_num) hq
  value q hq hfits := toInt_ofInt_ceil hq hfits

/-- A container that uses a quarter of a core, and one that uses half a core. -/
def busyPods : List Unstructured := [podMetrics "a" [("250m", "1Mi"), ("500m", "1Ki")]]

/-- Two idle containers. -/
def idlePods : List Unstructured := [podMetrics "a" [("1n", "1Ki"), ("1n", "1Ki")]]

theorem usagesFit_busyPods : UsagesFit exactAmount busyPods "a" :=
  ⟨by decide +kernel, by decide +kernel, by decide +kernel⟩

theorem roundedOnce_iff_busyPods :
    ∃ a, (byNS exactResource busyPods).row "a" = some a ∧
      namespaceItem exactResource "a" a ∈
        (collectPodMetrics exactResource .inserted (.ok ()) (.ok busyPods)).items ∧
      (RoundedOnce exactAmount busyPods "a" a ↔ RoundsLittle exactAmount busyPods "a") :=
  roundedOnce_iff exactResource_roundsUp (by decide +kernel) usagesFit_busyPods () .inserted

/-- Two containers of a nanocore each are shown as two millicores. -/
theorem not_roundedOnce_idlePods :
    RoundsUp exactResource exactAmount ∧ UsagesFit exactAmount idlePods "a" ∧
      ∃ a, (byNS exactResource idlePods).row "a" = some a ∧
        namespaceItem exactResource "a" a ∈
          (collectPodMetrics exactResource .inserted (.ok ()) (.ok idlePods)).items ∧
        ¬ RoundedOnce exactAmount idlePods "a" a := by
  have hfit : UsagesFit exactAmount idlePods "a" :=
    ⟨by decide +kernel, by decide +kernel, by decide +kernel⟩
  refine ⟨exactResource_roundsUp, hfit, ?_⟩
  have hns : "a" ∈ idlePods.map Unstructured.getNamespace := by decide +kernel
  obtain ⟨a, ha, hshown⟩ := @exists_shown exactResource _ _ hns _ () .inserted
  refine ⟨a, ha, hshown, fun honce => ?_⟩
  have hcpu := (byNS_rounded exactResource_roundsUp hfit ha).1
  rw [honce.1] at hcpu
  exact absurd hcpu (by decide +kernel)

end Api
