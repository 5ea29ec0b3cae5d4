import SubstrateControl.Api.Reads
import SubstrateControl.Go.Marshal

/-!
# Lists of custom resources

What `listKube` (`internal/api/server.go`) writes.

* `K8sObjectJSON.toJVal`, `objectsJVal` — an object and a list of them as JSON.
* `listKube_written` — the list of the cluster is written, where there is a client.
* `objectsJVal_finite` — the numbers of the objects are written.
-/

set_option autoImplicit false

namespace Api

open Go Kube

/-- The members of a `k8sObjectJSON`: what is empty may be omitted, and maps have their keys in
order. -/
def K8sObjectJSON.members (o : K8sObjectJSON) : JObj :=
  [("namespace", .str o.ns), ("name", .str o.name), ("uid", .str o.uid),
      ("creationTimestamp", .str o.creationTimestamp)] ++
    (if o.labels.getD [] ≠ [] then [("labels", sorted (labelsJSON (o.labels.getD [])))] else []) ++
    [("spec", (o.spec.map fun spec => sorted (.obj spec)).getD .null)] ++
    (if (o.status.getD []).isEmpty = false then
      [("status", sorted (.obj (o.status.getD [])))] else [])

def K8sObjectJSON.toJVal (o : K8sObjectJSON) : JVal := .obj o.members

/-- `map[string]any{"items": out}`. -/
def objectsJVal (items : List K8sObjectJSON) : JVal :=
  .obj [("items", .arr (items.map K8sObjectJSON.toJVal))]

/-! ## The handler -/

variable {Atespace Actor Worker : Type}

/-- **The objects of the cluster are written** in their order. -/
theorem listKube_written {s : Reader Atespace Actor Worker} {kube : KubeClient}
    (hkube : s.kube = .ok kube) (rfc3339 : String → String) (c : ReadCall)
    (items : List Unstructured) :
    (listKube s rfc3339 c (.ok items)).trace.responses =
      [.ok (.objects (items.map (unstructuredToJSON rfc3339)))] := by
  unfold listKube
  rw [hkube]
  rfl

/-! ## Numbers -/

theorem nums_labelsJSON (labels : List (String × String)) : nums (labelsJSON labels) = [] := by
  have hmembers : ∀ labels : List (String × String),
      numsMembers (labels.map fun kv => (kv.1, JVal.str kv.2)) = [] := by
    intro labels
    induction labels with
    | nil => rfl
    | cons kv labels ih =>
      rw [List.map_cons, numsMembers, ih]
      rfl
  rw [labelsJSON, nums, hmembers]

theorem exists_of_mem_numsMembers {q : ℚ} : ∀ {m : JObj}, q ∈ numsMembers m →
    ∃ kv ∈ m, q ∈ nums kv.2
  | [], h => by cases h
  | (k, x) :: m, h => by
    rw [numsMembers, List.mem_append] at h
    rcases h with h | h
    · exact ⟨(k, x), List.mem_cons_self, h⟩
    · obtain ⟨kv, hkv, hq⟩ := exists_of_mem_numsMembers h
      exact ⟨kv, List.mem_cons_of_mem _ hkv, hq⟩

mutual

/-- Sorting adds no numbers. -/
theorem mem_nums_of_sorted {q : ℚ} : ∀ v : JVal, q ∈ nums (sorted v) → q ∈ nums v
  | .null, h => h
  | .bool _, h => h
  | .str _, h => h
  | .num _, h => h
  | .arr xs, h => mem_numsElems_of_sorted xs h
  | .obj m, h => by
    rw [sorted, nums] at h
    obtain ⟨kv, hkv, hq⟩ := exists_of_mem_numsMembers h
    rw [List.mem_mergeSort] at hkv
    exact mem_numsMembers_of_sorted m (mem_numsMembers hkv hq)

theorem mem_numsElems_of_sorted {q : ℚ} : ∀ xs : List JVal, q ∈ numsElems (itemsSorted xs) →
    q ∈ numsElems xs
  | [], h => h
  | x :: xs, h => by
    rw [itemsSorted, numsElems, List.mem_append] at h
    rw [numsElems, List.mem_append]
    exact h.imp (mem_nums_of_sorted x) (mem_numsElems_of_sorted xs)

theorem mem_numsMembers_of_sorted {q : ℚ} : ∀ m : JObj, q ∈ numsMembers (membersSorted m) →
    q ∈ numsMembers m
  | [], h => h
  | (k, x) :: m, h => by
    rw [membersSorted, numsMembers, List.mem_append] at h
    rw [numsMembers, List.mem_append]
    exact h.imp (mem_nums_of_sorted x) (mem_numsMembers_of_sorted m)

end

theorem finiteNums_sorted {v : JVal} (h : FiniteNums v) : FiniteNums (sorted v) :=
  fun q hq => h q (mem_nums_of_sorted v hq)

/-- A field of an object has no other numbers. -/
theorem finiteNums_mapField {u : Unstructured} (h : FiniteNums (.obj u)) {k : String} {m : JObj}
    (hm : mapField u k = some m) : FiniteNums (.obj m) := by
  have hget : JObj.get u k = .obj m := by
    unfold mapField at hm
    split at hm
    · rename_i m' hm'
      rw [hm', Option.some.inj hm]
    · cases hm
  unfold JObj.get at hget
  cases hlookup : List.lookup k u with
  | none =>
    rw [hlookup] at hget
    cases hget
  | some v =>
    rw [hlookup, Option.getD_some] at hget
    obtain ⟨before, after, heq, -⟩ := List.lookup_eq_some_iff.mp hlookup
    intro q hq
    apply h q
    have hmem : (k, v) ∈ u := by
      rw [heq]
      simp
    exact mem_numsMembers hmem (hget ▸ hq)

theorem finiteNums_of_members {m : JObj} (h : ∀ kv ∈ m, FiniteNums kv.2) :
    FiniteNums (.obj m) := by
  intro q hq
  obtain ⟨kv, hkv, hq⟩ := exists_of_mem_numsMembers hq
  exact h kv hkv q hq

theorem finiteNums_str (s : String) : FiniteNums (.str s) := nofun

theorem toJVal_finite {rfc3339 : String → String} {u : Unstructured} (h : FiniteNums (.obj u)) :
    FiniteNums (unstructuredToJSON rfc3339 u).toJVal := by
  apply finiteNums_of_members
  intro kv hkv
  unfold K8sObjectJSON.members at hkv
  rw [List.mem_append, List.mem_append, List.mem_append] at hkv
  rcases hkv with ((hkv | hkv) | hkv) | hkv
  · simp only [List.mem_cons, List.not_mem_nil, or_false] at hkv
    rcases hkv with rfl | rfl | rfl | rfl <;> exact finiteNums_str _
  · split at hkv
    · rw [List.mem_singleton.mp hkv]
      refine finiteNums_sorted fun q hq => ?_
      rw [nums_labelsJSON] at hq
      cases hq
    · cases hkv
  · rw [List.mem_singleton.mp hkv]
    cases hspec : mapField u "spec" with
    | none =>
      show FiniteNums ((Option.map _ (mapField u "spec")).getD .null)
      rw [hspec]
      exact nofun
    | some spec =>
      show FiniteNums ((Option.map _ (mapField u "spec")).getD .null)
      rw [hspec]
      exact finiteNums_sorted (finiteNums_mapField h hspec)
  · split at hkv
    · rw [List.mem_singleton.mp hkv]
      cases hstatus : mapField u "status" with
      | none =>
        show FiniteNums (sorted (.obj ((mapField u "status").getD [])))
        rw [hstatus]
        exact finiteNums_sorted (finiteNums_of_members nofun)
      | some status =>
        show FiniteNums (sorted (.obj ((mapField u "status").getD [])))
        rw [hstatus]
        exact finiteNums_sorted (finiteNums_mapField h hstatus)
    · cases hkv

/-- The numbers of the objects are written. -/
theorem objectsJVal_finite {rfc3339 : String → String} {items : List Unstructured}
    (h : ∀ u ∈ items, FiniteNums (.obj u)) :
    FiniteNums (objectsJVal (items.map (unstructuredToJSON rfc3339))) := by
  have hitems : ∀ items : List Unstructured, (∀ u ∈ items, FiniteNums (.obj u)) →
      ∀ q ∈ numsElems ((items.map (unstructuredToJSON rfc3339)).map K8sObjectJSON.toJVal),
        (parseFloat q).isSome = true := by
    intro items h
    induction items with
    | nil => exact nofun
    | cons u items ih =>
      rw [List.map_cons, List.map_cons, numsElems, List.forall_mem_append]
      exact ⟨toJVal_finite (h u List.mem_cons_self),
        ih fun u' hu' => h u' (List.mem_cons_of_mem _ hu')⟩
  apply finiteNums_of_members
  intro kv hkv
  rw [List.mem_singleton.mp hkv]
  exact hitems items h

end Api
