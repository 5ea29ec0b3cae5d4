import SubstrateControl.Frontend.TypedResponses

/-!
# The overview and the pages

The counts of the monitoring page (`MonitoringPage.tsx`) against what the other pages list:
`WorkersPage.tsx`, `ActorsPage.tsx`, `AtespacesPage.tsx`, `TemplatesPage.tsx` and
`PoolsPage.tsx`.

* `data`, `rows` — what a page has of an answer.
* `WorkersPage.assigned`, `hasStatus` — the rows that the pages count or tell apart.
* `Counts` — the overview counts the rows.
* `overview_counts` — **the overview counts what the pages list.**
-/

set_option autoImplicit false

namespace Frontend

open Api Go Js Kube

/-! ## The pages -/

/-- `query.data`, of an answer that was read; an error leaves none. -/
def ApiFunction.data (c : MessageConsole) (numbers : NumberToString) (fmt : WireFormat)
    (n : NumberFormat) (f : ApiFunction) : Option Value :=
  (f.contents c numbers).head?.bind fun b =>
    (jsonParse (marshalLine n (b.toJVal fmt))).map Value.ofJVal

/-- `query.data?.items ?? []`, for the name of a list. -/
def rows (name : String) (data : Option Value) : List Value :=
  match data.bind (·.prop name) with
  | some (.array items) => items
  | _ => []

/-- `worker.assignment != null`. -/
def isAssigned (worker : Value) : Bool :=
  match worker.prop "assignment" with
  | none => false
  | some .null => false
  | some _ => true

/-- `assigned` of the workers page. -/
def WorkersPage.assigned (workers : List Value) : List Value := workers.filter isAssigned

/-- The badge of the row has this status. -/
def hasStatus (status : String) (actor : Value) : Bool :=
  match actor.prop "status" with
  | some (.string s) => s == status
  | _ => false

/-- `overview.substrate`, under a name. -/
def substrateMetric (overview : Value) (name : String) : Option Value :=
  (overview.prop "substrate").bind (·.prop name)

/-- A count, as a number. -/
def count (k : ℕ) : Option Value := some (.number (numberOf k))

/-- The overview counts the rows of the pages. -/
structure Counts (overview : Value) (workers actors atespaces templates pools : List Value) :
    Prop where
  workersTotal : substrateMetric overview "workersTotal" = count workers.length
  workersAssigned :
    substrateMetric overview "workersAssigned" = count (WorkersPage.assigned workers).length
  workersIdle : substrateMetric overview "workersIdle" =
    count (workers.length - (WorkersPage.assigned workers).length)
  actorsRunning :
    substrateMetric overview "actorsRunning" = count (actors.countP (hasStatus "RUNNING"))
  actorsSuspended :
    substrateMetric overview "actorsSuspended" = count (actors.countP (hasStatus "SUSPENDED"))
  actorsCrashed :
    substrateMetric overview "actorsCrashed" = count (actors.countP (hasStatus "CRASHED"))
  actorsTransitioning : substrateMetric overview "actorsTransitioning" =
    count (actors.length - actors.countP (hasStatus "RUNNING") -
      actors.countP (hasStatus "SUSPENDED") - actors.countP (hasStatus "CRASHED"))
  atespaces : substrateMetric overview "atespaces" = count atespaces.length
  templates : substrateMetric overview "templates" = count templates.length
  pools : substrateMetric overview "pools" = count pools.length

/-! ## What is read of an answer -/

/-- The calls whose answers are counted. -/
def countedCalls : List ApiFunction :=
  [.getMetricsOverview, .listWorkers, .listActors none, .listAtespaces, .listActorTemplates,
    .listWorkerPools]

section

variable {c : MessageConsole} {numbers : NumberToString} {fmt : WireFormat} (n : NumberFormat)

theorem data_of_contents {f : ApiFunction} {b : Content}
    (hfinite : ∀ b ∈ f.contents c numbers, FiniteNums (b.toJVal fmt))
    (hcontents : f.contents c numbers = [b]) :
    f.data c numbers fmt n = some (.ofJVal (b.toJVal fmt)) := by
  have hb : b ∈ f.contents c numbers := by
    rw [hcontents]
    exact List.mem_singleton_self b
  rw [ApiFunction.data, hcontents]
  exact parsed_marshalLine n (hfinite b hb)

theorem rows_struct {α : Type} (name : String) (toJVal : α → JVal) (items : List α) :
    rows name (some (.ofJVal (structJVal [(name, sliceField toJVal items)]))) =
      items.map fun a => .ofJVal (toJVal a) := by
  have hprop : (Value.ofJVal (structJVal [(name, sliceField toJVal items)])).prop name =
      some (.ofJVal (.arr (items.map toJVal))) := by
    rw [prop_struct (by simp), List.lookup_cons, beq_self_eq_true]
    rfl
  unfold rows
  rw [Option.bind_some, hprop, Value.ofJVal, valuesOf_eq, List.map_map]
  rfl

end

/-! ## Rows -/

theorem isAssigned_worker (w : Pb.Worker) :
    isAssigned (.ofJVal (workerToJSON w).toJVal) = w.assignment.isSome := by
  have hprop : (Value.ofJVal (workerToJSON w).toJVal).prop "assignment" =
      (w.assignment.map fun a => (assignmentToJSON a).toJVal).map Value.ofJVal := by
    rw [WorkerJSON.toJVal, prop_struct (by simp)]
    simp [List.lookup_cons, workerToJSON, Function.comp_def]
  unfold isAssigned
  rw [hprop]
  cases w.assignment <;> rfl

theorem hasStatus_actor (fmt : WireFormat) (status : String) (a : Pb.Actor Pb.Selector) :
    hasStatus status (.ofJVal (actorJVal fmt a)) = (statusToString a.status == status) := by
  have hprop : (Value.ofJVal (actorJVal fmt a)).prop "status" =
      some (.string (statusToString a.status)) := by
    rw [actorJVal, ActorJSON.toJVal, prop_struct (by simp)]
    simp [List.lookup_cons, strField, actorToJSON, Value.ofJVal]
  unfold hasStatus
  rw [hprop]

theorem assigned_length (workers : List Pb.Worker) :
    (WorkersPage.assigned (workers.map fun w => .ofJVal (workerToJSON w).toJVal)).length =
      workers.countP fun w => w.assignment.isSome := by
  rw [WorkersPage.assigned, ← List.countP_eq_length_filter, List.countP_map]
  exact List.countP_congr fun w _ => by simp [isAssigned_worker]

theorem countP_hasStatus (fmt : WireFormat) (status : String)
    (actors : List (Pb.Actor Pb.Selector)) :
    (actors.map fun a => Value.ofJVal (actorJVal fmt a)).countP (hasStatus status) =
      actors.countP fun a => statusToString a.status == status := by
  rw [List.countP_map]
  exact List.countP_congr fun a _ => by simp [hasStatus_actor]

/-- Every actor is running, suspended, crashed or in transition. -/
theorem countP_transitioning {α : Type} (status : α → String) (actors : List α) :
    actors.countP (fun a => !(["RUNNING", "SUSPENDED", "CRASHED"].contains (status a))) =
      actors.length - actors.countP (fun a => status a == "RUNNING") -
        actors.countP (fun a => status a == "SUSPENDED") -
        actors.countP (fun a => status a == "CRASHED") := by
  have htotal : actors.countP (fun a => status a == "RUNNING") +
      actors.countP (fun a => status a == "SUSPENDED") +
      actors.countP (fun a => status a == "CRASHED") +
      actors.countP (fun a => !(["RUNNING", "SUSPENDED", "CRASHED"].contains (status a))) =
        actors.length := by
    induction actors with
    | nil => rfl
    | cons a actors ih =>
      rw [List.length_cons, ← ih]
      simp only [List.countP_cons]
      by_cases hrunning : status a = "RUNNING"
      · simp [hrunning]
        omega
      by_cases hsuspended : status a = "SUSPENDED"
      · simp [hsuspended]
        omega
      by_cases hcrashed : status a = "CRASHED"
      · simp [hcrashed]
        omega
      simp [hrunning, hsuspended, hcrashed]
      omega
  omega

/-! ## The answers -/

section

variable {c : MessageConsole} {numbers : NumberToString} {fmt : WireFormat} (n : NumberFormat)

/-- What a client returned is listed. -/
theorem contents_listWorkers {workers : List Pb.Worker} (h : c.server.listWorkers = .ok workers) :
    ApiFunction.listWorkers.contents c numbers = [.read (.workers workers)] := by
  show (successes (handleListWorkers c.server).trace).map Content.read = _
  unfold handleListWorkers
  rw [h]
  rfl

theorem contents_listActors {actors : List (Pb.Actor Pb.Selector)}
    (h : c.server.listActors "" = .ok actors) :
    (ApiFunction.listActors none).contents c numbers = [.read (.actors actors)] := by
  show (successes (handleListActors c.server "").trace).map Content.read = _
  unfold handleListActors
  rw [h]
  rfl

theorem contents_listAtespaces {atespaces : List Pb.Atespace}
    (h : c.server.listAtespaces = .ok atespaces) :
    ApiFunction.listAtespaces.contents c numbers = [.read (.atespaces atespaces)] := by
  show (successes (handleListAtespaces c.server).trace).map Content.read = _
  unfold handleListAtespaces
  rw [h]
  rfl

/-- The objects that are listed, none where the cluster cannot be asked. -/
def listedObjects (s : MessageReader) (list : Except KubeError (List Unstructured)) :
    List Unstructured :=
  (s.kube.toOption.bind fun _ => list.toOption).getD []

/-- A list that cannot be read has no rows. -/
theorem rows_objects {f : ApiFunction} {call : ReadCall}
    {list : Except KubeError (List Unstructured)}
    (hcontents : f.contents c numbers =
      (successes (listKube c.server c.rfc3339 call list).trace).map Content.read)
    (hfinite : ∀ b ∈ f.contents c numbers, FiniteNums (b.toJVal fmt)) :
    (rows "items" (f.data c numbers fmt n)).length = (listedObjects c.server list).length := by
  unfold listKube at hcontents
  unfold listedObjects
  cases hkube : c.server.kube with
  | error e =>
    rw [hkube] at hcontents
    rw [ApiFunction.data, hcontents]
    rfl
  | ok kube =>
    cases list with
    | error e =>
      rw [hkube] at hcontents
      rw [ApiFunction.data, hcontents]
      rfl
    | ok items =>
      rw [hkube] at hcontents
      have hcontents : f.contents c numbers =
          [.read (.objects (items.map (unstructuredToJSON c.rfc3339)))] := hcontents
      rw [data_of_contents n hfinite hcontents]
      refine (congrArg List.length (rows_struct "items" K8sObjectJSON.toJVal _)).trans ?_
      rw [List.length_map, List.length_map]
      rfl

theorem substrateMetrics_objects (s : MessageReader) (workers : List Pb.Worker)
    (actors : List (Pb.Actor Pb.Selector)) (atespaces : List Pb.Atespace) :
    (substrateMetrics s workers actors atespaces).templates =
        (listedObjects s s.listActorTemplates).length ∧
      (substrateMetrics s workers actors atespaces).pools =
        (listedObjects s s.listWorkerPools).length := by
  unfold substrateMetrics listedObjects
  constructor
  · cases s.kube <;> cases s.listActorTemplates <;> rfl
  · cases s.kube <;> cases s.listWorkerPools <;> rfl

/-- The overview is made of lists that were read. -/
theorem contents_overview {b : Content}
    (hb : b ∈ ApiFunction.getMetricsOverview.contents c numbers) :
    ∃ workers actors atespaces o, c.server.listWorkers = .ok workers ∧
      c.server.listActors "" = .ok actors ∧ c.server.listAtespaces = .ok atespaces ∧
      b = .read (.overview o) ∧
      o.substrate = substrateMetrics c.server workers actors atespaces := by
  obtain ⟨v, hv, rfl⟩ := List.mem_map.mp hb
  obtain ⟨workers, actors, atespaces, o, hworkers, hactors, hatespaces, rfl, hsubstrate⟩ :=
    (handleMetricsOverview_writes c.server).trace (mem_successes.mp hv)
  exact ⟨workers, actors, atespaces, o, hworkers, hactors, hatespaces, rfl, hsubstrate⟩

theorem substrateMetric_overview
    (o : OverviewJSON) (name : String) :
    substrateMetric (.ofJVal o.toJVal) name = (Value.ofJVal o.substrate.toJVal).prop name := by
  have hprop : (Value.ofJVal o.toJVal).prop "substrate" = some (.ofJVal o.substrate.toJVal) := by
    rw [OverviewJSON.toJVal, prop_struct (by simp)]
    simp [List.lookup_cons]
  rw [substrateMetric, hprop, Option.bind_some]

/-- The counts, as numbers. -/
theorem metric_overview
    (o : OverviewJSON) :
    let metric := substrateMetric (.ofJVal o.toJVal)
    let m := o.substrate
    (metric "workersTotal" = count m.workersTotal ∧
        metric "workersAssigned" = count m.workersAssigned ∧
        metric "workersIdle" = count m.workersIdle) ∧
      (metric "actorsRunning" = count m.actorsRunning ∧
        metric "actorsSuspended" = count m.actorsSuspended ∧
        metric "actorsCrashed" = count m.actorsCrashed ∧
        metric "actorsTransitioning" = count m.actorsTransitioning) ∧
      metric "atespaces" = count m.atespaces ∧ metric "templates" = count m.templates ∧
      metric "pools" = count m.pools := by
  intro metric m
  have hmetric : ∀ name, metric name = _ := fun name =>
    (substrateMetric_overview o name).trans (prop_struct (by simp) name)
  simp [m, hmetric, List.lookup_cons, intField, count, Value.ofJVal]

end

/-- The rows of lists that were read are counted. -/
theorem counts_rows {s : MessageReader} (hreads : s.Reads) (fmt : WireFormat)
    {workers : List Pb.Worker} {actors : List (Pb.Actor Pb.Selector)}
    {atespaces : List Pb.Atespace}
    {o : OverviewJSON}
    (hsubstrate : o.substrate = substrateMetrics s workers actors atespaces)
    {templates pools : List Value}
    (htemplates : templates.length = (listedObjects s s.listActorTemplates).length)
    (hpools : pools.length = (listedObjects s s.listWorkerPools).length) :
    Counts (.ofJVal o.toJVal) (workers.map fun w => .ofJVal (workerToJSON w).toJVal)
      (actors.map fun a => .ofJVal (actorJVal fmt a))
      (atespaces.map fun a => .ofJVal (atespaceJVal fmt a)) templates pools := by
  have hassigned : workers.countP s.assigned =
      (WorkersPage.assigned (workers.map fun w => .ofJVal (workerToJSON w).toJVal)).length := by
    rw [assigned_length]
    exact List.countP_congr fun w _ => by rw [hreads.assigned]
  have hstatus : ∀ status, actors.countP (fun a => s.statusToString a == status) =
      (actors.map fun a => Value.ofJVal (actorJVal fmt a)).countP (hasStatus status) := by
    intro status
    rw [countP_hasStatus]
    simp only [hreads.statusToString]
  obtain ⟨htemplateCount, hpoolCount⟩ := substrateMetrics_objects s workers actors atespaces
  obtain ⟨⟨htotal, hassignedMetric, hidle⟩, ⟨hrunning, hsuspended, hcrashed, htransitioning⟩,
    hatespaces, htemplatesMetric, hpoolsMetric⟩ := metric_overview o
  rw [hsubstrate] at *
  constructor
  · rw [htotal, List.length_map]
    rfl
  · rw [hassignedMetric, ← hassigned]
    rfl
  · rw [hidle, List.length_map, ← hassigned]
    rfl
  · rw [hrunning, ← hstatus]
    rfl
  · rw [hsuspended, ← hstatus]
    rfl
  · rw [hcrashed, ← hstatus]
    rfl
  · rw [htransitioning, ← hstatus, ← hstatus, ← hstatus, List.length_map]
    exact congrArg count (countP_transitioning s.statusToString actors)
  · rw [hatespaces, List.length_map]
    rfl
  · rw [htemplatesMetric, htemplates, htemplateCount]
  · rw [hpoolsMetric, hpools, hpoolCount]

/-- **The overview counts what the pages list.**  When the monitoring page has an overview, each of
its counts of the control plane is the number of rows that a page lists of the same state: of the
workers, those with an assignment and the others, of the actors, those of a status and the rest, of
the atespaces, the templates and the pools, which are none where the cluster cannot be asked. -/
theorem overview_counts (c : MessageConsole) (numbers : NumberToString) (fmt : WireFormat)
    (n : NumberFormat) (hreads : MessageReader.Reads c.server)
    (hfinite : ∀ f ∈ countedCalls, ∀ b ∈ f.contents c numbers, FiniteNums (b.toJVal fmt))
    {overview : Value}
    (hoverview : ApiFunction.getMetricsOverview.data c numbers fmt n = some overview) :
    Counts overview
      (rows "workers" (ApiFunction.listWorkers.data c numbers fmt n))
      (rows "actors" ((ApiFunction.listActors none).data c numbers fmt n))
      (rows "atespaces" (ApiFunction.listAtespaces.data c numbers fmt n))
      (rows "items" (ApiFunction.listActorTemplates.data c numbers fmt n))
      (rows "items" (ApiFunction.listWorkerPools.data c numbers fmt n)) := by
  have hfinite : ∀ {f : ApiFunction}, f ∈ countedCalls → ∀ b ∈ f.contents c numbers,
      FiniteNums (b.toJVal fmt) := fun {f} => hfinite f
  obtain ⟨b, hb, hparsed⟩ := Option.bind_eq_some_iff.mp hoverview
  have hb := List.mem_of_head? hb
  obtain ⟨workers, actors, atespaces, o, hworkers, hactors, hatespaces, rfl, hsubstrate⟩ :=
    contents_overview hb
  have hoverview : overview = .ofJVal o.toJVal := by
    have hself := parsed_marshalLine n (hfinite (by simp [countedCalls]) _ hb)
    exact Option.some.inj (hparsed.symm.trans hself)
  have hworkerRows : rows "workers" (ApiFunction.listWorkers.data c numbers fmt n) =
      workers.map fun w => .ofJVal (workerToJSON w).toJVal := by
    rw [data_of_contents n (hfinite (by simp [countedCalls])) (contents_listWorkers hworkers)]
    exact rows_struct "workers" (fun w => (workerToJSON w).toJVal) workers
  have hactorRows : rows "actors" ((ApiFunction.listActors none).data c numbers fmt n) =
      actors.map fun a => .ofJVal (actorJVal fmt a) := by
    rw [data_of_contents n (hfinite (by simp [countedCalls])) (contents_listActors hactors)]
    exact rows_struct "actors" (actorJVal fmt) actors
  have hatespaceRows : rows "atespaces" (ApiFunction.listAtespaces.data c numbers fmt n) =
      atespaces.map fun a => .ofJVal (atespaceJVal fmt a) := by
    rw [data_of_contents n (hfinite (by simp [countedCalls])) (contents_listAtespaces hatespaces)]
    exact rows_struct "atespaces" (atespaceJVal fmt) atespaces
  rw [hworkerRows, hactorRows, hatespaceRows, hoverview]
  apply counts_rows hreads fmt hsubstrate
  · exact rows_objects n (f := .listActorTemplates) rfl (hfinite (by simp [countedCalls]))
  · exact rows_objects n (f := .listWorkerPools) rfl (hfinite (by simp [countedCalls]))

/-- Two workers, one of them assigned, and two actors, one in a status without a name. -/
theorem overview_counts_fleet :
    ∃ overview, ApiFunction.getMetricsOverview.data fleetConsole exactDecimal
        ⟨fun _ => "", fun _ => false⟩ exactFormat = some overview ∧
      substrateMetric overview "workersIdle" = count 1 ∧
      substrateMetric overview "actorsTransitioning" = count 1 := by
  let fmt : WireFormat := ⟨fun _ => "", fun _ => false⟩
  have hfinite : ∀ f ∈ countedCalls, ∀ b ∈ f.contents fleetConsole exactDecimal,
      FiniteNums (b.toJVal fmt) := by
    unfold FiniteNums
    decide +kernel
  have hdata : ∀ f ∈ countedCalls, ∀ b, f.contents fleetConsole exactDecimal = [b] →
      f.data fleetConsole exactDecimal fmt exactFormat = some (.ofJVal (b.toJVal fmt)) :=
    fun f hf b => data_of_contents exactFormat (hfinite f hf)
  have hreads : MessageReader.Reads fleetConsole.server :=
    { assigned := fun _ => rfl
      statusToString := fun _ => rfl }
  have hoverview := hdata .getMetricsOverview (by simp [countedCalls]) _ rfl
  have hcounts := overview_counts fleetConsole exactDecimal fmt exactFormat hreads hfinite hoverview
  refine ⟨_, hoverview, ?_, ?_⟩
  · rw [hcounts.workersIdle, hdata .listWorkers (by simp [countedCalls]) _ rfl]
    exact congrArg count (by decide +kernel)
  · rw [hcounts.actorsTransitioning, hdata (.listActors none) (by simp [countedCalls]) _ rfl]
    exact congrArg count (by decide +kernel)

end Frontend
