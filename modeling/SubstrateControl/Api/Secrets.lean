import SubstrateControl.Api.Server
import SubstrateControl.Go.Maps

/-!
# Secrets are write-only

Model of `secretToJSON` (`internal/api/types.go`), `handleListSecrets`, `handleCreateSecret` and
`handleDeleteSecret` (`internal/api/server.go`).  The order of the ranges over the maps of each
Secret and the rendering of timestamps are parameters.

* `secretToJSON_keys` — the key names shown: strictly increasing, the union of both fields.
* `SameSecret`, `SameCluster` — Secrets, and clusters, that agree on all but values.
* `secrets_write_only` — the values do not show in the responses.
-/

set_option autoImplicit false

namespace Api

open Go Kube

variable {Atespace Actor : Type}

/-- `keySet`: the key names of `data` and `stringData`. -/
def keySet (o : MapOrder) (u : Unstructured) : List String :=
  ["data", "stringData"].foldl (fun set field => insertAll set (o.range (nestedMap u field))) []

/-- `u.Object["type"].(string)`, empty where it is no string. -/
def secretType (u : Unstructured) : String :=
  match JObj.get u "type" with
  | .str s => s
  | _ => ""

/-- `secretToJSON`. -/
def secretToJSON (o : MapOrder) (rfc3339 : String → String) (u : Unstructured) : SecretInfoJSON :=
  { ns := u.getNamespace
    name := u.getName
    type := secretType u
    keys := sortStrings (o.order (keySet o u))
    creationTimestamp := rfc3339 u.getCreationTimestamp }

/-- `handleListSecrets`, with the query parameter `namespace`. -/
def handleListSecrets (o : Unstructured → MapOrder) (rfc3339 : String → String)
    (s : Server Atespace Actor) (ns : String) : Handler Atespace Actor Unit := do
  match ← kubeUnavailable s with
  | none => return
  | some kube =>
    if ns = "" then
      writeError 400 "namespace query parameter is required"
    else
      match ← call (.listSecrets ns) (kube.listSecrets ns) with
      | .error e => writeKubeError e
      | .ok items => writeJSON (.secrets (items.map fun u => secretToJSON (o u) rfc3339 u))

/-- The Secret `handleCreateSecret` asks for: always Opaque, its data as `stringData`. -/
def newSecret (req : CreateSecretRequest) : Unstructured :=
  let obj : Unstructured := []
  let obj := obj.setAPIVersion "v1"
  let obj := obj.setKind "Secret"
  let obj := obj.setNamespace req.ns
  let obj := obj.setName req.name
  let obj := JObj.set obj "type" (.str "Opaque")
  JObj.set obj "stringData" (.obj (req.data.map fun kv => (kv.1, .str kv.2)))

/-- `handleCreateSecret`. -/
def handleCreateSecret (o : Unstructured → MapOrder) (rfc3339 : String → String)
    (s : Server Atespace Actor) (body : DecodedBody CreateSecretRequest) :
    Handler Atespace Actor Unit := do
  match ← kubeUnavailable s with
  | none => return
  | some kube =>
    match decodeBody {} body with
    | .error e => writeError 400 ("invalid JSON body: " ++ e)
    | .ok req =>
      if req.ns = "" ∨ req.name = "" ∨ req.data.length = 0 then
        writeError 400 "namespace, name and non-empty data are required"
      else
        match ← call (.createSecret (newSecret req)) (kube.createSecret (newSecret req)) with
        | .error e => writeKubeError e
        | .ok created => writeJSON (.secret (secretToJSON (o created) rfc3339 created))

/-- `handleDeleteSecret`. -/
def handleDeleteSecret (s : Server Atespace Actor) (ns name : String) :
    Handler Atespace Actor Unit := do
  match ← kubeUnavailable s with
  | none => return
  | some kube =>
    match ← call (.deleteSecret ns name) (kube.deleteSecret ns name) with
    | .error e => writeKubeError e
    | .ok _ => writeJSON .deleted

/-! ## The key names -/

/-- The key names of a field, none where the field is missing or no map. -/
def keyNames (u : Unstructured) (field : String) : List String := (nestedMap u field).map Prod.fst

theorem mem_keySet (o : MapOrder) (u : Unstructured) (k : String) :
    k ∈ keySet o u ↔ k ∈ keyNames u "data" ∨ k ∈ keyNames u "stringData" := by
  unfold keySet keyNames MapOrder.range
  simp only [List.foldl_cons, List.foldl_nil, mem_insertAll, o.mem_order, List.not_mem_nil,
    false_or]

theorem nodup_keySet (o : MapOrder) (u : Unstructured) : (keySet o u).Nodup := by
  unfold keySet
  simp only [List.foldl_cons, List.foldl_nil]
  exact nodup_insertAll _ (nodup_insertAll _ List.nodup_nil)

/-- What the key names of a shown Secret have to be. -/
def ShowsKeys (u : Unstructured) (info : SecretInfoJSON) : Prop :=
  info.keys.Pairwise (· < ·) ∧
  ∀ k, k ∈ info.keys ↔ k ∈ keyNames u "data" ∨ k ∈ keyNames u "stringData"

/-- **The key names shown are the union of both fields, in strictly increasing order.** -/
theorem secretToJSON_keys (o : MapOrder) (rfc3339 : String → String) (u : Unstructured) :
    ShowsKeys u (secretToJSON o rfc3339 u) := by
  constructor
  · have hnodup : (o.order (keySet o u)).Nodup := (o.perm _).nodup_iff.mpr (nodup_keySet o u)
    exact sortStrings_strict hnodup
  · intro k
    unfold secretToJSON
    rw [mem_sortStrings, o.mem_order, mem_keySet]

/-! ## Secrets that differ in their values only -/

/-- Two Secrets that agree on namespace, name, type, timestamp and key names. -/
structure SameSecret (u u' : Unstructured) : Prop where
  ns : u'.getNamespace = u.getNamespace
  name : u'.getName = u.getName
  type : secretType u' = secretType u
  creationTimestamp : u'.getCreationTimestamp = u.getCreationTimestamp
  data : ∀ k, k ∈ keyNames u' "data" ↔ k ∈ keyNames u "data"
  stringData : ∀ k, k ∈ keyNames u' "stringData" ↔ k ∈ keyNames u "stringData"

/-- **Such Secrets are shown the same**, in whatever order maps are ranged over. -/
theorem secretToJSON_eq (o o' : MapOrder) (rfc3339 : String → String) {u u' : Unstructured}
    (h : SameSecret u u') : secretToJSON o rfc3339 u = secretToJSON o' rfc3339 u' := by
  obtain ⟨hstrict, hmem⟩ := secretToJSON_keys o rfc3339 u
  obtain ⟨hstrict', hmem'⟩ := secretToJSON_keys o' rfc3339 u'
  have hkeys : sortStrings (o.order (keySet o u)) = sortStrings (o'.order (keySet o' u')) := by
    refine eq_of_strict hstrict hstrict' fun k => ?_
    have hunion := hmem' k
    rw [h.data, h.stringData] at hunion
    exact (hmem k).trans hunion.symm
  unfold secretToJSON
  rw [h.ns, h.name, h.type, h.creationTimestamp, hkeys]

/-- Two requests that differ in the values only. -/
structure SameCreateSecret (req req' : CreateSecretRequest) : Prop where
  ns : req'.ns = req.ns
  name : req'.name = req.name
  data : ∀ k, k ∈ req'.data.map Prod.fst ↔ k ∈ req.data.map Prod.fst

/-- The fields of the request, without the values. -/
theorem newSecret_fields (req : CreateSecretRequest) :
    (newSecret req).getNamespace = req.ns ∧ (newSecret req).getName = req.name ∧
    secretType (newSecret req) = "Opaque" ∧ (newSecret req).getCreationTimestamp = "" ∧
    keyNames (newSecret req) "data" = [] ∧
    keyNames (newSecret req) "stringData" = req.data.map Prod.fst := by
  by_cases hns : req.ns = "" <;> by_cases hname : req.name = "" <;>
    simp [newSecret, Unstructured.setAPIVersion, Unstructured.setKind, Unstructured.setNamespace,
      Unstructured.setName, Unstructured.setMetadata, Unstructured.removeMetadata, JObj.get_set,
      JObj.get_erase, hns, hname, Unstructured.getNamespace, Unstructured.getName,
      Unstructured.getMetadata, nestedMap, secretType, Unstructured.getCreationTimestamp, keyNames,
      JObj.get_nil]

theorem sameSecret_newSecret {req req' : CreateSecretRequest} (h : SameCreateSecret req req') :
    SameSecret (newSecret req) (newSecret req') := by
  obtain ⟨hns, hname, htype, htime, hdata, hstring⟩ := newSecret_fields req
  obtain ⟨hns', hname', htype', htime', hdata', hstring'⟩ := newSecret_fields req'
  refine ⟨?_, ?_, ?_, ?_, ?_, ?_⟩
  · rw [hns, hns', h.ns]
  · rw [hname, hname', h.name]
  · rw [htype, htype']
  · rw [htime, htime']
  · intro k
    rw [hdata, hdata']
  · intro k
    rw [hstring, hstring']
    exact h.data k

/-! ## The responses -/

/-- A successful listing shows the Secrets of the namespace. -/
theorem handleListSecrets_ok {o : Unstructured → MapOrder} {rfc3339 : String → String}
    {s : Server Atespace Actor} {ns : String} {body : Body Atespace Actor}
    (h : .ok body ∈ (handleListSecrets o rfc3339 s ns).trace.responses) :
    ∃ kube us, s.kube = .ok kube ∧ kube.listSecrets ns = .ok us ∧
      body = .secrets (us.map fun u => secretToJSON (o u) rfc3339 u) := by
  unfold handleListSecrets at h
  obtain ⟨kube, hkube, h⟩ := kubeUnavailable_ok rfl h
  by_cases hns : ns = ""
  · simp only [hns, reduceIte] at h
    exact absurd h not_ok_writeError
  · simp only [hns, reduceIte] at h
    obtain ⟨us, hlist, hbody⟩ := call_ok h (fun _ => rfl) writeKubeError_writesError
    exact ⟨kube, us, hkube, hlist, hbody⟩

/-- A successful creation shows the Secret that was created. -/
theorem handleCreateSecret_ok {o : Unstructured → MapOrder} {rfc3339 : String → String}
    {s : Server Atespace Actor} {req : CreateSecretRequest} {body : Body Atespace Actor}
    (h : .ok body ∈ (handleCreateSecret o rfc3339 s (.value req)).trace.responses) :
    ∃ kube created, s.kube = .ok kube ∧ kube.createSecret (newSecret req) = .ok created ∧
      body = .secret (secretToJSON (o created) rfc3339 created) := by
  unfold handleCreateSecret at h
  obtain ⟨kube, hkube, h⟩ := kubeUnavailable_ok rfl h
  simp only [decodeBody] at h
  split at h
  · exact absurd h not_ok_writeError
  · obtain ⟨created, hcreate, hbody⟩ := call_ok h (fun _ => rfl) writeKubeError_writesError
    exact ⟨kube, created, hkube, hcreate, hbody⟩

/-- Two servers whose clusters agree on everything but the values of Secrets: Secrets that are
listed or created in both for the same request, up to values, agree up to values. -/
structure SameCluster (s s' : Server Atespace Actor) : Prop where
  listSecrets : ∀ kube kube' ns us us', s.kube = .ok kube → s'.kube = .ok kube' →
    kube.listSecrets ns = .ok us → kube'.listSecrets ns = .ok us' → List.Forall₂ SameSecret us us'
  createSecret : ∀ kube kube' obj obj' u u', s.kube = .ok kube → s'.kube = .ok kube' →
    SameSecret obj obj' → kube.createSecret obj = .ok u → kube'.createSecret obj' = .ok u' →
    SameSecret u u'

/-- The successful responses of two handlers are identical. -/
def SameOk (h h' : Handler Atespace Actor Unit) : Prop :=
  ∀ body body', .ok body ∈ h.trace.responses → .ok body' ∈ h'.trace.responses → body = body'

theorem map_secretToJSON_eq (o o' : Unstructured → MapOrder) (rfc3339 : String → String)
    {us us' : List Unstructured} (h : List.Forall₂ SameSecret us us') :
    (us.map fun u => secretToJSON (o u) rfc3339 u) =
      us'.map fun u => secretToJSON (o' u) rfc3339 u := by
  induction h with
  | nil => rfl
  | cons hu _ ih => rw [List.map_cons, List.map_cons, secretToJSON_eq _ _ rfc3339 hu, ih]

/-- **Secret values are write-only**: they show in no successful response, and the key names that do
are those of both fields, in strictly increasing order. -/
theorem secrets_write_only (o o' : Unstructured → MapOrder) (rfc3339 : String → String)
    (s s' : Server Atespace Actor) (h : SameCluster s s') :
    (∀ ns, SameOk (handleListSecrets o rfc3339 s ns) (handleListSecrets o' rfc3339 s' ns)) ∧
    (∀ req req', SameCreateSecret req req' →
      SameOk (handleCreateSecret o rfc3339 s (.value req))
        (handleCreateSecret o' rfc3339 s' (.value req'))) ∧
    (∀ ns body, .ok body ∈ (handleListSecrets o rfc3339 s ns).trace.responses →
      ∃ kube us items, s.kube = .ok kube ∧ kube.listSecrets ns = .ok us ∧ body = .secrets items ∧
        List.Forall₂ ShowsKeys us items) ∧
    (∀ req body, .ok body ∈ (handleCreateSecret o rfc3339 s (.value req)).trace.responses →
      ∃ kube created info, s.kube = .ok kube ∧ kube.createSecret (newSecret req) = .ok created ∧
        body = .secret info ∧ ShowsKeys created info) := by
  refine ⟨?_, ?_, ?_, ?_⟩
  · intro ns body body' hbody hbody'
    obtain ⟨kube, us, hkube, hlist, rfl⟩ := handleListSecrets_ok hbody
    obtain ⟨kube', us', hkube', hlist', rfl⟩ := handleListSecrets_ok hbody'
    have hus := h.listSecrets kube kube' ns us us' hkube hkube' hlist hlist'
    rw [map_secretToJSON_eq _ _ rfc3339 hus]
  · intro req req' hreq body body' hbody hbody'
    obtain ⟨kube, u, hkube, hcreate, rfl⟩ := handleCreateSecret_ok hbody
    obtain ⟨kube', u', hkube', hcreate', rfl⟩ := handleCreateSecret_ok hbody'
    have hu := h.createSecret kube kube' _ _ u u' hkube hkube' (sameSecret_newSecret hreq) hcreate
      hcreate'
    rw [secretToJSON_eq _ _ rfc3339 hu]
  · intro ns body hbody
    obtain ⟨kube, us, hkube, hlist, rfl⟩ := handleListSecrets_ok hbody
    refine ⟨kube, us, _, hkube, hlist, rfl, ?_⟩
    rw [List.forall₂_map_right_iff, List.forall₂_same]
    exact fun u _ => secretToJSON_keys (o u) rfc3339 u
  · intro req body hbody
    obtain ⟨kube, created, hkube, hcreate, rfl⟩ := handleCreateSecret_ok hbody
    exact ⟨kube, created, _, hkube, hcreate, rfl, secretToJSON_keys (o created) rfc3339 created⟩

/-! ## A cluster -/

/-- What the API server stores: `stringData` goes into `data`, encoded. -/
def stored (encode : JVal → JVal) (obj : Unstructured) : Unstructured :=
  let data := nestedMap obj "data" ++ (nestedMap obj "stringData").map fun kv => (kv.1, encode kv.2)
  let obj : Unstructured := JObj.set (JObj.erase obj "stringData") "data" (.obj data)
  obj.setMetadata "creationTimestamp" (.str "2025-01-01T00:00:00Z")

/-- Two one-letter values in base64. -/
def encodeLetter : JVal → JVal
  | .str "a" => .str "YQ=="
  | .str "b" => .str "Yg=="
  | v => v

/-- A cluster in which one Secret holds a password. -/
def clusterWith (password : String) : Server Unit Unit :=
  let held : Unstructured :=
    stored encodeLetter (newSecret ⟨"default", "db", [("password", password)]⟩)
  { idleServer with
    kube := .ok
      { createObject := fun _ obj => .ok obj
        deleteObject := fun _ _ _ => .ok ()
        listSecrets := fun ns => .ok (if ns = "default" then [held] else [])
        createSecret := fun obj => .ok (stored encodeLetter obj)
        deleteSecret := fun _ _ => .ok () } }

theorem sameSecret_stored (encode : JVal → JVal) {obj obj' : Unstructured}
    (h : SameSecret obj obj') : SameSecret (stored encode obj) (stored encode obj') := by
  have hfields : ∀ u : Unstructured,
      (stored encode u).getNamespace = u.getNamespace ∧ (stored encode u).getName = u.getName ∧
      secretType (stored encode u) = secretType u ∧
      (stored encode u).getCreationTimestamp = "2025-01-01T00:00:00Z" ∧
      keyNames (stored encode u) "data" = keyNames u "data" ++ keyNames u "stringData" ∧
      keyNames (stored encode u) "stringData" = [] := by
    intro u
    simp [stored, Unstructured.setMetadata, JObj.get_set, JObj.get_erase, Unstructured.getNamespace,
      Unstructured.getName, Unstructured.getMetadata, Unstructured.getCreationTimestamp, nestedMap,
      secretType, keyNames]
  obtain ⟨hns, hname, htype, htime, hdata, hstring⟩ := hfields obj
  obtain ⟨hns', hname', htype', htime', hdata', hstring'⟩ := hfields obj'
  refine ⟨?_, ?_, ?_, ?_, ?_, ?_⟩
  · rw [hns, hns', h.ns]
  · rw [hname, hname', h.name]
  · rw [htype, htype', h.type]
  · rw [htime, htime']
  · intro k
    rw [hdata, hdata', List.mem_append, List.mem_append, h.data, h.stringData]
  · intro k
    rw [hstring, hstring']

theorem sameCluster_clusterWith (password password' : String) :
    SameCluster (clusterWith password) (clusterWith password') := by
  constructor
  · intro kube kube' ns us us' hkube hkube' hlist hlist'
    cases hkube
    cases hkube'
    have hheld : SameSecret (newSecret ⟨"default", "db", [("password", password)]⟩)
        (newSecret ⟨"default", "db", [("password", password')]⟩) :=
      sameSecret_newSecret ⟨rfl, rfl, fun _ => Iff.rfl⟩
    simp only [Except.ok.injEq] at hlist hlist'
    subst hlist hlist'
    split
    · exact .cons (sameSecret_stored encodeLetter hheld) .nil
    · exact .nil
  · intro kube kube' obj obj' u u' hkube hkube' h hcreate hcreate'
    cases hkube
    cases hkube'
    cases hcreate
    cases hcreate'
    exact sameSecret_stored encodeLetter h

/-- Listings of two clusters with other passwords. -/
theorem secrets_write_only_passwords :
    SameOk (handleListSecrets (fun _ => .inserted) id (clusterWith "a") "default")
      (handleListSecrets (fun _ => .reversed) id (clusterWith "b") "default") ∧
    (handleListSecrets (fun _ => .inserted) id (clusterWith "a")
      "default").trace.responses.length = 1 :=
  ⟨(secrets_write_only (fun _ => .inserted) (fun _ => .reversed) id _ _
    (sameCluster_clusterWith "a" "b")).1 "default", rfl⟩

end Api
