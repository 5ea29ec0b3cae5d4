import SubstrateControl.Gateway.Answers
import SubstrateControl.Gateway.Models

/-!
# Answers that list models

What `ListModels` (`internal/gateway/client.go`) makes of an answer of `/v2/model/info`.

* `modelInfosShape` — the struct the answer is decoded into; names match its fields whatever their
  letter case, and a repeated member adds to what is there.
* `ListModels` — the call, from the wire.
* `SameAnswer` — two documents that differ at most in credentials inside `litellm_params`.
* `recolorAnswer` — a document with a number for every credential.
* `toModelInfos_recolor` — credentials are replaced before decoding as well as after.
* `ListedBy`, `listedBy_recolor` — an answer that is decoded, and one that is not longer with other
  credentials.
-/

set_option autoImplicit false

namespace Gateway

open Go

/-! ## The answer as it is decoded -/

def modelInfoFields : List String := ["model_name", "litellm_params", "model_info"]

section

variable (conv : ℚ → Option ℚ)

/-- The field a member stands for is set. -/
def setModelInfoField (e : ModelInfo) (kv : String × JVal) : Option ModelInfo :=
  match matchField modelInfoFields kv.1 with
  | some "model_name" => (decodeString e.modelName kv.2).map fun modelName => { e with modelName }
  | some "litellm_params" =>
    (decodeMap conv e.litellmParams kv.2).map fun litellmParams => { e with litellmParams }
  | some "model_info" =>
    (decodeMap conv e.modelInfo kv.2).map fun modelInfo => { e with modelInfo }
  | _ => some e

/-- Into an entry; null leaves it as it is. -/
def decodeModelInfo (into : ModelInfo) : JVal → Option ModelInfo
  | .null => some into
  | .obj m => m.foldlM (setModelInfoField conv) into
  | _ => none

/-- Into the elements of a slice of entries. -/
def decodeModelInfoElems : (into : List ModelInfo) → List JVal → Option (List ModelInfo)
  | _, [] => some []
  | into, x :: xs =>
    match decodeModelInfo conv (into.headD ⟨"", [], []⟩) x, decodeModelInfoElems into.tail xs with
    | some e, some es => some (e :: es)
    | _, _ => none

/-- Into a slice of entries; null makes it nil. -/
def decodeModelInfos (into : List ModelInfo) : JVal → Option (List ModelInfo)
  | .null => some []
  | .arr xs => decodeModelInfoElems conv into xs
  | _ => none

/-- The only field of the answer is set. -/
def setDataField (data : List ModelInfo) (kv : String × JVal) : Option (List ModelInfo) :=
  match matchField ["data"] kv.1 with
  | some _ => decodeModelInfos conv data kv.2
  | none => some data

/-- The answer to `/v2/model/info`, by its only field. -/
def toModelInfos : JVal → Option (List ModelInfo)
  | .null => some []
  | .obj m => m.foldlM (setDataField conv) []
  | _ => none

end

/-- The numbers of a member that are converted. -/
def modelInfoNums (kv : String × JVal) : List ℚ :=
  match matchField modelInfoFields kv.1 with
  | some "litellm_params" => nums kv.2
  | some "model_info" => nums kv.2
  | _ => []

def entryNums : JVal → List ℚ
  | .obj m => m.flatMap modelInfoNums
  | _ => []

def dataNums (kv : String × JVal) : List ℚ :=
  match matchField ["data"] kv.1 with
  | none => []
  | some _ =>
    match kv.2 with
    | .arr xs => xs.flatMap entryNums
    | _ => []

section

variable (conv : ℚ → Option ℚ)

theorem setModelInfoField_isSome (e e' : ModelInfo) (kv : String × JVal) :
    (setModelInfoField conv e kv).isSome = true ↔
      (setModelInfoField some e' kv).isSome = true ∧
        ∀ q ∈ modelInfoNums kv, (conv q).isSome = true := by
  unfold setModelInfoField modelInfoNums
  split
  · rename_i hfield
    rw [Option.isSome_map, Option.isSome_map]
    simp only [hfield]
    cases kv.2 <;> simp [decodeString]
  · rename_i hfield
    rw [Option.isSome_map, Option.isSome_map]
    simp only [hfield]
    exact decodeMap_isSome conv _ _ kv.2
  · rename_i hfield
    rw [Option.isSome_map, Option.isSome_map]
    simp only [hfield]
    exact decodeMap_isSome conv _ _ kv.2
  · simp

theorem decodeModelInfo_isSome (e e' : ModelInfo) (v : JVal) :
    (decodeModelInfo conv e v).isSome = true ↔
      (decodeModelInfo some e' v).isSome = true ∧
        ∀ q ∈ entryNums v, (conv q).isSome = true := by
  cases v with
  | obj m => exact foldlM_isSome (setModelInfoField_isSome conv) m e e'
  | null => simp [decodeModelInfo, entryNums]
  | bool b => simp [decodeModelInfo]
  | num q => simp [decodeModelInfo]
  | str s => simp [decodeModelInfo]
  | arr xs => simp [decodeModelInfo]

theorem decodeModelInfoElems_isSome (xs : List JVal) : ∀ into into' : List ModelInfo,
    (decodeModelInfoElems conv into xs).isSome = true ↔
      (decodeModelInfoElems some into' xs).isSome = true ∧
        ∀ q ∈ xs.flatMap entryNums, (conv q).isSome = true := by
  induction xs with
  | nil => simp [decodeModelInfoElems]
  | cons x xs ih =>
    have hcons : ∀ conv into, (decodeModelInfoElems conv into (x :: xs)).isSome = true ↔
        (decodeModelInfo conv (into.headD ⟨"", [], []⟩) x).isSome = true ∧
          (decodeModelInfoElems conv into.tail xs).isSome = true := by
      intro conv into
      rw [decodeModelInfoElems]
      cases decodeModelInfo conv (into.headD ⟨"", [], []⟩) x with
      | none => simp
      | some e =>
        cases decodeModelInfoElems conv into.tail xs with
        | none => simp
        | some es => simp
    intro into into'
    rw [hcons, hcons, decodeModelInfo_isSome conv _ (into'.headD ⟨"", [], []⟩),
      ih into.tail into'.tail, List.flatMap_cons, List.forall_mem_append]
    tauto

theorem setDataField_isSome (data data' : List ModelInfo) (kv : String × JVal) :
    (setDataField conv data kv).isSome = true ↔
      (setDataField some data' kv).isSome = true ∧
        ∀ q ∈ dataNums kv, (conv q).isSome = true := by
  unfold setDataField dataNums
  cases matchField ["data"] kv.1 with
  | none => simp
  | some field =>
    cases kv.2 with
    | arr xs => exact decodeModelInfoElems_isSome conv xs data data'
    | null => simp [decodeModelInfos]
    | bool b => simp [decodeModelInfos]
    | num q => simp [decodeModelInfos]
    | str s => simp [decodeModelInfos]
    | obj m => simp [decodeModelInfos]

end

/-- The answer to `/v2/model/info`. -/
def modelInfosShape : Shape (List ModelInfo) where
  read := toModelInfos
  nums
    | .obj m => m.flatMap dataNums
    | _ => []
  read_isSome conv v := by
    cases v with
    | obj m => exact foldlM_isSome (setDataField_isSome conv) m [] []
    | null => simp [toModelInfos]
    | bool b => simp [toModelInfos]
    | num q => simp [toModelInfos]
    | str s => simp [toModelInfos]
    | arr xs => simp [toModelInfos]
  read_num _ _ := rfl

/-- `ListModels`. -/
def ListModels (x : GatewayTexts) (rt : RoundTrip) : Except Err (List Model) :=
  (doRequest x.upstreamMessage (modelInfosShape.unmarshal x.explain) [] rt).map (listModels x.go)

/-! ## Credentials in a document -/

/-- Two objects whose members are the same, but for related values of the members of a field. -/
def SameObject (field : String → Bool) (R : JVal → JVal → Prop) (v w : JVal) : Prop :=
  v = w ∨ ∃ m n, v = .obj m ∧ w = .obj n ∧
    List.Forall₂ (fun kv kw => kv.1 = kw.1 ∧ (kv.2 = kw.2 ∨ field kv.1 = true ∧ R kv.2 kw.2)) m n

/-- An object with other values for the members of a field. -/
def onMembers (field : String → Bool) (f : JVal → JVal) : JVal → JVal
  | .obj m => .obj (m.map fun kv => (kv.1, if field kv.1 then f kv.2 else kv.2))
  | v => v

/-- The member holds the parameters of an entry. -/
def isParams (k : String) : Bool := matchField modelInfoFields k == some "litellm_params"

/-- The member holds the entries. -/
def isData (k : String) : Bool := (matchField ["data"] k).isSome

/-- Two entries that differ at most in non-empty values of credential fields, at any depth inside
`litellm_params`. -/
def SameEntry : JVal → JVal → Prop := SameObject isParams (SameUpTo sensitiveField)

def SameData (v w : JVal) : Prop :=
  v = w ∨ ∃ xs ys, v = .arr xs ∧ w = .arr ys ∧ List.Forall₂ SameEntry xs ys

/-- Two answers of `/v2/model/info` of one structure, with other credentials. -/
def SameAnswer : JVal → JVal → Prop := SameObject isData SameData

/-- An entry with the number `c` for every credential. -/
def recolorEntry (c : ℚ) : JVal → JVal := onMembers isParams (recolor sensitiveField c)

def recolorData (c : ℚ) : JVal → JVal
  | .arr xs => .arr (xs.map (recolorEntry c))
  | v => v

/-- An answer with the number `c` for every credential. -/
def recolorAnswer (c : ℚ) : JVal → JVal := onMembers isData (recolorData c)

section

variable {field : String → Bool} {R : JVal → JVal → Prop} {f : JVal → JVal}

theorem SameObject.onMembers_eq (hf : ∀ v w, R v w → f v = f w) {v w : JVal}
    (h : SameObject field R v w) : onMembers field f v = onMembers field f w := by
  rcases h with rfl | ⟨m, n, rfl, rfl, hmembers⟩
  · rfl
  · rw [onMembers, onMembers]
    congr 1
    induction hmembers with
    | nil => rfl
    | cons hkv _ ih =>
      rename_i kv kw m n _
      obtain ⟨hname, hvalue⟩ := hkv
      rw [List.map_cons, List.map_cons, ih, ← hname]
      rcases hvalue with hsame | ⟨hfield, hrel⟩
      · rw [hsame]
      · rw [if_pos hfield, if_pos hfield, hf _ _ hrel]

theorem inked_onMembers {c : ℚ} (hf : ∀ v, Inked c v (f v)) (v : JVal) :
    Inked c v (onMembers field f v) := by
  cases v with
  | obj m =>
    rw [onMembers]
    refine .obj ?_
    induction m with
    | nil => exact .nil
    | cons kv m ih =>
      rw [List.map_cons]
      refine .cons ?_ ih
      split
      · exact hf kv.2
      · exact .same kv.2
  | _ => exact .same _

end

/-- **Answers with other credentials are recoloured to the same.** -/
theorem SameAnswer.recolor_eq (c : ℚ) {v w : JVal} (h : SameAnswer v w) :
    recolorAnswer c v = recolorAnswer c w := by
  refine h.onMembers_eq fun v w hdata => ?_
  rcases hdata with rfl | ⟨xs, ys, rfl, rfl, hentries⟩
  · rfl
  · rw [recolorData, recolorData]
    congr 1
    induction hentries with
    | nil => rfl
    | cons hentry _ ih =>
      have hfirst : recolorEntry c _ = recolorEntry c _ :=
        hentry.onMembers_eq fun _ _ hsame => hsame.recolor_eq
      rw [List.map_cons, List.map_cons, hfirst, ih]

theorem inked_recolorAnswer (c : ℚ) : ∀ v, Inked c v (recolorAnswer c v) := by
  refine inked_onMembers fun v => ?_
  cases v with
  | arr xs =>
    rw [recolorData]
    refine .arr ?_
    induction xs with
    | nil => exact .nil
    | cons x xs ih => exact .cons (inked_onMembers inked_recolor x) ih
  | _ => exact .same _

/-! ## Credentials in what is decoded -/

section

variable {conv : ℚ → Option ℚ} {c : ℚ}

/-- A fold over changed members, where each of them is taken as it was. -/
theorem foldlM_map_of_step {σ β : Type} {f : σ → β → Option σ} {g : β → β} {h : σ → σ}
    (hstep : ∀ s b s', f s b = some s' → f (h s) (g b) = some (h s')) (l : List β) :
    ∀ {s s' : σ}, l.foldlM f s = some s' → (l.map g).foldlM f (h s) = some (h s') := by
  induction l with
  | nil =>
    intro s s' hl
    cases hl
    rfl
  | cons b l ih =>
    intro s s' hl
    rw [List.foldlM_cons, Option.bind_eq_bind, Option.bind_eq_some_iff] at hl
    obtain ⟨s1, hs1, hrest⟩ := hl
    rw [List.map_cons, List.foldlM_cons, hstep s b s1 hs1, Option.bind_eq_bind, Option.bind_some]
    exact ih hrest

theorem setModelInfoField_recolor (hc : conv c = some c) (e : ModelInfo) (kv : String × JVal)
    (e' : ModelInfo) (h : setModelInfoField conv e kv = some e') :
    setModelInfoField conv (e.recolor c)
        (kv.1, if isParams kv.1 then recolor sensitiveField c kv.2 else kv.2) =
      some (e'.recolor c) := by
  unfold setModelInfoField at h ⊢
  unfold isParams
  split at h
  · rename_i hfield
    obtain ⟨name, hname, rfl⟩ := Option.map_eq_some_iff.mp h
    simp only [hfield, ModelInfo.recolor]
    rw [if_neg (by decide), hname]
    rfl
  · rename_i hfield
    obtain ⟨params, hparams, rfl⟩ := Option.map_eq_some_iff.mp h
    simp only [hfield, ModelInfo.recolor, beq_self_eq_true, if_true]
    rw [decodeMap_recolor hc hparams]
    rfl
  · rename_i hfield
    obtain ⟨info, hinfo, rfl⟩ := Option.map_eq_some_iff.mp h
    simp only [hfield, ModelInfo.recolor]
    rw [if_neg (by decide), hinfo]
    rfl
  · cases h
    rfl

theorem decodeModelInfo_recolor (hc : conv c = some c) {into e : ModelInfo} {v : JVal}
    (h : decodeModelInfo conv into v = some e) :
    decodeModelInfo conv (into.recolor c) (recolorEntry c v) = some (e.recolor c) := by
  cases v with
  | null => cases h; rfl
  | obj m => exact foldlM_map_of_step (setModelInfoField_recolor hc) m h
  | bool b => cases h
  | num q => cases h
  | str s => cases h
  | arr xs => cases h

theorem decodeModelInfoElems_recolor (hc : conv c = some c) : ∀ {xs : List JVal}
    {into es : List ModelInfo}, decodeModelInfoElems conv into xs = some es →
      decodeModelInfoElems conv (into.map (ModelInfo.recolor c)) (xs.map (recolorEntry c)) =
        some (es.map (ModelInfo.recolor c))
  | [], _, _, h => by cases h; rfl
  | x :: xs, into, es, h => by
    rw [decodeModelInfoElems] at h
    split at h
    · rename_i e es' he hes
      cases h
      have hhead : (into.map (ModelInfo.recolor c)).headD ⟨"", [], []⟩ =
          (into.headD ⟨"", [], []⟩).recolor c := by cases into <;> rfl
      rw [List.map_cons, decodeModelInfoElems, hhead, decodeModelInfo_recolor hc he,
        ← List.map_tail, decodeModelInfoElems_recolor hc hes, List.map_cons]
    · cases h

theorem setDataField_recolor (hc : conv c = some c) (data : List ModelInfo) (kv : String × JVal)
    (data' : List ModelInfo) (h : setDataField conv data kv = some data') :
    setDataField conv (data.map (ModelInfo.recolor c))
        (kv.1, if isData kv.1 then recolorData c kv.2 else kv.2) =
      some (data'.map (ModelInfo.recolor c)) := by
  unfold setDataField at h ⊢
  unfold isData
  simp only
  cases hfield : matchField ["data"] kv.1 with
  | none =>
    rw [hfield] at h
    cases h
    rfl
  | some field =>
    rw [hfield] at h
    simp only [Option.isSome_some, if_true] at h ⊢
    cases hv : kv.2 with
    | null => rw [hv] at h; cases h; rfl
    | arr xs =>
      rw [hv] at h
      exact decodeModelInfoElems_recolor hc h
    | bool b => rw [hv] at h; cases h
    | num q => rw [hv] at h; cases h
    | str s => rw [hv] at h; cases h
    | obj m => rw [hv] at h; cases h

/-- **Credentials can be replaced before an answer is decoded.** -/
theorem toModelInfos_recolor (hc : conv c = some c) {v : JVal} {data : List ModelInfo}
    (h : toModelInfos conv v = some data) :
    toModelInfos conv (recolorAnswer c v) = some (data.map (ModelInfo.recolor c)) := by
  cases v with
  | null => cases h; rfl
  | obj m => exact foldlM_map_of_step (setDataField_recolor hc) m h
  | bool b => cases h
  | num q => cases h
  | str s => cases h
  | arr xs => cases h

end

/-! ## Answers that are listed -/

/-- LiteLLM answers below 400 with a document of the shape that is decoded: all of it is read, it is
not nested too deeply, and the numbers of its parameters are in range. -/
def ListedBy (rt : RoundTrip) (v : JVal) : Prop :=
  ∃ status body, rt = .answered status body ∧ status < 400 ∧ Denotes body v ∧
    (toModelInfos some v).isSome = true ∧ modelInfosShape.Fits body

variable {x : GatewayTexts} {rt : RoundTrip} {v : JVal}

/-- An answer that is decoded gives its models. -/
theorem ListedBy.listModels (h : ListedBy rt v) :
    ∃ data, toModelInfos parseFloat v = some data ∧
      ListModels x rt = .ok (Gateway.listModels x.go data) := by
  obtain ⟨status, body, rfl, hstatus, hv, hshape, hfits⟩ := h
  obtain ⟨data, hdata⟩ := Option.isSome_iff_exists.mp
    ((modelInfosShape.read_isSome parseFloat v).mpr ⟨hshape, (hfits.2 v hv).2⟩)
  refine ⟨data, hdata, ?_⟩
  unfold ListModels
  rw [(doRequest_eq_ok_iff hstatus hv).mpr ⟨hfits, hdata⟩]
  rfl

/-- **A listing with other credentials**, in an answer that is decoded, too. -/
theorem ListedBy.recolor {c : ℚ} {b0 : UInt8} (hb0 : numberValue [b0] = some c)
    (hspace : isSpaceByte b0 = false) (hc : parseFloat c = some c) (h : ListedBy rt v) :
    ∃ rt', ListedBy rt' (recolorAnswer c v) := by
  obtain ⟨status, body, rfl, hstatus, hv, hshape, hfits⟩ := h
  obtain ⟨data, hdata⟩ := Option.isSome_iff_exists.mp
    ((modelInfosShape.read_isSome parseFloat v).mpr ⟨hshape, (hfits.2 v hv).2⟩)
  have hdata' : (modelInfosShape.read parseFloat (recolorAnswer c v)).isSome = true :=
    Option.isSome_iff_exists.mpr ⟨_, toModelInfos_recolor hc hdata⟩
  obtain ⟨hshape', hnums'⟩ := (modelInfosShape.read_isSome parseFloat _).mp hdata'
  -- what is read of the answer is rewritten
  have hparse := parse_iff_denotes.mpr ⟨hv, (hfits.2 v hv).1⟩
  rw [← List.take_append_drop readLimit body] at hparse
  obtain ⟨t, ht, hlength⟩ := parse_inked hb0 hspace (parse_take_space hfits.1 hparse)
    (inked_recolorAnswer c v)
  obtain ⟨hden, hnesting⟩ := parse_iff_denotes.mp ht
  refine ⟨.answered status t, status, t, rfl, hstatus, hden, hshape', ?_, fun w hw => ?_⟩
  · rw [List.length_take] at hlength
    rw [List.drop_eq_nil_of_le (by omega)]
    rfl
  · rw [hw.unique hden]
    exact ⟨hnesting, hnums'⟩

end Gateway
