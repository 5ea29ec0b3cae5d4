import SubstrateControl.Gateway.Client
import SubstrateControl.Go.Decode
import SubstrateControl.Go.JsonCut

/-!
# Answers of LiteLLM, from their bytes

`Client.do` (`internal/gateway/client.go`) decodes what it read of an answer.

* `Shape` — a type that is decoded into: its reading and the numbers it converts.
* `spendShape`, `mapShape`, `rowsShape` — the answers to `/global/spend`, objects, and lists of
  them.
* `Shape.Fits` — nothing but white space stands beyond the limit, the nesting is not too deep, and
  no number is out of range.
* `doRequest_eq_ok_iff`, `doRequest_ok_iff` — a complete answer of the shape is decoded exactly when
  it fits.
-/

set_option autoImplicit false

namespace Gateway

open Go

/-- A type answers are decoded into.  The numbers it converts are all that can go wrong in a value
that has the shape. -/
structure Shape (α : Type) where
  read : (conv : ℚ → Option ℚ) → JVal → Option α
  nums : JVal → List ℚ
  read_isSome : ∀ conv v, (read conv v).isSome = true ↔
    (read some v).isSome = true ∧ ∀ q ∈ nums v, (conv q).isSome = true
  read_num : ∀ conv q, read conv (.num q) = none

/-- A fold over members succeeds when every member is taken, whatever was folded before. -/
theorem foldlM_isSome {σ β : Type} {f : (ℚ → Option ℚ) → σ → β → Option σ} {nums : β → List ℚ}
    {conv : ℚ → Option ℚ}
    (hf : ∀ s s' b, (f conv s b).isSome = true ↔
      (f some s' b).isSome = true ∧ ∀ q ∈ nums b, (conv q).isSome = true) (l : List β) :
    ∀ s s', (l.foldlM (f conv) s).isSome = true ↔
      (l.foldlM (f some) s').isSome = true ∧ ∀ q ∈ l.flatMap nums, (conv q).isSome = true := by
  induction l with
  | nil => simp
  | cons b l ih =>
    intro s s'
    have hb := hf s s' b
    rw [List.flatMap_cons, List.forall_mem_append, List.foldlM_cons, List.foldlM_cons,
      Option.bind_eq_bind]
    cases hset : f conv s b with
    | none =>
      rw [hset] at hb
      cases hset' : f some s' b with
      | none => simp
      | some s2' =>
        rw [hset'] at hb
        simp only [Option.bind_none, Option.isSome_none, Bool.false_eq_true, Option.isSome_some,
          true_and, false_iff] at hb ⊢
        exact fun h => hb h.2.1
    | some s2 =>
      rw [hset] at hb
      cases hset' : f some s' b with
      | none =>
        rw [hset'] at hb
        simp at hb
      | some s2' =>
        rw [hset'] at hb
        simp only [Option.isSome_some, true_and, true_iff] at hb
        rw [Option.bind_some, Option.bind_some, ih s2 s2']
        tauto

/-! ## The answer to `/global/spend` -/

/-- Into a float64; null leaves it as it is. -/
def decodeNumber (conv : ℚ → Option ℚ) (into : ℚ) : JVal → Option ℚ
  | .null => some into
  | .num q => conv q
  | _ => none

def spendFields : List String := ["spend", "max_budget"]

/-- The field a member stands for is set. -/
def setSpendField (conv : ℚ → Option ℚ) (g : GlobalSpend) (kv : String × JVal) :
    Option GlobalSpend :=
  match matchField spendFields kv.1 with
  | some "spend" => (decodeNumber conv g.spend kv.2).map fun spend => { g with spend }
  | some "max_budget" =>
    (decodeNumber conv g.maxBudget kv.2).map fun maxBudget => { g with maxBudget }
  | _ => some g

/-- The numbers of a member that are converted. -/
def spendNums (kv : String × JVal) : List ℚ :=
  match matchField spendFields kv.1 with
  | some "spend" => nums kv.2
  | some "max_budget" => nums kv.2
  | _ => []

/-- A value as a `GlobalSpend`. -/
def toGlobalSpend (conv : ℚ → Option ℚ) : JVal → Option GlobalSpend
  | .null => some ⟨0, 0⟩
  | .obj m => m.foldlM (setSpendField conv) ⟨0, 0⟩
  | _ => none

theorem decodeNumber_isSome (conv : ℚ → Option ℚ) (into into' : ℚ) (v : JVal) :
    (decodeNumber conv into v).isSome = true ↔
      (decodeNumber some into' v).isSome = true ∧ ∀ q ∈ nums v, (conv q).isSome = true := by
  cases v with
  | null => simp [decodeNumber, nums]
  | num q => simp [decodeNumber, nums]
  | bool b => simp [decodeNumber]
  | str s => simp [decodeNumber]
  | arr xs => simp [decodeNumber]
  | obj m => simp [decodeNumber]

theorem setSpendField_isSome (conv : ℚ → Option ℚ) (g g' : GlobalSpend) (kv : String × JVal) :
    (setSpendField conv g kv).isSome = true ↔
      (setSpendField some g' kv).isSome = true ∧ ∀ q ∈ spendNums kv, (conv q).isSome = true := by
  unfold setSpendField spendNums
  split
  · rw [Option.isSome_map, Option.isSome_map]
    exact decodeNumber_isSome conv _ _ kv.2
  · rw [Option.isSome_map, Option.isSome_map]
    exact decodeNumber_isSome conv _ _ kv.2
  · simp

/-- The answer to `/global/spend`. -/
def spendShape : Shape GlobalSpend where
  read := toGlobalSpend
  nums
    | .obj m => m.flatMap spendNums
    | _ => []
  read_isSome conv v := by
    cases v with
    | obj m => exact foldlM_isSome (setSpendField_isSome conv) m _ _
    | null => simp [toGlobalSpend]
    | num q => simp [toGlobalSpend]
    | bool b => simp [toGlobalSpend]
    | str s => simp [toGlobalSpend]
    | arr xs => simp [toGlobalSpend]
  read_num _ _ := rfl

/-! ## Objects and lists of them -/

theorem decodeMap_isSome (conv : ℚ → Option ℚ) (into into' : JObj) (v : JVal) :
    (decodeMap conv into v).isSome = true ↔
      (decodeMap some into' v).isSome = true ∧ ∀ q ∈ nums v, (conv q).isSome = true := by
  cases v with
  | null => simp [decodeMap, nums]
  | obj m => simp [decodeMap, nums, decodeMembers_isSome]
  | num q => simp [decodeMap]
  | bool b => simp [decodeMap]
  | str s => simp [decodeMap]
  | arr xs => simp [decodeMap]

/-- An object. -/
def mapShape : Shape JObj where
  read conv := decodeMap conv []
  nums
    | .obj m => numsMembers m
    | _ => []
  read_isSome conv v := by
    rw [decodeMap_isSome conv [] []]
    cases v with
    | obj m => simp [nums]
    | null => simp [nums]
    | num q => simp [decodeMap]
    | bool b => simp [decodeMap]
    | str s => simp [decodeMap]
    | arr xs => simp [decodeMap]
  read_num _ _ := rfl

def decodeRows (conv : ℚ → Option ℚ) : List JVal → Option (List JObj)
  | [] => some []
  | x :: xs =>
    match decodeMap conv [] x, decodeRows conv xs with
    | some row, some rows => some (row :: rows)
    | _, _ => none

/-- A value as a `[]map[string]any`. -/
def toRows (conv : ℚ → Option ℚ) : JVal → Option (List JObj)
  | .null => some []
  | .arr xs => decodeRows conv xs
  | _ => none

theorem decodeRows_isSome (conv : ℚ → Option ℚ) (xs : List JVal) :
    (decodeRows conv xs).isSome = true ↔
      (decodeRows some xs).isSome = true ∧ ∀ q ∈ numsElems xs, (conv q).isSome = true := by
  induction xs with
  | nil => simp [decodeRows, numsElems]
  | cons x xs ih =>
    have hcons : ∀ conv, (decodeRows conv (x :: xs)).isSome = true ↔
        (decodeMap conv [] x).isSome = true ∧ (decodeRows conv xs).isSome = true := by
      intro conv
      rw [decodeRows]
      cases decodeMap conv [] x with
      | none => simp
      | some row =>
        cases decodeRows conv xs with
        | none => simp
        | some rows => simp
    rw [hcons, hcons, decodeMap_isSome conv [] [], ih, numsElems, List.forall_mem_append]
    tauto

/-- A list of objects. -/
def rowsShape : Shape (List JObj) where
  read := toRows
  nums
    | .arr xs => numsElems xs
    | _ => []
  read_isSome conv v := by
    cases v with
    | arr xs => exact decodeRows_isSome conv xs
    | null => simp [toRows]
    | num q => simp [toRows]
    | bool b => simp [toRows]
    | str s => simp [toRows]
    | obj m => simp [toRows]
  read_num _ _ := rfl

/-! ## Requests -/

/-- What LiteLLM and the language leave open: printed numbers and the texts of errors. -/
structure GatewayTexts where
  go : Runtime
  upstreamMessage : ℕ → List UInt8 → String
  explain : List UInt8 → String

section

variable {α : Type} (sh : Shape α)

/-- `json.Unmarshal`; `explain` is the text of its error. -/
def Shape.unmarshal (explain : List UInt8 → String) (b : List UInt8) : Except String α :=
  match (parse b).bind (sh.read parseFloat) with
  | none => .error (explain b)
  | some v => .ok v

/-- A complete JSON text of the shape, however long it is and however deeply it is nested. -/
def Shape.WellFormed (b : List UInt8) : Prop :=
  ∃ v, Denotes b v ∧ (sh.read some v).isSome = true

/-- Only white space stands beyond the limit, the decoder takes the nesting, and no number is out
of range. -/
def Shape.Fits (b : List UInt8) : Prop :=
  skipSpace (b.drop readLimit) = [] ∧
  ∀ v, Denotes b v → nesting v ≤ maxNestingDepth ∧ ∀ q ∈ sh.nums v, (parseFloat q).isSome = true

/-- What a whole text is decoded to. -/
def Shape.Gives (b : List UInt8) (a : α) : Prop :=
  ∃ v, Denotes b v ∧ sh.read parseFloat v = some a

variable {sh} {upstreamMessage : ℕ → List UInt8 → String} {explain : List UInt8 → String}
  {zero : α} {status : ℕ} {body : List UInt8}

/-- What `doRequest` makes of an answer that is not an error and not empty. -/
theorem doRequest_answered (hstatus : status < 400) (hbody : body ≠ []) :
    doRequest upstreamMessage (sh.unmarshal explain) zero (.answered status body) =
      match (parse (body.take readLimit)).bind (sh.read parseFloat) with
      | none => .error (.plain ("decode litellm response: " ++ explain (body.take readLimit)))
      | some v => .ok v := by
  have hdata : (body.take readLimit).isEmpty = false := by
    cases body with
    | nil => exact absurd rfl hbody
    | cons b body => rfl
  unfold doRequest Shape.unmarshal
  simp only [if_neg (show ¬ 400 ≤ status by omega), hdata, Bool.false_eq_true, if_false]
  cases (parse (body.take readLimit)).bind (sh.read parseFloat) with
  | none => rfl
  | some v => rfl

/-- **An answer is decoded exactly when it fits**, and then to what the whole text gives. -/
theorem doRequest_eq_ok_iff {v : JVal} {a : α} (hstatus : status < 400) (hv : Denotes body v) :
    doRequest upstreamMessage (sh.unmarshal explain) zero (.answered status body) = .ok a ↔
      sh.Fits body ∧ sh.read parseFloat v = some a := by
  rw [doRequest_answered hstatus hv.wellFormed.ne_nil]
  constructor
  · intro ha
    cases hdata : parse (body.take readLimit) with
    | none =>
      rw [hdata] at ha
      cases ha
    | some w =>
      rw [hdata, Option.bind_some] at ha
      cases hread : sh.read parseFloat w with
      | none =>
        rw [hread] at ha
        cases ha
      | some a' =>
        rw [hread] at ha
        cases ha
        have hnum : w.isNum = false := by
          cases w with
          | num q =>
            rw [sh.read_num] at hread
            cases hread
          | _ => rfl
        -- what was read is complete, so that only white space was cut off
        have hwhole := hv.wellFormed
        rw [← List.take_append_drop readLimit body] at hwhole
        obtain ⟨hspace, hparse⟩ := cut_complete hwhole hdata hnum
        rw [List.take_append_drop, parse_iff_denotes] at hparse
        refine ⟨⟨hspace, fun v' hv' => ?_⟩, by rw [hv.unique hparse.1, hread]⟩
        rw [hv'.unique hparse.1]
        have hsome : (sh.read parseFloat w).isSome = true := by rw [hread]; rfl
        exact ⟨hparse.2, ((sh.read_isSome parseFloat w).mp hsome).2⟩
  · rintro ⟨hfits, hread⟩
    have hcut := parse_iff_denotes.mpr ⟨hv, (hfits.2 v hv).1⟩
    rw [← List.take_append_drop readLimit body] at hcut
    rw [parse_take_space hfits.1 hcut, Option.bind_some, hread]

/-- An answer of the shape that fits is decoded as a whole. -/
theorem doRequest_fits (hstatus : status < 400) (hwell : sh.WellFormed body)
    (hfits : sh.Fits body) : ∃ a, sh.Gives body a ∧
      doRequest upstreamMessage (sh.unmarshal explain) zero (.answered status body) = .ok a := by
  obtain ⟨v, hv, hread⟩ := hwell
  obtain ⟨a, ha⟩ := Option.isSome_iff_exists.mp
    ((sh.read_isSome parseFloat v).mpr ⟨hread, (hfits.2 v hv).2⟩)
  exact ⟨a, ⟨v, hv, ha⟩, (doRequest_eq_ok_iff hstatus hv).mpr ⟨hfits, ha⟩⟩

/-- **A complete answer of the shape is decoded exactly when it fits.** -/
theorem doRequest_ok_iff (hstatus : status < 400) (hwell : sh.WellFormed body) :
    (∃ a, doRequest upstreamMessage (sh.unmarshal explain) zero (.answered status body) = .ok a) ↔
      sh.Fits body := by
  constructor
  · rintro ⟨a, ha⟩
    obtain ⟨v, hv, -⟩ := hwell
    exact ((doRequest_eq_ok_iff hstatus hv).mp ha).1
  · intro hfits
    obtain ⟨a, -, ha⟩ := doRequest_fits hstatus hwell hfits
    exact ⟨a, ha⟩

end

end Gateway
