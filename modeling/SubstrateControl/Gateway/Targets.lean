import SubstrateControl.Gateway.Keys
import SubstrateControl.Gateway.ModelAnswers

/-!
# What answers are decoded into

The targets `Client.do` (`internal/gateway/client.go`) unmarshals answers into, from the text.

* `Target` — a type that is unmarshalled into; no number has it.
* `mapTarget`, `spendTarget`, `rowsTarget`, `modelInfosTarget`, `keyPageTarget` — the types the
  client uses: maps, structs and slices of maps.
* `Target.cut` — a target makes of a text cut short what it makes of the whole one, or nothing.
* `do_whole_or_error` — whatever the length of an answer, it is decoded as a whole or not at all.
-/

set_option autoImplicit false

namespace Gateway

open Go

/-- A type values are unmarshalled into, from zero; none where a value does not have it. -/
structure Target (α : Type) where
  read : Captured → Option α
  read_num : ∀ c, c.value.isNum = true → read c = none

section

variable {α : Type}

/-- `json.Unmarshal` of a whole text. -/
def Target.decode (T : Target α) (s : List UInt8) : Option α := (capture s).bind T.read

/-- `json.Unmarshal`; `explain` is the text of its error. -/
def Target.unmarshal (T : Target α) (explain : List UInt8 → String) (b : List UInt8) :
    Except String α :=
  match T.decode b with
  | none => .error (explain b)
  | some v => .ok v

/-- A type whose values do not depend on how they are written. -/
def Target.ofValue (read : JVal → Option α) (hnum : ∀ q, read (.num q) = none) : Target α where
  read c := read c.value
  read_num c hc := by
    cases hv : c.value with
    | num q => exact hnum q
    | _ =>
      rw [hv] at hc
      cases hc

/-- A type of which only the numbers can be out of range. -/
def Shape.target (sh : Shape α) : Target α := .ofValue (sh.read parseFloat) (sh.read_num parseFloat)

end

/-! ## Maps, spend, rows and models -/

/-- `map[string]any`. -/
def mapTarget : Target JObj := mapShape.target

/-- The answer to `/global/spend`. -/
def spendTarget : Target GlobalSpend := spendShape.target

/-- `[]map[string]any`. -/
def rowsTarget : Target (List JObj) := rowsShape.target

/-- The answer to `/v2/model/info`. -/
def modelInfosTarget : Target (List ModelInfo) := modelInfosShape.target

/-! ## Pages of keys -/

/-- A raw message. -/
def rawMessage (c : Captured) : RawMessage := ⟨String.ofList (runes c.text), c.value⟩

/-- Into an int: an integer in range, written without a fraction and an exponent. -/
def decodeInt (into : ℤ) (c : Captured) : Option ℤ :=
  match c.value with
  | .null => some into
  | .num q =>
    if (c.text.all fun b => isDigitByte b || b == byte '-') ∧
        Int64.minValue.toInt ≤ q.num ∧ q.num ≤ Int64.maxValue.toInt then some q.num
    else none
  | _ => none

/-- Into a slice of raw messages; null makes it nil. -/
def decodeRawMessages (c : Captured) : Option (List RawMessage) :=
  match c.value with
  | .null => some []
  | .arr _ =>
    (group (byte ']') (captured maxNestingDepth) (c.text.drop 1)).map fun cs => cs.1.map rawMessage
  | _ => none

def keyPageFields : List String := ["keys", "current_page", "total_pages"]

/-- The field a member stands for is set. -/
def setKeyPageField (p : KeyListPage) (kv : String × Captured) : Option KeyListPage :=
  match matchField keyPageFields kv.1 with
  | some "keys" => (decodeRawMessages kv.2).map fun keys => { p with keys }
  | some "current_page" =>
    (decodeInt p.currentPage kv.2).map fun currentPage => { p with currentPage }
  | some "total_pages" => (decodeInt p.totalPages kv.2).map fun totalPages => { p with totalPages }
  | _ => some p

/-- The answer to `/key/list`, member by member. -/
def toKeyPage (c : Captured) : Option KeyListPage :=
  match c.value with
  | .null => some {}
  | .obj _ =>
    match group (byte '\x7d') (member (captured maxNestingDepth)) (c.text.drop 1) with
    | none => none
    | some (m, _) => m.foldlM setKeyPageField {}
  | _ => none

/-- The answer to `/key/list`. -/
def keyPageTarget : Target KeyListPage where
  read := toKeyPage
  read_num c hc := by
    cases hv : c.value with
    | num q =>
      unfold toKeyPage
      rw [hv]
    | _ =>
      rw [hv] at hc
      cases hc

/-! ## Answers -/

section

variable {α : Type} (T : Target α)

/-- **A text cut short** gives a target what the whole text gives it, if anything. -/
theorem Target.cut {s t : List UInt8} {v : α} (h : WellFormed (s ++ t)) (hv : T.decode s = some v) :
    T.decode (s ++ t) = some v := by
  unfold Target.decode at hv ⊢
  obtain ⟨c, hc, hread⟩ := Option.bind_eq_some_iff.mp hv
  have hnum : c.value.isNum = false := by
    by_contra hnum
    rw [T.read_num c (by simpa using hnum)] at hread
    cases hread
  have hparse := capture_value hc
  obtain ⟨hspace, -⟩ := cut_complete h hparse hnum
  rw [capture_append_space hparse hspace]
  exact hv

/-- **An answer is decoded as a whole or not at all**, whatever its length. -/
theorem do_whole_or_error (upstreamMessage : ℕ → List UInt8 → String)
    (explain : List UInt8 → String) (zero : α) {status : ℕ} {body : List UInt8}
    (hstatus : status < 400) (hbody : WellFormed body) :
    (∃ e, doRequest upstreamMessage (T.unmarshal explain) zero (.answered status body) =
      .error e) ∨
    ∃ v, T.decode body = some v ∧
      doRequest upstreamMessage (T.unmarshal explain) zero (.answered status body) = .ok v := by
  have hne := hbody.ne_nil
  have hdata : (body.take readLimit).isEmpty = false := by
    cases body with
    | nil => exact absurd rfl hne
    | cons b body => rfl
  unfold doRequest Target.unmarshal
  simp only [if_neg (show ¬ 400 ≤ status by omega), hdata, Bool.false_eq_true, if_false]
  cases hcut : T.decode (body.take readLimit) with
  | none => exact .inl ⟨_, rfl⟩
  | some v =>
    rw [← List.take_append_drop readLimit body] at hbody
    have hwhole := T.cut hbody hcut
    rw [List.take_append_drop] at hwhole
    exact .inr ⟨v, hwhole, rfl⟩

/-- An object in front of more blanks than are read. -/
def blankObject : List UInt8 := utf8 "\x7b\x7d".toList ++ List.replicate readLimit (byte ' ')

/-- The object is decoded, or an error is returned. -/
theorem do_whole_or_error_object : readLimit < blankObject.length ∧
    ((∃ e, doRequest (fun _ _ => "") (mapTarget.unmarshal fun _ => "") []
        (.answered 200 blankObject) = .error e) ∨
      ∃ v, mapTarget.decode blankObject = some v ∧
        doRequest (fun _ _ => "") (mapTarget.unmarshal fun _ => "") []
          (.answered 200 blankObject) = .ok v) := by
  have hlength : readLimit < blankObject.length := by
    have hobject : (utf8 "\x7b\x7d".toList).length = 2 := by decide
    rw [blankObject, List.length_append, List.length_replicate, hobject]
    omega
  have hvalue : ∀ rest, value 1 (utf8 "\x7b\x7d".toList ++ rest) = some (.obj [], rest) :=
    fun _ => rfl
  have hspace : skipSpace (List.replicate readLimit (byte ' ')) = [] := by
    apply List.dropWhile_eq_nil_iff.mpr
    intro b hb
    rw [List.eq_of_mem_replicate hb]
    rfl
  exact ⟨hlength, do_whole_or_error mapTarget (fun _ _ => "") (fun _ => "") [] (by omega)
    ⟨1, .obj [], _, hvalue _, hspace⟩⟩

end

end Gateway
