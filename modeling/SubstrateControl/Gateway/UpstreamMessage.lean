import SubstrateControl.Gateway.Client
import SubstrateControl.Go.Bytes
import SubstrateControl.Go.Decode
import SubstrateControl.Go.JsonEncode

/-!
# The message of an upstream error

Model of `upstreamMessage` (`internal/gateway/client.go`), which `Client.do` calls for an answer
with a status of 400 or above.

* `bodyMessage` — the message of a decoded error body: `detail`, the first of a list of them, or
  `error.message`.  `FirstText`: what that is, said of the decoded map.
* `upstreamMessage` — that message or, without one, the status and an excerpt of the body.
* `Carries` — what a message is to be: not empty, and where it quotes the body, with a text of at
  most 300 bytes.
* `upstreamMessage_carries_iff` — it is exactly when the first text of the body is not empty and the
  excerpt is not cut inside a character; `doRequest_tells`: as the error of the client's request.
-/

set_option autoImplicit false

namespace Gateway

open Go

/-- The message under `detail`: a string, or the `msg` of the first object of a list. -/
def detailMessage (m : JObj) : Option String :=
  match m.get "detail" with
  | .str d => some d
  | .arr (.obj first :: _) =>
    match JObj.get first "msg" with
    | .str msg => some msg
    | _ => none
  | _ => none

/-- The message under `error`. -/
def errorMessage (m : JObj) : Option String :=
  match m.get "error" with
  | .obj e =>
    match JObj.get e "message" with
    | .str msg => some msg
    | _ => none
  | _ => none

/-- The message of a body that decodes to a map, of the first shape that has one. -/
def bodyMessage (body : List UInt8) : Option String :=
  ((parse body).bind (decodeMap parseFloat [])).bind fun m => (detailMessage m).or (errorMessage m)

/-- What is found under `detail`: it is the text itself, or a list whose first element is an object
with the text as its `msg`. -/
def DetailText (m : JObj) (s : String) : Prop :=
  m.get "detail" = .str s ∨
    ∃ first rest, m.get "detail" = .arr (.obj first :: rest) ∧ JObj.get first "msg" = .str s

/-- What is found under `error`: it is an object with the text as its `message`. -/
def ErrorText (m : JObj) (s : String) : Prop :=
  ∃ e, m.get "error" = .obj e ∧ JObj.get e "message" = .str s

/-- A body is JSON and decodes to the map `m`. -/
def Holds (body : List UInt8) (m : JObj) : Prop :=
  ∃ v, parse body = some v ∧ decodeMap parseFloat [] v = some m

/-- The first text that a body has for its reader is `s`. -/
def FirstText (body : List UInt8) (s : String) : Prop :=
  ∃ m, Holds body m ∧ (DetailText m s ∨ (∀ t, ¬ DetailText m t) ∧ ErrorText m s)

theorem detailMessage_eq_some_iff {m : JObj} {s : String} :
    detailMessage m = some s ↔ DetailText m s := by
  unfold detailMessage DetailText
  cases hdetail : m.get "detail" with
  | str d => simp
  | arr vs =>
    cases vs with
    | nil => simp
    | cons v rest =>
      cases v with
      | obj first => cases hmsg : JObj.get first "msg" <;> simp [hmsg]
      | _ => simp
  | _ => simp

theorem errorMessage_eq_some_iff {m : JObj} {s : String} :
    errorMessage m = some s ↔ ErrorText m s := by
  unfold errorMessage ErrorText
  cases herror : m.get "error" with
  | obj e => cases hmessage : JObj.get e "message" <;> simp [hmessage]
  | _ => simp

theorem bodyMessage_eq_some_iff {body : List UInt8} {s : String} :
    bodyMessage body = some s ↔ FirstText body s := by
  have hnone : ∀ m, detailMessage m = none ↔ ∀ t, ¬ DetailText m t := by
    intro m
    simp only [← detailMessage_eq_some_iff, Option.eq_none_iff_forall_ne_some, ne_eq]
  unfold bodyMessage FirstText Holds
  simp only [Option.bind_eq_some_iff, Option.or_eq_some_iff, detailMessage_eq_some_iff,
    errorMessage_eq_some_iff, hnone]

theorem bodyMessage_eq_none_iff {body : List UInt8} :
    bodyMessage body = none ↔ ∀ s, ¬ FirstText body s := by
  simp only [← bodyMessage_eq_some_iff, Option.eq_none_iff_forall_ne_some, ne_eq]

/-- How much of a body is quoted. -/
def excerptLimit : ℕ := 300

def ellipsis : List UInt8 := utf8 "...".toList

/-- `"litellm returned HTTP %d: "`. -/
def statusText (status : ℕ) : List UInt8 :=
  utf8 ("litellm returned HTTP " ++ toString status ++ ": ").toList

def upstreamMessage (status : ℕ) (body : List UInt8) : List UInt8 :=
  match bodyMessage body with
  | some msg => utf8 msg.toList
  | none =>
    let s := trimSpaceBytes body
    let s := if excerptLimit < s.length then s.take excerptLimit ++ ellipsis else s
    statusText status ++ s

/-- What stands behind an excerpt. -/
def cutMark (body : List UInt8) : List UInt8 :=
  if excerptLimit < (trimSpaceBytes body).length then ellipsis else []

/-- A message that is not empty and, where the body has no text for its reader, quotes a text of at
most 300 bytes of it. -/
structure Carries (status : ℕ) (body : List UInt8) : Prop where
  nonempty : upstreamMessage status body ≠ []
  excerpt : (∀ s, ¬ FirstText body s) → ∃ e,
    upstreamMessage status body = statusText status ++ (e ++ cutMark body) ∧
    e <+: trimSpaceBytes body ∧ (Valid body → Valid e) ∧ e.length ≤ excerptLimit

/-- The first text of the body, under `detail` or `error`, is not empty and, where there is none
and the body is a text and too long to be quoted, a character starts behind the excerpt. -/
structure Tells (body : List UInt8) : Prop where
  message : ¬ FirstText body ""
  boundary : (∀ s, ¬ FirstText body s) → Valid body →
    ∀ b, (trimSpaceBytes body)[excerptLimit]? = some b → b.IsUTF8FirstByte

theorem upstreamMessage_quotes (status : ℕ) {body : List UInt8} (h : bodyMessage body = none) :
    upstreamMessage status body =
      statusText status ++ ((trimSpaceBytes body).take excerptLimit ++ cutMark body) := by
  unfold upstreamMessage cutMark
  rw [h]
  simp only
  split
  · rfl
  · rw [List.take_of_length_le (by omega), List.append_nil]

theorem utf8_eq_nil {cs : List Char} : utf8 cs = [] ↔ cs = [] := by
  constructor
  · intro h
    have hlen := length_le_length_utf8 cs
    rw [h] at hlen
    exact List.eq_nil_of_length_eq_zero (Nat.le_zero.mp hlen)
  · rintro rfl
    rfl

/-- **A message is empty exactly where the body's own message is.** -/
theorem upstreamMessage_eq_nil_iff (status : ℕ) (body : List UInt8) :
    upstreamMessage status body = [] ↔ bodyMessage body = some "" := by
  cases h : bodyMessage body with
  | none =>
    have hstatus : statusText status ≠ [] := by
      unfold statusText
      rw [ne_eq, utf8_eq_nil]
      simp
    rw [upstreamMessage_quotes status h]
    simp [hstatus]
  | some msg =>
    unfold upstreamMessage
    rw [h]
    simp only [utf8_eq_nil, Option.some.injEq]
    exact String.toList_eq_nil_iff

/-- The only excerpt a message can be read with is the one it was made of. -/
theorem excerpt_eq (status : ℕ) {body e : List UInt8} (h : bodyMessage body = none)
    (he : upstreamMessage status body = statusText status ++ (e ++ cutMark body)) :
    e = (trimSpaceBytes body).take excerptLimit := by
  rw [upstreamMessage_quotes status h] at he
  exact (List.append_cancel_right (List.append_cancel_left he)).symm

/-- The excerpt of a text is a text exactly when a character starts behind it. -/
theorem valid_excerpt_iff {body : List UInt8} (h : Valid body) :
    Valid ((trimSpaceBytes body).take excerptLimit) ↔
      ∀ b, (trimSpaceBytes body)[excerptLimit]? = some b → b.IsUTF8FirstByte := by
  have htrim := h.trimSpaceBytes
  by_cases hlen : excerptLimit < (trimSpaceBytes body).length
  · rw [valid_take_iff htrim hlen, List.getElem?_eq_getElem hlen]
    simp
  · rw [List.take_of_length_le (by omega), List.getElem?_eq_none (by omega)]
    exact iff_of_true htrim (fun b hb => by cases hb)

theorem carries_iff_tells (status : ℕ) (body : List UInt8) : Carries status body ↔ Tells body := by
  constructor
  · intro h
    constructor
    · rw [← bodyMessage_eq_some_iff, ← upstreamMessage_eq_nil_iff status]
      exact h.nonempty
    · intro hnone hvalid
      obtain ⟨e, he, -, htext, -⟩ := h.excerpt hnone
      rw [← valid_excerpt_iff hvalid, ← excerpt_eq status (bodyMessage_eq_none_iff.mpr hnone) he]
      exact htext hvalid
  · intro h
    constructor
    · rw [ne_eq, upstreamMessage_eq_nil_iff, bodyMessage_eq_some_iff]
      exact h.message
    · intro hnone
      refine ⟨_, upstreamMessage_quotes status (bodyMessage_eq_none_iff.mpr hnone),
        List.take_prefix _ _, ?_, List.length_take_le _ _⟩
      exact fun hvalid => (valid_excerpt_iff hvalid).mpr (h.boundary hnone hvalid)

/-- **The error of a request that fails upstream** has no text exactly where the first text of the
body that was read is empty. -/
theorem doRequest_tells {α : Type} (unmarshal : List UInt8 → Except String α) (zero : α)
    {status : ℕ} (hstatus : 400 ≤ status) (sent : List UInt8) :
    ∃ e, doRequest (fun status body => textOf (upstreamMessage status body)) unmarshal zero
        (.answered status sent) = .error (.classified e) ∧
      e.kind = .upstream ∧ (e.message = "" ↔ FirstText (sent.take readLimit) "") := by
  refine ⟨⟨.upstream, textOf (upstreamMessage status (sent.take readLimit))⟩, ?_, rfl, ?_⟩
  · simp only [doRequest, if_pos hstatus]
  · rw [← bodyMessage_eq_some_iff, ← upstreamMessage_eq_nil_iff status, ← runes_eq_nil]
    exact String.ofList_eq_empty_iff

/-- **An upstream failure carries a message exactly when its body tells one**: the first text in
the body is not empty, and an excerpt of a text is not cut inside a character.  The message is that
of the error the client returns. -/
theorem upstreamMessage_carries_iff (status : ℕ) (body : List UInt8) :
    (Carries status body ↔ Tells body) ∧
    ∀ {α : Type} (unmarshal : List UInt8 → Except String α) (zero : α) (sent : List UInt8),
      400 ≤ status → sent.take readLimit = body →
      ∃ e, doRequest (fun status body => textOf (upstreamMessage status body)) unmarshal zero
          (.answered status sent) = .error (.classified e) ∧
        e.kind = .upstream ∧ (e.message = "" ↔ FirstText body "") := by
  refine ⟨carries_iff_tells status body, ?_⟩
  rintro α unmarshal zero sent hstatus rfl
  exact doRequest_tells unmarshal zero hstatus sent

/-- A body whose `detail` is the empty string. -/
def emptyDetail : List UInt8 :=
  utf8 "\x7b\"detail\":\"\",\"error\":\x7b\"message\":\"no budget\"\x7d\x7d".toList

/-- It shadows the message under `error`. -/
theorem upstreamMessage_carries_counterexample :
    ¬ ∀ (status : ℕ) (body : List UInt8), 400 ≤ status → Carries status body := by
  intro h
  have hempty : bodyMessage emptyDetail = some "" := by decide +kernel
  exact (h 400 emptyDetail (Nat.le_refl _)).nonempty
    ((upstreamMessage_eq_nil_iff 400 emptyDetail).mpr hempty)

/-- A text whose first 300 bytes end inside its last character. -/
def longText : List UInt8 := utf8 (List.replicate 299 'x' ++ ['é'])

/-- Its excerpt is no text. -/
theorem upstreamMessage_cuts_longText :
    Valid longText ∧ bodyMessage longText = none ∧ ¬ ∃ e,
      upstreamMessage 502 longText = statusText 502 ++ (e ++ cutMark longText) ∧ Valid e := by
  have hnone : bodyMessage longText = none := by decide +kernel
  have hvalid : Valid longText := ⟨_, rfl⟩
  have hbyte : (trimSpaceBytes longText)[excerptLimit]? = some 0xa9 := by decide +kernel
  refine ⟨hvalid, hnone, ?_⟩
  rintro ⟨e, he, htext⟩
  rw [excerpt_eq 502 hnone he, valid_excerpt_iff hvalid] at htext
  exact absurd (htext 0xa9 hbyte) (by decide)

end Gateway
