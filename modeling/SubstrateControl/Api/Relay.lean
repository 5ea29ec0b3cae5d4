import SubstrateControl.Api.Proxy
import SubstrateControl.Go.JsonEncode

/-!
# What the browser gets of an actor's answer

`writeJSON` writes the relayed response as JSON, whose strings are text.

* `Answer.written` — the status and the bytes of an answer.
* `Relayed` — a written text decodes to a given status, content type and body.
* `relayed_iff` — it does exactly when both strings are the bytes of their runes.
* `relay_verbatim_iff` — an actor's answer reaches the browser unchanged exactly when its content
  type and the part of its body that is kept are UTF-8.
-/

set_option autoImplicit false

namespace Api

open Go RouterProxy

/-- A string constant of the source. -/
def goString (s : String) : List UInt8 := utf8 s.toList

/-- What a handler writes: the status and the body. -/
structure Written where
  status : ℕ
  body : List UInt8
  deriving DecidableEq, Repr

/-- `map[string]string{"error": msg}`. -/
def errorDoc (message : String) : Doc := .obj [(goString "error", .str (goString message))]

/-- `writeError` and `writeJSON`. -/
def Answer.written {α : Type} (toDoc : α → Doc) : Answer α → Written
  | .error status message => ⟨status, encodeLine (errorDoc message)⟩
  | .ok body => ⟨200, encodeLine (toDoc body)⟩

/-- `actorProxyResponse` as JSON. -/
def ActorProxyResponse.toDoc (r : ActorProxyResponse) : Doc :=
  .obj [(goString "status", .nat r.status), (goString "contentType", .str r.contentType),
    (goString "body", .str r.body)]

/-- `text` decodes to an object with these fields, the strings taken as bytes. -/
def Relayed (text : List UInt8) (status : ℕ) (contentType body : List UInt8) : Prop :=
  ∃ m : JObj, parse text = some (.obj m) ∧ m.get "status" = .num status ∧
    (∃ s, m.get "contentType" = .str s ∧ goString s = contentType) ∧
    ∃ s, m.get "body" = .str s ∧ goString s = body

/-- The body a client is to see: all of it, or its first 1 MiB and the marker. -/
def expectedBody (body : List UInt8) : List UInt8 :=
  if body.length ≤ maxBody then body else body.take maxBody ++ truncationMarker

theorem textOf_goString (s : String) : textOf (goString s) = s := by
  rw [textOf, goString, runes_utf8, String.ofList_toList]

theorem goString_textOf (s : List UInt8) : goString (textOf s) = utf8 (runes s) := by
  rw [goString, textOf, String.toList_ofList]

/-- A written response carries the runes of its strings. -/
theorem relayed_iff (r : ActorProxyResponse) (contentType body : List UInt8) :
    Relayed (encodeLine r.toDoc) r.status contentType body ↔
      utf8 (runes r.contentType) = contentType ∧ utf8 (runes r.body) = body := by
  have hparse : parse (encodeLine r.toDoc) = some (.obj [("status", .num r.status),
      ("contentType", .str (textOf r.contentType)), ("body", .str (textOf r.body))]) := by
    rw [parse_encode (by simp [ActorProxyResponse.toDoc, Doc.depth, fieldsDepth, maxNestingDepth])]
    simp only [ActorProxyResponse.toDoc, Doc.toJVal, fieldsToJVal, textOf_goString]
  unfold Relayed
  rw [hparse]
  constructor
  · rintro ⟨m, hm, -, ⟨s, hs, rfl⟩, ⟨t, ht, rfl⟩⟩
    cases hm
    cases hs
    cases ht
    exact ⟨(goString_textOf _).symm, (goString_textOf _).symm⟩
  · rintro ⟨rfl, rfl⟩
    exact ⟨_, rfl, rfl, ⟨_, rfl, goString_textOf _⟩, ⟨_, rfl, goString_textOf _⟩⟩

/-- What `Forward` returns of a body is what a client is to see. -/
theorem relayBody_eq (body : List UInt8) : relayBody body = expectedBody body := by
  unfold relayBody expectedBody
  simp only [List.length_take, List.take_take]
  by_cases h : body.length ≤ maxBody
  · rw [if_neg (by omega), if_pos h, List.take_of_length_le (by omega)]
  · rw [if_pos (by omega), if_neg h, Nat.min_eq_left (by omega)]

/-- What was cut is valid exactly when the part that was kept is. -/
theorem valid_expectedBody (body : List UInt8) :
    Valid (expectedBody body) ↔ Valid (body.take maxBody) := by
  unfold expectedBody
  split
  · rw [List.take_of_length_le (by assumption)]
  · -- the mark starts with an ASCII byte, at which the kept part ends
    have hmarker : truncationMarker =
        byte '\n' :: utf8 "...[truncated by substrate-control]".toList := by
      decide +kernel
    rw [hmarker]
    apply valid_append_ascii _ (by decide)
    exact ⟨'\n' :: "...[truncated by substrate-control]".toList, utf8_cons _ _⟩

/-- What an answered request is answered with. -/
theorem handleProxyActor_answered {net : Network} {rp : Client} {actor : ActorRef}
    {body : DecodedBody ActorProxyRequest} {out : Outgoing} {status : ℕ} {ct b : List UInt8}
    (hsent : (handleProxyActor net rp actor body).sent = some out)
    (hanswer : net.exchange out = .answered status ct b) :
    (handleProxyActor net rp actor body).answer = .ok ⟨status, ct, relayBody b⟩ := by
  unfold handleProxyActor at hsent ⊢
  split at hsent
  · cases hsent
  · rename_i req hreq
    split at hsent
    · cases hsent
    · rename_i hmethod
      split at hsent
      · cases hsent
      · rename_i hpath
        have hforward : (forward net rp (actorHost actor) req.method req.path req.body
            (if req.contentType = "" then "text/plain" else req.contentType)).sent = some out := by
          simp only at hsent
          split at hsent
          · split at hsent <;> exact hsent
          · exact hsent
        rw [if_neg hmethod, if_neg hpath]
        simp only [forward_answered hforward hanswer]

/-- **What an actor answers is relayed verbatim exactly when it is text**: its content type is
UTF-8, and so is its body or, of a longer one, the first 1 MiB. -/
theorem relay_verbatim_iff {net : Network} {rp : Client} {actor : ActorRef}
    {body : DecodedBody ActorProxyRequest} {out : Outgoing} {status : ℕ} {ct b : List UInt8}
    (hsent : (handleProxyActor net rp actor body).sent = some out)
    (hanswer : net.exchange out = .answered status ct b) :
    (((handleProxyActor net rp actor body).answer.written ActorProxyResponse.toDoc).status = 200 ∧
      Relayed ((handleProxyActor net rp actor body).answer.written ActorProxyResponse.toDoc).body
        status ct (expectedBody b)) ↔
    Valid ct ∧ Valid (b.take maxBody) := by
  have hrelayed := relayed_iff ⟨status, ct, relayBody b⟩ ct (expectedBody b)
  simp only [relayBody_eq] at hrelayed
  rw [handleProxyActor_answered hsent hanswer, relayBody_eq, ← valid_expectedBody, ← utf8_runes_iff,
    ← utf8_runes_iff, ← hrelayed]
  exact ⟨fun h => h.2, fun h => ⟨rfl, h⟩⟩

/-- A router that answers everything with one content type and body. -/
def answeringNetwork (ct b : List UInt8) : Network := ⟨fun _ _ => none, fun _ => .answered 200 ct b⟩

/-- A text is relayed as it is. -/
theorem relay_verbatim_text :
    Relayed ((handleProxyActor (answeringNetwork (goString "text/plain") (goString "ok: 5 €"))
      (newClient "") ⟨"dev", "bot"⟩ (.value ⟨"GET", "/", "", ""⟩)).answer.written
        ActorProxyResponse.toDoc).body 200 (goString "text/plain") (goString "ok: 5 €") := by
  have h := (@relay_verbatim_iff (answeringNetwork (goString "text/plain") (goString "ok: 5 €"))
    (newClient "") ⟨"dev", "bot"⟩ (.value ⟨"GET", "/", "", ""⟩) _ _ _ _ rfl rfl).mpr ⟨⟨_, rfl⟩, by
      rw [List.take_of_length_le (by decide)]
      exact ⟨_, rfl⟩⟩
  have hexp : expectedBody (goString "ok: 5 €") = goString "ok: 5 €" :=
    if_pos (by decide)
  exact hexp ▸ h.2

/-- The body of the single byte 0xff is not. -/
theorem relay_verbatim_counterexample :
    (handleProxyActor (answeringNetwork (goString "image/png") [0xff]) (newClient "") ⟨"dev", "bot"⟩
      (.value ⟨"GET", "/", "", ""⟩)).sent ≠ none ∧
    ¬ Relayed ((handleProxyActor (answeringNetwork (goString "image/png") [0xff]) (newClient "")
      ⟨"dev", "bot"⟩ (.value ⟨"GET", "/", "", ""⟩)).answer.written ActorProxyResponse.toDoc).body
      200 (goString "image/png") [0xff] := by
  refine ⟨nofun, ?_⟩
  have hbody : relayBody [0xff] = [0xff] := rfl
  intro h
  have hbytes := ((relayed_iff ⟨200, goString "image/png", relayBody [0xff]⟩ _ _).mp h).2
  rw [hbody] at hbytes
  revert hbytes
  decide

end Api
