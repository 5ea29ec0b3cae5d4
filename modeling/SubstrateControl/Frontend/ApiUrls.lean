import SubstrateControl.Api.Routes
import SubstrateControl.Js.UrlPath

/-!
# The URLs of the API client

`frontend/src/lib/api.ts`: the calls that name a resource in the path of their URL.

* `ApiCall.url` — the reference that is given to `fetch`, with `seg` around each value.
* `ApiCall.dispatched` — what the server's mux does with the request for it.
* `ApiCall.parts` — the segments of the URL, as texts and values.
* `matches_parts_iff` — a pattern matches the segments of a URL of its form unless a value is a
  slash.
* `ApiCall.dispatched_iff` — the resource that is named is reached exactly when no value is empty,
  a dot segment or a slash.
-/

set_option autoImplicit false

namespace Frontend

open Api Go ServeMux Js

/-- The exported functions of `api.ts` with values in the path. -/
inductive ApiCall where
  | deleteAtespace (name : String)
  | getActor (atespace name : String)
  | deleteActor (atespace name : String)
  | suspendActor (atespace name : String)
  | pauseActor (atespace name : String)
  | resumeActor (atespace name : String)
  | proxyActorRequest (atespace name : String)
  | deleteActorTemplate (ns name : String)
  | deleteSecret (ns name : String)
  | deleteGatewayKey (key : String)
  | deleteGatewayModel (id : String)
  | deleteWorkerPool (ns name : String)
  deriving DecidableEq, Repr

def seg (value : String) : List UInt8 := encodeURIComponent value

/-- A piece of a URL that is written out. -/
def text (s : String) : List UInt8 := utf8 s.toList

namespace ApiCall

/-- The path given to `request`. -/
def path : ApiCall → List UInt8
  | .deleteAtespace name => text "/atespaces/" ++ seg name
  | .getActor atespace name => text "/actors/" ++ seg atespace ++ text "/" ++ seg name
  | .deleteActor atespace name => text "/actors/" ++ seg atespace ++ text "/" ++ seg name
  | .suspendActor atespace name =>
    text "/actors/" ++ seg atespace ++ text "/" ++ seg name ++ text "/suspend"
  | .pauseActor atespace name =>
    text "/actors/" ++ seg atespace ++ text "/" ++ seg name ++ text "/pause"
  | .resumeActor atespace name =>
    text "/actors/" ++ seg atespace ++ text "/" ++ seg name ++ text "/resume"
  | .proxyActorRequest atespace name =>
    text "/actors/" ++ seg atespace ++ text "/" ++ seg name ++ text "/proxy"
  | .deleteActorTemplate ns name => text "/actortemplates/" ++ seg ns ++ text "/" ++ seg name
  | .deleteSecret ns name => text "/secrets/" ++ seg ns ++ text "/" ++ seg name
  | .deleteGatewayKey key => text "/gateway/keys/" ++ seg key
  | .deleteGatewayModel id => text "/gateway/models/" ++ seg id
  | .deleteWorkerPool ns name => text "/workerpools/" ++ seg ns ++ text "/" ++ seg name

/-- What `request` gives to `fetch`. -/
def url (c : ApiCall) : List UInt8 := text "/api" ++ c.path

/-- The method in the options; `fetch` defaults to GET. -/
def method : ApiCall → String
  | .getActor _ _ => "GET"
  | .suspendActor _ _ | .pauseActor _ _ | .resumeActor _ _ | .proxyActorRequest _ _ => "POST"
  | .deleteAtespace _ | .deleteActor _ _ | .deleteActorTemplate _ _ | .deleteSecret _ _
  | .deleteGatewayKey _ | .deleteGatewayModel _ | .deleteWorkerPool _ _ => "DELETE"

/-- The same operation of the server. -/
def endpoint : ApiCall → Endpoint
  | .deleteAtespace _ => .deleteAtespace
  | .getActor _ _ => .getActor
  | .deleteActor _ _ => .deleteActor
  | .suspendActor _ _ => .suspendActor
  | .pauseActor _ _ => .pauseActor
  | .resumeActor _ _ => .resumeActor
  | .proxyActorRequest _ _ => .proxyActor
  | .deleteActorTemplate _ _ => .deleteActorTemplate
  | .deleteSecret _ _ => .deleteSecret
  | .deleteGatewayKey _ => .deleteGatewayKey
  | .deleteGatewayModel _ => .deleteGatewayModel
  | .deleteWorkerPool _ _ => .deleteWorkerPool

/-- What the call names, by the path values the handler reads. -/
def values : ApiCall → List (String × String)
  | .deleteAtespace name => [("name", name)]
  | .getActor atespace name | .deleteActor atespace name | .suspendActor atespace name
  | .pauseActor atespace name | .resumeActor atespace name | .proxyActorRequest atespace name =>
    [("atespace", atespace), ("name", name)]
  | .deleteActorTemplate ns name | .deleteSecret ns name | .deleteWorkerPool ns name =>
    [("namespace", ns), ("name", name)]
  | .deleteGatewayKey key => [("key", key)]
  | .deleteGatewayModel id => [("id", id)]

/-- What the server does with the request for the call. -/
def dispatched (c : ApiCall) : Dispatch Endpoint := findHandler routes c.method (urlPath c.url)

/-- The operation of the call, with the values it was given. -/
def named (c : ApiCall) : Dispatch Endpoint :=
  .handler c.endpoint (c.values.map fun v => (v.1, utf8 v.2.toList))

end ApiCall

/-- A value that survives as a segment. -/
def Carried (v : String) : Prop := v ≠ "" ∧ v ≠ "." ∧ v ≠ ".." ∧ v ≠ "/"

instance : DecidablePred Carried := fun _ => inferInstanceAs (Decidable (_ ∧ _))

/-! ## Segments -/

/-- A segment of a URL: written out, or the value for a wildcard. -/
inductive Part where
  | text (s : String)
  | value (name v : String)
  deriving DecidableEq, Repr

namespace Part

/-- The segment in the URL. -/
def written : Part → List UInt8
  | .text s => Frontend.text s
  | .value _ v => seg v

/-- The segment of the pattern. -/
def segment : Part → Segment
  | .text s => lit s
  | .value name _ => .wildcard name

/-- What the segment is read as. -/
def word : Part → String
  | .text s => s
  | .value _ v => v

/-- The value, if there is one. -/
def value? : Part → Option (String × String)
  | .text _ => none
  | .value name v => some (name, v)

/-- A text needs no encoding. -/
def isPlain : Part → Bool
  | .text s => Frontend.text s == seg s && decide (Carried s)
  | .value _ _ => true

end Part

/-- The segments of an actor's URL. -/
def actorParts (atespace name : String) : List Part :=
  [.text "api", .text "actors", .value "atespace" atespace, .value "name" name]

/-- The segments of the URL of a Kubernetes object. -/
def objectParts (resource ns name : String) : List Part :=
  [.text "api", .text resource, .value "namespace" ns, .value "name" name]

def ApiCall.parts : ApiCall → List Part
  | .deleteAtespace name => [.text "api", .text "atespaces", .value "name" name]
  | .getActor atespace name | .deleteActor atespace name => actorParts atespace name
  | .suspendActor atespace name => actorParts atespace name ++ [.text "suspend"]
  | .pauseActor atespace name => actorParts atespace name ++ [.text "pause"]
  | .resumeActor atespace name => actorParts atespace name ++ [.text "resume"]
  | .proxyActorRequest atespace name => actorParts atespace name ++ [.text "proxy"]
  | .deleteActorTemplate ns name => objectParts "actortemplates" ns name
  | .deleteSecret ns name => objectParts "secrets" ns name
  | .deleteGatewayKey key => [.text "api", .text "gateway", .text "keys", .value "key" key]
  | .deleteGatewayModel id => [.text "api", .text "gateway", .text "models", .value "id" id]
  | .deleteWorkerPool ns name => objectParts "workerpools" ns name

theorem unescape_seg (v : String) : unescape (seg v) = utf8 v.toList := by
  unfold unescape seg
  rw [decode_encodeURIComponent]
  rfl

theorem not_slash_mem_seg (v : String) : slash ∉ seg v := fun h =>
  (isWritten_stays (isWritten_of_mem v h)).2.2.2 rfl

/-- **Values survive normalization and cleaning unless they are empty or dots.** -/
theorem seg_plain {v : String} (hempty : v ≠ "") (hdot : v ≠ ".") (hdots : v ≠ "..") :
    isDots (seg v) = false ∧ Plain (seg v) := by
  have hsingle : isSingleDot (seg v) ≠ true := fun h => hdot ((isSingleDot_encode v).mp h)
  have hdouble : isDoubleDot (seg v) ≠ true := fun h => hdots ((isDoubleDot_encode v).mp h)
  refine ⟨by simp [isDots, hsingle, hdouble], ?_, ?_, ?_, not_slash_mem_seg v⟩
  · exact fun h => hempty ((encodeURIComponent_eq_nil v).mp h)
  · intro h
    rw [h] at hsingle
    exact hsingle (by decide)
  · intro h
    rw [h] at hdouble
    exact hdouble (by decide)

/-- **A pattern matches the words of its form unless a value is a slash.** -/
theorem matches_parts_iff : ∀ (parts : List Part) (caps : List (List UInt8)),
    Matches (parts.map Part.segment) (parts.map fun p => utf8 p.word.toList) caps ↔
      caps = (parts.filterMap Part.value?).map (fun v => utf8 v.2.toList) ∧
        ∀ v ∈ parts.filterMap Part.value?, v.2 ≠ "/"
  | [], caps => by
    constructor
    · intro h
      cases h
      simp
    · rintro ⟨rfl, -⟩
      exact .nil
  | .text s :: parts, caps => by
    have ih := matches_parts_iff parts caps
    constructor
    · intro h
      cases h with
      | literal h => exact ih.mp h
    · exact fun h => .literal (ih.mpr h)
  | .value name v :: parts, caps => by
    have hslash : utf8 v.toList = [slash] ↔ v = "/" :=
      ⟨fun h => utf8_injective h, by rintro rfl; rfl⟩
    have hvalues : (Part.value name v :: parts).filterMap Part.value? =
        (name, v) :: parts.filterMap Part.value? := rfl
    rw [hvalues]
    constructor
    · intro h
      cases h with
      | wildcard hs h =>
        obtain ⟨rfl, hrest⟩ := (matches_parts_iff parts _).mp h
        refine ⟨rfl, fun u hu => ?_⟩
        rcases List.mem_cons.mp hu with rfl | hu
        · exact fun h => hs (hslash.mpr h)
        · exact hrest u hu
    · rintro ⟨rfl, hne⟩
      apply Matches.wildcard
      · exact fun h => hne (name, v) (by simp) (hslash.mp h)
      · exact (matches_parts_iff parts _).mpr
          ⟨rfl, fun u hu => hne u (List.mem_cons_of_mem _ hu)⟩

theorem names_parts : ∀ parts : List Part,
    names (parts.map Part.segment) = (parts.filterMap Part.value?).map Prod.fst
  | [] => rfl
  | .text _ :: parts => names_parts parts
  | .value name _ :: parts => congrArg (name :: ·) (names_parts parts)

theorem rest_not_mem_parts (parts : List Part) : .rest ∉ parts.map Part.segment := by
  intro h
  obtain ⟨p, -, hp⟩ := List.mem_map.mp h
  cases p <;> cases hp

/-! ## Calls -/

namespace ApiCall

theorem url_eq (c : ApiCall) : c.url = joined (c.parts.map Part.written) := by
  cases c <;>
    simp only [url, path, parts, actorParts, objectParts, joined, Part.written, List.append_assoc,
      List.map_cons, List.map_nil, List.cons_append, List.nil_append,
      List.intercalate_cons_cons, List.intercalate_singleton] <;>
    rfl

theorem values_eq (c : ApiCall) : c.values = c.parts.filterMap Part.value? := by
  cases c <;> rfl

theorem route_mem (c : ApiCall) :
    route c.method (c.parts.map Part.segment) c.endpoint ∈ routes := by
  cases c <;> simp [routes, method, parts, actorParts, objectParts, endpoint, Part.segment, api]

theorem parts_plain (c : ApiCall) : c.parts.all Part.isPlain = true := by
  cases c <;> rfl

theorem method_ne_connect (c : ApiCall) : c.method ≠ "CONNECT" := routes_no_connect _ c.route_mem

/-- The segments of the URL, before it is parsed. -/
def segs (c : ApiCall) : List (List UInt8) := c.parts.map fun p => seg p.word

theorem segs_ne_nil (c : ApiCall) : c.segs ≠ [] := by
  cases c <;> simp [segs, parts, actorParts, objectParts]

theorem written_eq {c : ApiCall} {p : Part} (h : p ∈ c.parts) : p.written = seg p.word := by
  cases p with
  | text s =>
    have hplain := List.all_eq_true.mp c.parts_plain _ h
    exact eq_of_beq (Bool.and_eq_true_iff.mp hplain).1
  | value name v => rfl

/-- The words are carried where the values are. -/
theorem forall_word_iff (c : ApiCall) :
    (∀ p ∈ c.parts, Carried p.word) ↔ ∀ v ∈ c.values, Carried v.2 := by
  rw [values_eq]
  constructor
  · intro h v hv
    obtain ⟨p, hp, hvalue⟩ := List.mem_filterMap.mp hv
    cases p with
    | text s => cases hvalue
    | value name v =>
      cases hvalue
      exact h _ hp
  · intro h p hp
    cases p with
    | text s =>
      have hplain := List.all_eq_true.mp c.parts_plain _ hp
      exact of_decide_eq_true (Bool.and_eq_true_iff.mp hplain).2
    | value name v => exact h (name, v) (List.mem_filterMap.mpr ⟨_, hp, rfl⟩)

/-- The path that the browser asks for. -/
theorem urlPath_url (c : ApiCall) : urlPath c.url = joined (normalize [] c.segs) := by
  have hsegs : c.parts.map Part.written = c.segs := List.map_congr_left fun p hp => written_eq hp
  rw [url_eq, hsegs]
  apply urlPath_joined c.segs_ne_nil
  intro s hs b hb
  obtain ⟨p, -, rfl⟩ := List.mem_map.mp hs
  exact isWritten_of_mem _ hb

/-- No word of the call is empty or a dot segment. -/
def Kept (c : ApiCall) : Prop := ∀ p ∈ c.parts, p.word ≠ "" ∧ p.word ≠ "." ∧ p.word ≠ ".."

theorem Kept.plain {c : ApiCall} (h : c.Kept) : ∀ s ∈ c.segs, isDots s = false ∧ Plain s := by
  intro s hs
  obtain ⟨p, hp, rfl⟩ := List.mem_map.mp hs
  obtain ⟨hempty, hdot, hdots⟩ := h p hp
  exact seg_plain hempty hdot hdots

theorem Kept.urlPath {c : ApiCall} (h : c.Kept) : urlPath c.url = joined c.segs := by
  rw [urlPath_url, normalize_plain _ _ fun s hs => (h.plain s hs).1, List.nil_append]

/-- The mux reads the words back. -/
theorem Kept.segments {c : ApiCall} (h : c.Kept) :
    segments (joined c.segs) = c.parts.map fun p => utf8 p.word.toList := by
  rw [segments_joined c.segs_ne_nil fun s hs => (h.plain s hs).2, segs, List.map_map]
  exact List.map_congr_left fun p _ => unescape_seg p.word

/-- **Carried values reach the operation they are given to.** -/
theorem dispatched_of_carried (c : ApiCall) (h : ∀ v ∈ c.values, Carried v.2) :
    c.dispatched = c.named := by
  have hwords := c.forall_word_iff.mpr h
  have hkept : c.Kept := fun p hp =>
    let ⟨hempty, hdot, hdots, _⟩ := hwords p hp
    ⟨hempty, hdot, hdots⟩
  have hclean : cleanPath (joined c.segs) = joined c.segs :=
    cleanPath_joined c.segs_ne_nil fun s hs => (hkept.plain s hs).2
  have hmatch := (matches_parts_iff c.parts _).mpr
    ⟨rfl, fun v hv => (h v (by rwa [values_eq])).2.2.2⟩
  rw [← hkept.segments] at hmatch
  obtain ⟨ps, hps⟩ : ∃ ps, c.parts.map Part.segment = lit "api" :: ps := by
    cases c <;> exact ⟨_, rfl⟩
  have hfound : matchMethod routes c.method (joined c.segs) = some (route c.method
      (c.parts.map Part.segment) c.endpoint, c.values.map fun v => utf8 v.2.toList) := by
    rw [values_eq]
    apply matchMethod_eq routes_unambiguous c.route_mem hps (by simp [lit])
    rwa [← hps]
  have hrequest : matchRequest routes c.method (joined c.segs) = some (route c.method
      (c.parts.map Part.segment) c.endpoint, c.values.map fun v => utf8 v.2.toList) := by
    rw [matchRequest, hfound]
    rfl
  unfold dispatched named
  rw [hkept.urlPath, findHandler_some routes_onlyRootSlash c.method_ne_connect hclean hrequest]
  show Dispatch.handler c.endpoint ((names (c.parts.map Part.segment)).zip _) = _
  rw [names_parts, ← values_eq, List.zip_map']

theorem not_slash_mem_normalize (c : ApiCall) : ∀ s ∈ normalize [] c.segs, slash ∉ s := by
  intro s hs
  rcases mem_normalize _ _ hs with hs | hs | rfl
  · cases hs
  · obtain ⟨p, -, rfl⟩ := List.mem_map.mp hs
    exact not_slash_mem_seg p.word
  · simp

/-- A clean path that the route of the call matches keeps the words. -/
theorem kept_of_matches (c : ApiCall) {caps : List (List UInt8)}
    (hclean : cleanPath (joined (normalize [] c.segs)) = joined (normalize [] c.segs))
    (hmatch : Matches (c.parts.map Part.segment) (segments (joined (normalize [] c.segs))) caps) :
    c.Kept := by
  have hne := normalize_ne_nil c.segs [] c.segs_ne_nil
  have hslash := c.not_slash_mem_normalize
  have hrest := rest_not_mem_parts c.parts
  have hlength : (normalize [] c.segs).length = c.segs.length := by
    rw [← segments_joined_length hne hslash, hmatch.length_eq hrest, segs, List.length_map,
      List.length_map]
  have hlast : (normalize [] c.segs).getLast? ≠ some [] := by
    intro hlast
    rcases hmatch.ends_slash (segments_joined_getLast hne hslash hlast) with hends | hliteral
    · exact hrest (List.mem_of_getLast? hends)
    · exact (routes_onlyRootSlash _ c.route_mem).1 hliteral
  -- dots would leave fewer segments than the pattern has, or a trailing slash
  have hdots : ∀ s ∈ c.segs, isDots s = false := by
    intro s hs
    rw [← Bool.not_eq_true]
    intro hdots
    rcases normalize_dots c.segs [] ⟨s, hs, hdots⟩ with hlt | hempty
    · rw [hlength, List.length_nil] at hlt
      omega
    · exact hlast hempty
  rw [normalize_plain c.segs [] hdots, List.nil_append] at hclean hlast hslash
  intro p hp
  have hs : seg p.word ∈ c.segs := List.mem_map_of_mem hp
  obtain ⟨hdouble, hsingle⟩ := Bool.or_eq_false_iff.mp (hdots _ hs)
  refine ⟨?_, ?_, ?_⟩
  · intro hw
    rw [seg, (encodeURIComponent_eq_nil _).mpr hw] at hs
    exact hlast (getLast_of_cleanPath c.segs_ne_nil hslash hclean hs)
  · intro hw
    rw [seg, (isSingleDot_encode _).mpr hw] at hsingle
    cases hsingle
  · intro hw
    rw [seg, (isDoubleDot_encode _).mpr hw] at hdouble
    cases hdouble

/-- **Only carried values reach it.** -/
theorem carried_of_dispatched (c : ApiCall) (h : c.dispatched = c.named) :
    ∀ v ∈ c.values, Carried v.2 := by
  unfold dispatched named at h
  rw [urlPath_url] at h
  obtain ⟨hclean, r, hr, caps, hmatch, hhandler, -⟩ :=
    findHandler_handler routes_onlyRootSlash c.method_ne_connect h
  obtain rfl := route_unique r hr _ c.route_mem hhandler
  have hkept := c.kept_of_matches hclean hmatch
  rw [← urlPath_url, hkept.urlPath, hkept.segments] at hmatch
  have hslash := ((matches_parts_iff c.parts caps).mp hmatch).2
  intro v hv
  rw [values_eq] at hv
  obtain ⟨p, hp, hvalue⟩ := List.mem_filterMap.mp hv
  have hword : p.word = v.2 := by
    cases p with
    | text s => cases hvalue
    | value name w => cases hvalue; rfl
  obtain ⟨hempty, hdot, hdots⟩ := hkept p hp
  rw [hword] at hempty hdot hdots
  exact ⟨hempty, hdot, hdots, hslash v hv⟩

/-- **A call reaches the resource it names exactly when no value is empty, a dot segment or a
slash.** -/
theorem dispatched_iff (c : ApiCall) : c.dispatched = c.named ↔ ∀ v ∈ c.values, Carried v.2 :=
  ⟨c.carried_of_dispatched, c.dispatched_of_carried⟩

/-- A key spelled as two dots or as a slash cannot be deleted: the browser asks for the parent path,
and the mux takes the slash for a trailing one. -/
theorem dispatched_counterexample :
    (urlPath (deleteGatewayKey "..").url = text "/api/gateway/" ∧
      matchRequest routes "DELETE" (text "/api/gateway/") = none ∧
      (deleteGatewayKey "..").dispatched ≠ (deleteGatewayKey "..").named) ∧
    urlPath (deleteGatewayKey "/").url = text "/api/gateway/keys/%2F" ∧
      matchRequest routes "DELETE" (text "/api/gateway/keys/%2F") = none ∧
      (deleteGatewayKey "/").dispatched ≠ (deleteGatewayKey "/").named := by
  refine ⟨⟨by decide +kernel, by decide +kernel, fun h => ?_⟩, by decide +kernel,
    by decide +kernel, fun h => ?_⟩
  · have hcarried := carried_of_dispatched _ h ("key", "..") (by decide)
    revert hcarried
    decide
  · have hcarried := carried_of_dispatched _ h ("key", "/") (by decide)
    revert hcarried
    decide

end ApiCall

end Frontend
