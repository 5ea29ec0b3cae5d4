import SubstrateControl.Gateway.Client
import SubstrateControl.Kit.Loop
import Mathlib.Data.List.Range

/-!
# Listing the virtual keys

Model of `ListKeys` and `listKeys` (`internal/gateway/client.go`).

* `LiteLLM.ask` — the answer to the request for one page, by `doRequest`.
* `keyRound`, `listKeys` — the loop over the pages and one round of it; the result records the
  requests it sent.  `ListKeys` lists full objects and, after an upstream error, bare tokens.
* `answer_cases`, `keyRound_continues`, `keyRound_stops`, `keyRound_fails` — what an answer makes
  of a round.
* `listKeys_complete` — entries served as consecutive pages are listed completely, in order, with
  one request for each page; a failing page fails the listing.
* `listKeys_path` — how a listing that returned went.
* `fallback_iff` — a deployment that accepts the parameter is never listed as bare tokens, except
  exactly when a page after the first is answered with an upstream error and the bare listing then
  succeeds, or when an entry cannot be decoded.
-/

set_option autoImplicit false

namespace Gateway

open Go Kit

/-! ## The listing -/

/-- The answer to `/key/list`. -/
structure KeyListPage where
  keys : List RawMessage := []
  currentPage : ℤ := 0
  totalPages : ℤ := 0

/-- A request for one page, of full objects or of bare tokens. -/
structure KeyListRequest where
  full : Bool
  page : ℕ
  deriving DecidableEq, Repr

/-- The path requested. -/
def KeyListRequest.path (r : KeyListRequest) : String :=
  let url := "/key/list?size=100&page=" ++ toString r.page
  if r.full then url ++ "&return_full_object=true" else url

/-- What the client finds on the wire for each path, with the reading of answers. -/
structure LiteLLM where
  roundTrip : String → RoundTrip
  upstreamMessage : ℕ → List UInt8 → String
  unmarshal : List UInt8 → Except String KeyListPage

/-- The request for one page. -/
def LiteLLM.ask (T : LiteLLM) (r : KeyListRequest) : Except Err KeyListPage :=
  doRequest T.upstreamMessage T.unmarshal {} (T.roundTrip r.path)

/-- The loop's variables `page` and `out`, and the requests sent so far. -/
structure KeyListState where
  page : ℕ
  out : List Key
  sent : List KeyListRequest

/-- What a listing returned, and the requests it sent. -/
structure ListedKeys where
  result : Except Err (List Key)
  sent : List KeyListRequest
  deriving DecidableEq

variable (go : Runtime) (T : LiteLLM)

/-- One round: request the page, append its keys, stop at an empty page or the last one. -/
def keyRound (full : Bool) (s : KeyListState) : KeyListState ⊕ ListedKeys :=
  let sent := s.sent ++ [⟨full, s.page⟩]
  match T.ask ⟨full, s.page⟩ with
  | .error e => .inr ⟨.error e, sent⟩
  | .ok resp =>
    let out := s.out ++ resp.keys.map (normalizeKey go)
    if resp.keys = [] ∨ (s.page : ℤ) ≥ resp.totalPages then .inr ⟨.ok out, sent⟩
    else .inl ⟨s.page + 1, out, sent⟩

/-- `listKeys`, for at most `fuel` pages. -/
def listKeys (full : Bool) (fuel : ℕ) : Option ListedKeys :=
  Loop.run (keyRound go T full) fuel ⟨1, [], []⟩

/-- `ListKeys`: full objects, and bare tokens after an upstream error. -/
def ListKeys (fuel : ℕ) : Option ListedKeys :=
  match listKeys go T true fuel with
  | none => none
  | some ⟨.ok keys, sent⟩ => some ⟨.ok keys, sent⟩
  | some ⟨.error e, sent⟩ =>
    if e.isUpstream then
      (listKeys go T false fuel).map fun r => ⟨r.result, sent ++ r.sent⟩
    else some ⟨.error e, sent⟩

/-! ## One page -/

/-- Page `i` is answered with keys, and more pages are to come. -/
def LiteLLM.Continues (full : Bool) (i : ℕ) : Prop :=
  ∃ resp, T.ask ⟨full, i⟩ = .ok resp ∧ resp.keys ≠ [] ∧ (i : ℤ) < resp.totalPages

/-- Page `i` is answered and is the last to be asked for. -/
def LiteLLM.Stops (full : Bool) (i : ℕ) : Prop :=
  ∃ resp, T.ask ⟨full, i⟩ = .ok resp ∧ (resp.keys = [] ∨ resp.totalPages ≤ i)

/-- The entries answered for page `i`. -/
def LiteLLM.entries (full : Bool) (i : ℕ) : List RawMessage :=
  match T.ask ⟨full, i⟩ with
  | .error _ => []
  | .ok resp => resp.keys

/-- The entries answered for pages `1 … n`. -/
def LiteLLM.entriesUpTo (full : Bool) (n : ℕ) : List RawMessage :=
  (List.range' 1 n).flatMap (T.entries full)

/-- The requests for pages `1 … n`. -/
def requests (full : Bool) (n : ℕ) : List KeyListRequest := (List.range' 1 n).map (⟨full, ·⟩)

/-- The loop's variables after `n` pages. -/
abbrev keyStateAt (full : Bool) (n : ℕ) : KeyListState :=
  ⟨n + 1, (T.entriesUpTo full n).map (normalizeKey go), requests full n⟩

variable {T} {full : Bool}

theorem answer_cases (T : LiteLLM) (full : Bool) (i : ℕ) :
    T.Continues full i ∨ T.Stops full i ∨ ∃ e, T.ask ⟨full, i⟩ = .error e := by
  cases h : T.ask ⟨full, i⟩ with
  | error e => exact Or.inr (Or.inr ⟨e, rfl⟩)
  | ok resp =>
    by_cases hstop : resp.keys = [] ∨ resp.totalPages ≤ i
    · exact Or.inr (Or.inl ⟨resp, h, hstop⟩)
    · obtain ⟨hne, hlt⟩ := not_or.mp hstop
      exact Or.inl ⟨resp, h, hne, by omega⟩

theorem entriesUpTo_succ {resp : KeyListPage} {n : ℕ} (h : T.ask ⟨full, n + 1⟩ = .ok resp) :
    T.entriesUpTo full (n + 1) = T.entriesUpTo full n ++ resp.keys := by
  simp [LiteLLM.entriesUpTo, LiteLLM.entries, List.range'_concat, Nat.add_comm 1 n, h]

theorem requests_succ (full : Bool) (n : ℕ) :
    requests full (n + 1) = requests full n ++ [⟨full, n + 1⟩] := by
  simp [requests, List.range'_concat, Nat.add_comm 1 n]

/-- A page with more to come takes the loop to the next one. -/
theorem keyRound_continues {n : ℕ} (h : T.Continues full (n + 1)) :
    keyRound go T full (keyStateAt go T full n) = .inl (keyStateAt go T full (n + 1)) := by
  obtain ⟨resp, hask, hne, hlt⟩ := h
  have hgo : ¬ (resp.keys = [] ∨ ((n + 1 : ℕ) : ℤ) ≥ resp.totalPages) := by
    rintro (h | h)
    · exact hne h
    · omega
  simp only [keyRound, keyStateAt, hask, entriesUpTo_succ hask, requests_succ, List.map_append]
  rw [if_neg hgo]

/-- A last page ends the loop. -/
theorem keyRound_stops {n : ℕ} (h : T.Stops full (n + 1)) :
    keyRound go T full (keyStateAt go T full n) =
      .inr ⟨.ok ((T.entriesUpTo full (n + 1)).map (normalizeKey go)), requests full (n + 1)⟩ := by
  obtain ⟨resp, hask, hstop⟩ := h
  have hdone : resp.keys = [] ∨ ((n + 1 : ℕ) : ℤ) ≥ resp.totalPages := hstop
  simp only [keyRound, hask, entriesUpTo_succ hask, requests_succ, List.map_append]
  rw [if_pos hdone]

/-- A failing request ends the loop with its error. -/
theorem keyRound_fails {n : ℕ} {e : Err} (h : T.ask ⟨full, n + 1⟩ = .error e) :
    keyRound go T full (keyStateAt go T full n) = .inr ⟨.error e, requests full (n + 1)⟩ := by
  simp only [keyRound, h, requests_succ]

/-! ## Whole listings -/

theorem listKeys_stops {k : ℕ} (hgo : ∀ i, 1 ≤ i → i ≤ k → T.Continues full i)
    (hstop : T.Stops full (k + 1)) :
    Loop.Eventually (listKeys go T full)
      ⟨.ok ((T.entriesUpTo full (k + 1)).map (normalizeKey go)), requests full (k + 1)⟩ :=
  (Loop.returns_of_path (p := keyStateAt go T full) k
    (fun i hi => keyRound_continues go (hgo (i + 1) (by omega) hi))
    (keyRound_stops go hstop)).eventually

theorem listKeys_fails {k : ℕ} (hgo : ∀ i, 1 ≤ i → i ≤ k → T.Continues full i) {e : Err}
    (he : T.ask ⟨full, k + 1⟩ = .error e) :
    Loop.Eventually (listKeys go T full) ⟨.error e, requests full (k + 1)⟩ :=
  (Loop.returns_of_path (p := keyStateAt go T full) k
    (fun i hi => keyRound_continues go (hgo (i + 1) (by omega) hi))
    (keyRound_fails go he)).eventually

/-- **How a listing that returned went**: some pages with more to come, then a last page or a
failing one. -/
theorem listKeys_path {fuel : ℕ} {r : ListedKeys} (h : listKeys go T full fuel = some r) :
    ∃ k, (∀ i, 1 ≤ i → i ≤ k → T.Continues full i) ∧
      ((T.Stops full (k + 1) ∧ r = ⟨.ok ((T.entriesUpTo full (k + 1)).map (normalizeKey go)),
          requests full (k + 1)⟩) ∨
        ∃ e, T.ask ⟨full, k + 1⟩ = .error e ∧ r = ⟨.error e, requests full (k + 1)⟩) := by
  obtain ⟨k, st, h0, hnext, hdone⟩ := Loop.returns_iff_path.mp ⟨fuel, h⟩
  -- along the path the loop's variables are those after as many pages
  have hst : ∀ n, n ≤ k →
      st n = keyStateAt go T full n ∧ ∀ i, 1 ≤ i → i ≤ n → T.Continues full i := by
    intro n
    induction n with
    | zero => exact fun _ => ⟨h0, fun i h1 h2 => absurd h1 (by omega)⟩
    | succ n ih =>
      intro hn
      obtain ⟨hstate, hgo⟩ := ih (by omega)
      have hround := hnext n (by omega)
      rw [hstate] at hround
      rcases answer_cases T full (n + 1) with hc | hs | ⟨e, he⟩
      · rw [keyRound_continues go hc] at hround
        refine ⟨(Sum.inl.inj hround).symm, fun i h1 h2 => ?_⟩
        rcases Nat.lt_or_ge n i with hi | hi
        · have hin : i = n + 1 := by omega
          rw [hin]
          exact hc
        · exact hgo i h1 hi
      · rw [keyRound_stops go hs] at hround; cases hround
      · rw [keyRound_fails go he] at hround; cases hround
  obtain ⟨hstate, hgo⟩ := hst k (Nat.le_refl _)
  rw [hstate] at hdone
  refine ⟨k, hgo, ?_⟩
  rcases answer_cases T full (k + 1) with hc | hs | ⟨e, he⟩
  · rw [keyRound_continues go hc] at hdone; cases hdone
  · rw [keyRound_stops go hs] at hdone
    exact Or.inl ⟨hs, (Sum.inr.inj hdone).symm⟩
  · rw [keyRound_fails go he] at hdone
    exact Or.inr ⟨e, he, (Sum.inr.inj hdone).symm⟩

/-! ## Complete listings -/

/-- Key entries held as consecutive pages: none of them empty, or one empty page. -/
structure KeyPages where
  pages : List (List RawMessage)
  totalPages : ℕ
  shape : (pages = [[]] ∧ totalPages ≤ 1) ∨
    (pages ≠ [] ∧ (∀ p ∈ pages, p ≠ []) ∧ totalPages = pages.length)

namespace KeyPages

/-- The entries, in order. -/
def entries (P : KeyPages) : List RawMessage := P.pages.flatten

/-- The request for page `i`, counted from one, succeeds with the page as it is held: its answer is
below 400, within the limit of what is read, and decoded. -/
def Serves (P : KeyPages) (T : LiteLLM) (full : Bool) (i : ℕ) : Prop :=
  ∃ resp page, T.ask ⟨full, i⟩ = .ok resp ∧ P.pages[i - 1]? = some page ∧ resp.keys = page ∧
    resp.totalPages = P.totalPages

theorem length_pages (P : KeyPages) : P.pages.length = max 1 P.totalPages := by
  rcases P.shape with ⟨hp, ht⟩ | ⟨hne, _, ht⟩
  · simp only [hp, List.length_singleton]
    omega
  · have hpos := List.length_pos_of_ne_nil hne
    omega

/-- A page before the last has more to come. -/
theorem Serves.continues {P : KeyPages} {i : ℕ} (hs : P.Serves T full i) (h1 : 1 ≤ i)
    (hi : i < P.pages.length) : T.Continues full i := by
  obtain ⟨resp, page, hask, hpage, hkeys, htotal⟩ := hs
  rcases P.shape with ⟨hp, _⟩ | ⟨_, hall, ht⟩
  · simp only [hp, List.length_singleton] at hi
    omega
  · refine ⟨resp, hask, ?_, by omega⟩
    rw [hkeys]
    exact hall page (List.mem_of_getElem? hpage)

/-- The last page is the last to be asked for. -/
theorem Serves.stops {P : KeyPages} (hs : P.Serves T full P.pages.length) :
    T.Stops full P.pages.length := by
  obtain ⟨resp, page, hask, hpage, hkeys, htotal⟩ := hs
  refine ⟨resp, hask, ?_⟩
  rcases P.shape with ⟨hp, _⟩ | ⟨_, _, ht⟩
  · left
    simp only [hp, List.length_singleton, Nat.sub_self, List.getElem?_cons_zero,
      Option.some.injEq] at hpage
    rw [hkeys, ← hpage]
  · right
    omega

/-- The entries answered for served pages are the pages' own. -/
theorem entriesUpTo_eq {P : KeyPages} :
    ∀ n, n ≤ P.pages.length → (∀ i, 1 ≤ i → i ≤ n → P.Serves T full i) →
      T.entriesUpTo full n = (P.pages.take n).flatten := by
  intro n
  induction n with
  | zero => intro _ _; rfl
  | succ n ih =>
    intro hn hs
    obtain ⟨resp, page, hask, hpage, hkeys, _⟩ := hs (n + 1) (by omega) (Nat.le_refl _)
    rw [entriesUpTo_succ hask, ih (by omega) (fun i h1 h2 => hs i h1 (by omega)), List.take_add_one,
      List.flatten_append, hkeys]
    rw [Nat.add_sub_cancel] at hpage
    simp [hpage]

end KeyPages

/-- **Complete virtual-key listing**: entries served page by page give one key each, in order,
after one request for each page; a page that fails gives its error and no keys. -/
theorem listKeys_complete (go : Runtime) (T : LiteLLM) (full : Bool) (P : KeyPages) :
    ((∀ i, 1 ≤ i → i ≤ P.pages.length → P.Serves T full i) →
      Loop.Eventually (listKeys go T full)
        ⟨.ok (P.entries.map (normalizeKey go)), requests full (max 1 P.totalPages)⟩) ∧
    ∀ k e, 1 ≤ k → k ≤ P.pages.length → (∀ i, 1 ≤ i → i < k → P.Serves T full i) →
      T.ask ⟨full, k⟩ = .error e →
      Loop.Eventually (listKeys go T full) ⟨.error e, requests full k⟩ := by
  constructor
  · intro hs
    have hlen := P.length_pages
    obtain ⟨n, hn⟩ : ∃ n, P.pages.length = n + 1 := ⟨P.pages.length - 1, by omega⟩
    have hstop : T.Stops full (n + 1) := hn ▸ (hs _ (by omega) (Nat.le_refl _)).stops
    have hgo : ∀ i, 1 ≤ i → i ≤ n → T.Continues full i := fun i h1 h2 =>
      (hs i h1 (by omega)).continues h1 (by omega)
    have hall : T.entriesUpTo full (n + 1) = P.entries := by
      rw [← hn, KeyPages.entriesUpTo_eq _ (Nat.le_refl _) hs, List.take_length, KeyPages.entries]
    have hlist := listKeys_stops go hgo hstop
    rwa [hall, ← hn, hlen] at hlist
  · intro k e h1 hk hs he
    obtain ⟨n, rfl⟩ : ∃ n, k = n + 1 := ⟨k - 1, by omega⟩
    exact listKeys_fails go
      (fun i hi1 hi2 => (hs i hi1 (by omega)).continues hi1 (by omega)) he

/-- A deployment that answers the requests of a script, each with a status and a page. -/
def scripted (script : List (KeyListRequest × ℕ × KeyListPage)) : LiteLLM where
  roundTrip path :=
    match script.zipIdx.find? fun a => a.1.1.path == path with
    | none => .failed "connection refused"
    | some ((_, status, _), i) => .answered status [UInt8.ofNat i]
  upstreamMessage _ _ := "upstream error"
  unmarshal data :=
    match data with
    | [i] =>
      match script[i.toNat]? with
      | some (_, _, resp) => .ok resp
      | none => .error "unexpected end of JSON input"
    | _ => .error "unexpected end of JSON input"

/-- A key as LiteLLM lists it in full. -/
def fullEntry (token keyAlias : String) (maxBudget : ℚ) : RawMessage :=
  ⟨"{...}", .obj [("token", .str token), ("key_alias", .str keyAlias),
    ("max_budget", .num maxBudget)]⟩

/-- A key as a bare token. -/
def bareEntry (token : String) : RawMessage := ⟨token, .str token⟩

/-- Two pages of keys. -/
def twoKeyPages : KeyPages :=
  ⟨[[fullEntry "k1" "ci" 5, bareEntry "k2"], [bareEntry "k3"]], 2, Or.inr (by simp)⟩

/-- Served, they give three keys after two requests. -/
theorem listKeys_complete_twoPages :
    let go : Runtime := ⟨fun _ => "", fun _ => 0⟩
    let T := scripted [(⟨true, 1⟩, 200, ⟨[fullEntry "k1" "ci" 5, bareEntry "k2"], 1, 2⟩),
      (⟨true, 2⟩, 200, ⟨[bareEntry "k3"], 2, 2⟩)]
    Loop.Eventually (listKeys go T true)
      ⟨.ok ([fullEntry "k1" "ci" 5, bareEntry "k2", bareEntry "k3"].map (normalizeKey go)),
        [⟨true, 1⟩, ⟨true, 2⟩]⟩ := by
  intro go T
  refine (listKeys_complete go T true twoKeyPages).1 fun i h1 h2 => ?_
  have hi : i = 1 ∨ i = 2 := by
    have h2 : i ≤ 2 := h2
    omega
  rcases hi with rfl | rfl <;> exact ⟨_, _, rfl, rfl, rfl, rfl⟩

/-! ## The fallback -/

/-- The deployment answers the first request for full objects. -/
def LiteLLM.AcceptsFullObject (T : LiteLLM) : Prop := ∃ resp, T.ask ⟨true, 1⟩ = .ok resp

/-- A list from a deployment that accepts the parameter is made of full-object answers, and every
object among their entries keeps its metadata. -/
def FallbackOnlyIfRejected (go : Runtime) (T : LiteLLM) : Prop :=
  T.AcceptsFullObject → ∀ fuel keys sent, ListKeys go T fuel = some ⟨.ok keys, sent⟩ →
    (∀ r ∈ sent, r.full = true) ∧
    List.Forall₂ (CarriesMetadata go) (T.entriesUpTo true sent.length) keys

/-- The full listing gets through, with an entry that cannot be decoded. -/
def ListsUnreadable (go : Runtime) (T : LiteLLM) : Prop :=
  ∃ n, (∀ i, 1 ≤ i → i ≤ n → T.Continues true i) ∧ T.Stops true (n + 1) ∧
    ∃ raw ∈ T.entriesUpTo true (n + 1), Unreadable go raw

/-- A page after the first is answered with an upstream error, and the bare listing succeeds. -/
def LateFallback (T : LiteLLM) : Prop :=
  ∃ k, 1 ≤ k ∧ (∀ i, 1 ≤ i → i ≤ k → T.Continues true i) ∧
    (∃ status body, T.roundTrip (KeyListRequest.path ⟨true, k + 1⟩) = .answered status body ∧
      400 ≤ status) ∧
    ∃ n, (∀ i, 1 ≤ i → i ≤ n → T.Continues false i) ∧ T.Stops false (n + 1)

theorem requests_full {full : Bool} {n : ℕ} {r : KeyListRequest} (h : r ∈ requests full n) :
    r.full = full := by
  obtain ⟨i, _, rfl⟩ := List.mem_map.mp h
  rfl

/-- **A late fallback lists bare tokens.** -/
theorem listKeys_of_lateFallback (go : Runtime) {T : LiteLLM} (h : LateFallback T) :
    T.AcceptsFullObject ∧ ∃ fuel keys sent, ListKeys go T fuel = some ⟨.ok keys, sent⟩ ∧
      ∃ r ∈ sent, r.full = false := by
  obtain ⟨k, hk, hgo, hup, n, hgo', hstop⟩ := h
  obtain ⟨e, he, heup⟩ := (doRequest_isUpstream T.upstreamMessage T.unmarshal {} _).mpr hup
  obtain ⟨resp, hask, _⟩ := hgo 1 (Nat.le_refl _) hk
  obtain ⟨m, hm⟩ := listKeys_fails go hgo he
  obtain ⟨m', hm'⟩ := listKeys_stops go hgo' hstop
  refine ⟨⟨resp, hask⟩, max m m', (T.entriesUpTo false (n + 1)).map (normalizeKey go),
    requests true (k + 1) ++ requests false (n + 1), ?_, ⟨false, n + 1⟩, ?_, rfl⟩
  · unfold ListKeys
    simp only [hm _ (Nat.le_max_left _ _), hm' _ (Nat.le_max_right _ _), heup, if_true,
      Option.map_some]
  · exact List.mem_append_right _ (by rw [requests_succ]; simp)

/-- A deployment that accepts the parameter and whose full listing ends in an upstream error has
failed after the first page: with a complete bare listing that is a late fallback. -/
theorem lateFallback_of_listKeys (go : Runtime) {T : LiteLLM} (hacc : T.AcceptsFullObject)
    {fuel : ℕ} {e : Err} {sent sent' : List KeyListRequest} {keys : List Key}
    (hfull : listKeys go T true fuel = some ⟨.error e, sent⟩) (heup : e.isUpstream = true)
    (hbare : listKeys go T false fuel = some ⟨.ok keys, sent'⟩) : LateFallback T := by
  obtain ⟨k, hgo, ⟨_, hr⟩ | ⟨e', he, hr⟩⟩ := listKeys_path go hfull
  · cases hr
  · cases hr
    have hk : 1 ≤ k := by
      by_contra hlt
      have hzero : k = 0 := by omega
      obtain ⟨resp, hask⟩ := hacc
      rw [hzero, hask] at he
      cases he
    have hup := (doRequest_isUpstream T.upstreamMessage T.unmarshal {} _).mp ⟨e, he, heup⟩
    obtain ⟨n, hgo', ⟨hstop, _⟩ | ⟨_, _, hr⟩⟩ := listKeys_path go hbare
    · exact ⟨k, hk, hgo, hup, n, hgo', hstop⟩
    · cases hr

/-- A list returned without falling back holds full-object answers, with their metadata where every
entry can be decoded. -/
theorem listKeys_full_ok (go : Runtime) {T : LiteLLM} {fuel : ℕ} {keys : List Key}
    {sent : List KeyListRequest} (hread : ¬ ListsUnreadable go T)
    (hfull : listKeys go T true fuel = some ⟨.ok keys, sent⟩) :
    (∀ r ∈ sent, r.full = true) ∧
      List.Forall₂ (CarriesMetadata go) (T.entriesUpTo true sent.length) keys := by
  obtain ⟨k, hgo, ⟨hstop, hr⟩ | ⟨_, _, hr⟩⟩ := listKeys_path go hfull
  · cases hr
    refine ⟨fun r hr => requests_full hr, ?_⟩
    rw [requests, List.length_map, List.length_range', List.forall₂_map_right_iff,
      List.forall₂_same]
    intro raw hraw
    rw [normalizeKey_carriesMetadata]
    exact fun hlost => hread ⟨k, hgo, hstop, raw, hraw, hlost⟩
  · cases hr

/-- **A listing with an entry that cannot be decoded loses its metadata.** -/
theorem listKeys_of_listsUnreadable (go : Runtime) {T : LiteLLM} (h : ListsUnreadable go T) :
    ¬ FallbackOnlyIfRejected go T := by
  obtain ⟨n, hgo, hstop, raw, hraw, hlost⟩ := h
  intro hkeep
  have hacc : T.AcceptsFullObject := by
    cases n with
    | zero =>
      obtain ⟨resp, hask, -⟩ := hstop
      exact ⟨resp, hask⟩
    | succ n =>
      obtain ⟨resp, hask, -⟩ := hgo 1 (Nat.le_refl _) (by omega)
      exact ⟨resp, hask⟩
  obtain ⟨m, hm⟩ := listKeys_stops go hgo hstop
  have hlist : ListKeys go T m = some ⟨.ok ((T.entriesUpTo true (n + 1)).map (normalizeKey go)),
      requests true (n + 1)⟩ := by
    unfold ListKeys
    simp only [hm m (Nat.le_refl _)]
  have hkeys := (hkeep hacc m _ _ hlist).2
  rw [requests, List.length_map, List.length_range', List.forall₂_map_right_iff,
    List.forall₂_same] at hkeys
  exact (normalizeKey_carriesMetadata go raw).mp (hkeys raw hraw) hlost

/-- **The fallback**: a deployment that accepts the parameter never has its keys listed without
their metadata, except exactly when a page after the first is answered with an upstream error and
the bare listing then succeeds, or when an entry of the full listing cannot be decoded. -/
theorem fallback_iff (go : Runtime) (T : LiteLLM) :
    FallbackOnlyIfRejected go T ↔ ¬ LateFallback T ∧ ¬ ListsUnreadable go T := by
  constructor
  · intro hkeep
    refine ⟨fun hlate => ?_, fun hlost => listKeys_of_listsUnreadable go hlost hkeep⟩
    obtain ⟨hacc, fuel, keys, sent, hlist, r, hr, hbare⟩ := listKeys_of_lateFallback go hlate
    have hfull := (hkeep hacc fuel keys sent hlist).1 r hr
    rw [hbare] at hfull
    cases hfull
  · rintro ⟨hlate, hread⟩ hacc fuel keys sent hlist
    unfold ListKeys at hlist
    split at hlist
    · cases hlist
    · rename_i hfull
      cases hlist
      exact listKeys_full_ok go hread hfull
    · rename_i e sent' hfull
      split at hlist
      · rename_i heup
        obtain ⟨⟨result, sentBare⟩, hbare, hr⟩ := Option.map_eq_some_iff.mp hlist
        cases hr
        exact absurd (lateFallback_of_listKeys go hacc hfull heup hbare) hlate
      · cases hlist

/-- Two keys in two pages; the second page of the full listing fails, and the bare listing gives
both keys in one: the first loses its alias and its budget.  So does a key that is listed alone with
a budget beyond float64. -/
theorem fallback_counterexample :
    let go : Runtime := ⟨fun _ => "", fun _ => 0⟩
    let T := scripted [(⟨true, 1⟩, 200, ⟨[fullEntry "k1" "ci" 5], 1, 2⟩), (⟨true, 2⟩, 500, {}),
      (⟨false, 1⟩, 200, ⟨[bareEntry "k1", bareEntry "k2"], 1, 1⟩)]
    let U := scripted [(⟨true, 1⟩, 200, ⟨[fullEntry "k1" "ci" (10 ^ 999)], 1, 1⟩)]
    (normalizeKey go (fullEntry "k1" "ci" 5) =
        { Key.bare "k1" with keyAlias := "ci", maxBudget := 5 } ∧
      ListKeys go T 2 = some ⟨.ok [.bare "k1", .bare "k2"], [⟨true, 1⟩, ⟨true, 2⟩, ⟨false, 1⟩]⟩ ∧
      ¬ FallbackOnlyIfRejected go T) ∧
    (ListKeys go U 1 = some ⟨.ok [.bare "\x7b...\x7d"], [⟨true, 1⟩]⟩ ∧
      ¬ FallbackOnlyIfRejected go U) := by
  intro go T U
  have hlist : ListKeys go T 2 =
      some ⟨.ok [.bare "k1", .bare "k2"], [⟨true, 1⟩, ⟨true, 2⟩, ⟨false, 1⟩]⟩ := by decide +kernel
  have hlost : ListKeys go U 1 = some ⟨.ok [.bare "\x7b...\x7d"], [⟨true, 1⟩]⟩ := by decide +kernel
  refine ⟨⟨by decide +kernel, hlist, fun h => ?_⟩, hlost, fun h => ?_⟩
  · have hfull := (h ⟨_, rfl⟩ 2 _ _ hlist).1 ⟨false, 1⟩ (by decide)
    cases hfull
  · have hkeys := (h ⟨_, rfl⟩ 1 _ _ hlost).2
    obtain ⟨hkey, -⟩ := List.forall₂_cons.mp hkeys
    have halias := congrArg Key.keyAlias (hkey _ rfl)
    revert halias
    decide +kernel

end Gateway
