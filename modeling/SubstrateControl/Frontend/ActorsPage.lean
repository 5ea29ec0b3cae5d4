import SubstrateControl.Api.Respond
import SubstrateControl.Frontend.ApiUrls
import SubstrateControl.Js.UrlQuery
import SubstrateControl.Kit.Machine
import SubstrateControl.Substrate.Client

/-!
# The actors page

`frontend/src/pages/ActorsPage.tsx`, `listActors` of `frontend/src/lib/api.ts`, and what the server
makes of its request.

* `listActorsRequest` — the request of `listActors`; `respond_listActors`: it reaches
  `handleListActors` with the atespace that `listActors` was given.
* `listing`, `sentRequest` — the listing of the control plane's actors for a filter of the page, and
  the requests it sends to the control plane.
* `ControlPlane` — a control plane that honours the filter of its requests.
* `ActorsPage`, `ActorsPage.step` — the page with the atespaces it offers, its filter and its cached
  listings.
* `ActorsPage.Sound` — what is asked for and shown is what was chosen.
* `ActorsPage.filter_sound_iff` — it is along a run exactly when no chosen atespace has the name of
  the entry for all of them, or none.
-/

set_option autoImplicit false

namespace Frontend

open Api Go Js Kit ServeMux Substrate

/-! ## The request of `listActors` -/

/-- The query, from its `?` on; the empty text is falsy. -/
def listActorsQuery : Option String → List UInt8
  | none => []
  | some atespace =>
    if atespace = "" then [] else text "?atespace=" ++ encodeURIComponent atespace

/-- What `request` gives to `fetch`. -/
def listActorsUrl (atespace : Option String) : List UInt8 :=
  text "/api" ++ (text "/actors" ++ listActorsQuery atespace)

theorem actorsPath_plain : ∀ b ∈ text "/api/actors", Js.endsPath b = false := by
  decide +kernel

/-- The URL has a query exactly for a truthy atespace. -/
theorem listActorsUrl_cases (atespace : Option String) :
    (atespace.getD "" = "" ∧ listActorsUrl atespace = text "/api/actors") ∨
      listActorsUrl atespace = text "/api/actors" ++
        question :: (text "atespace" ++ equals :: encodeURIComponent (atespace.getD "")) := by
  cases atespace with
  | none => exact .inl ⟨rfl, rfl⟩
  | some atespace =>
    rw [listActorsUrl, listActorsQuery, Option.getD_some]
    by_cases h : atespace = ""
    · rw [if_pos h]
      exact .inl ⟨h, rfl⟩
    · rw [if_neg h]
      exact .inr rfl

theorem urlPath_listActorsUrl (atespace : Option String) :
    urlPath (listActorsUrl atespace) = text "/api/actors" := by
  have hpath : urlPath (text "/api/actors") = text "/api/actors" := by decide +kernel
  rcases listActorsUrl_cases atespace with ⟨-, h⟩ | h
  · rw [h, hpath]
  · rw [h, urlPath_query actorsPath_plain, hpath]

/-- The request of `listActors`. -/
def listActorsRequest (atespace : Option String) : HttpRequest where
  method := "GET"
  escapedPath := urlPath (listActorsUrl atespace)
  path := text "/api/actors"
  decodes := by
    rw [urlPath_listActorsUrl]
    decide +kernel
  query key := textOf (queryGet (urlQuery (listActorsUrl atespace)) (text key))

/-- **The server reads the atespace back**, whatever its name is. -/
theorem query_listActorsRequest (atespace : Option String) :
    (listActorsRequest atespace).query "atespace" = atespace.getD "" := by
  show textOf (queryGet (urlQuery (listActorsUrl atespace)) (text "atespace")) = _
  rcases listActorsUrl_cases atespace with ⟨hempty, h⟩ | h
  · rw [h, urlQuery_path actorsPath_plain, hempty]
    rfl
  · have hkey : IsKey (text "atespace") := by
      unfold IsKey
      decide +kernel
    have hfree : hashSign ∉ text "atespace" ++ equals :: encodeURIComponent (atespace.getD "") := by
      have hkeyFree : hashSign ∉ text "atespace" ∧ hashSign ≠ equals := by decide +kernel
      have hvalueFree := (not_mem_of_isWritten fun b => isWritten_of_mem (atespace.getD "")).1
      simp [hkeyFree, hvalueFree]
    rw [h, urlQuery_query actorsPath_plain hfree, queryGet_encodeURIComponent hkey]
    exact textOf_goString _

/-- **The request reaches `handleListActors`** with the atespace it was made for. -/
theorem respond_listActors {Atespace Actor Worker : Type}
    (c : Console Atespace Actor Worker) (atespace : Option String) :
    c.respond (listActorsRequest atespace) = c.read (.listActors (atespace.getD "")) := by
  have hfound : findHandler routes "GET" (text "/api/actors") = .handler .listActors [] := by
    decide +kernel
  have hdispatched : findHandler routes (listActorsRequest atespace).method
      (listActorsRequest atespace).escapedPath = .handler .listActors [] := by
    rw [← hfound, ← urlPath_listActorsUrl atespace]
    rfl
  rw [Console.respond, hdispatched, ← query_listActorsRequest]
  rfl

/-! ## The listing for a filter -/

section

variable {Actor : Type}

/-- `ALL_ATESPACES`. -/
def allAtespaces : String := "all"

/-- What the page passes to `listActors`. -/
def filteredAtespace (atespaceFilter : String) : Option String :=
  if atespaceFilter = allAtespaces then none else some atespaceFilter

/-- The control plane's `ListActors`. -/
abbrev ListActorsCall (Actor : Type) :=
  ListActorsRequest → Except Status (ListActorsResponse Actor)

/-- What `handleListActors` is given for a filter. -/
def listedAtespace (atespaceFilter : String) : String :=
  (listActorsRequest (filteredAtespace atespaceFilter)).query "atespace"

/-- The listing for a filter. -/
def listing (call : ListActorsCall Actor) (atespaceFilter : String) :
    ℕ → Option (Listed ListActorsRequest Actor) :=
  Substrate.listActors call (listedAtespace atespaceFilter)

/-- The requests of that listing, by their number; it need not end. -/
def sentRequest (call : ListActorsCall Actor) (atespaceFilter : String) :
    ℕ → Option ListActorsRequest :=
  requestAt (actorPaging Actor) call { atespace := listedAtespace atespaceFilter }

theorem listedAtespace_eq (atespaceFilter : String) : listedAtespace atespaceFilter =
    if atespaceFilter = allAtespaces then "" else atespaceFilter := by
  rw [listedAtespace, query_listActorsRequest, filteredAtespace]
  split <;> rfl

/-- **All requests of a listing carry what the first one does.** -/
theorem sentRequest_atespace {call : ListActorsCall Actor} {atespaceFilter : String} {n : ℕ}
    {req : ListActorsRequest} (h : sentRequest call atespaceFilter n = some req) :
    req.atespace = listedAtespace atespaceFilter := by
  have hkeeps : req.atespace =
      ListActorsRequest.atespace { atespace := listedAtespace atespaceFilter } :=
    requestAt_keeps (P := actorPaging Actor) (fun _ _ => rfl) h
  rw [hkeeps]

/-- A control plane, and the atespaces of its actors: a request with an atespace is answered with
actors of that atespace. -/
structure ControlPlane (atespaceOf : Actor → String) where
  call : ListActorsCall Actor
  honours : ∀ req resp, call req = .ok resp → req.atespace ≠ "" →
    ∀ a ∈ resp.actors, atespaceOf a = req.atespace

variable {atespaceOf : Actor → String}

/-- A listing for another filter than the two special values has only actors of that atespace. -/
theorem listing_honoured (server : ControlPlane atespaceOf) {atespaceFilter : String} {fuel : ℕ}
    {l : Listed ListActorsRequest Actor} {actors : List Actor}
    (h : listing server.call atespaceFilter fuel = some l) (hactors : l.result = .ok actors)
    (hall : atespaceFilter ≠ allAtespaces) (hempty : atespaceFilter ≠ "") :
    ∀ a ∈ actors, atespaceOf a = atespaceFilter := by
  have hlisted : listedAtespace atespaceFilter = atespaceFilter := by
    rw [listedAtespace_eq, if_neg hall]
  intro a ha
  obtain ⟨req, resp, hreq, hresp, hmem⟩ := mem_listPages (P := actorPaging Actor)
    (f := ListActorsRequest.atespace) (fun _ _ => rfl) h hactors a ha
  have hreq' : req.atespace = atespaceFilter := hreq.trans hlisted
  rw [← hreq']
  apply server.honours req resp hresp _ a hmem
  rwa [hreq']

/-! ## The page -/

/-- What the query cache holds for one filter. -/
structure ActorsQuery (Actor : Type) where
  data : Option (List Actor) := none
  isError : Bool := false

/-- A fetch that fails keeps the data there are. -/
def ActorsQuery.settle (q : ActorsQuery Actor) : Except Status (List Actor) → ActorsQuery Actor
  | .ok actors => { data := some actors, isError := false }
  | .error _ => { q with isError := true }

/-- `ActorsPage`, with the listings that are cached for each filter. -/
structure ActorsPage (Actor : Type) where
  atespaces : List String := []
  atespaceFilter : String := allAtespaces
  /-- The entry that was chosen last: that of an atespace, or the one for all of them, which is
  chosen at first. -/
  chosen : Option String := none
  actorsQuery : String → ActorsQuery Actor := fun _ => {}

namespace ActorsPage

/-- The rows of the table; there is none before the first data nor after an error. -/
def rows (p : ActorsPage Actor) : List Actor :=
  let q := p.actorsQuery p.atespaceFilter
  if q.isError then [] else q.data.getD []

/-- What happens to the page. -/
inductive Event (atespaceOf : Actor → String) where
  | mounted
  | atespacesFetched (names : List String)
  | allChosen
  | atespaceChosen (name : String)
  /-- The listing for a filter ends within `fuel` requests. -/
  | actorsFetched (atespaceFilter : String) (server : ControlPlane atespaceOf) (fuel : ℕ)

/-- An entry for the atespace is there to be chosen; `offers` are the values that the select
component takes. -/
def Offers (offers : String → Bool) (p : ActorsPage Actor) (name : String) : Prop :=
  name ∈ p.atespaces ∧ offers name = true

instance (offers : String → Bool) (p : ActorsPage Actor) (name : String) :
    Decidable (p.Offers offers name) :=
  inferInstanceAs (Decidable (_ ∧ _))

/-- What a listing for a filter came to is cached. -/
def store (p : ActorsPage Actor) (atespaceFilter : String) (result : Except Status (List Actor)) :
    ActorsPage Actor :=
  let settled := (p.actorsQuery atespaceFilter).settle result
  { p with actorsQuery := Function.update p.actorsQuery atespaceFilter settled }

def step (offers : String → Bool) (p : ActorsPage Actor) : Event atespaceOf → ActorsPage Actor
  | .mounted => { p with atespaceFilter := allAtespaces, chosen := none }
  | .atespacesFetched names => { p with atespaces := names }
  | .allChosen => { p with atespaceFilter := allAtespaces, chosen := none }
  | .atespaceChosen name =>
    if p.Offers offers name then { p with atespaceFilter := name, chosen := some name } else p
  | .actorsFetched atespaceFilter server fuel =>
    match listing server.call atespaceFilter fuel with
    | none => p
    | some l => p.store atespaceFilter l.result

/-- The filter is sound: every request carries the atespace that was chosen, only its actors are
shown, and all are listed only where that was chosen. -/
structure Sound (atespaceOf : Actor → String) (p : ActorsPage Actor) : Prop where
  carried : ∀ name, p.chosen = some name → ∀ (call : ListActorsCall Actor) n req,
    sentRequest call p.atespaceFilter n = some req → req.atespace = name
  shown : ∀ name, p.chosen = some name → ∀ a ∈ p.rows, atespaceOf a = name
  unfiltered : ∀ (call : ListActorsCall Actor) n req,
    sentRequest call p.atespaceFilter n = some req → req.atespace = "" → p.chosen = none

/-- No atespace is chosen that has the value of the other entry, or no name. -/
def Distinct (offers : String → Bool) (p : ActorsPage Actor) : Event atespaceOf → Prop
  | .atespaceChosen name => p.Offers offers name → name ≠ allAtespaces ∧ name ≠ ""
  | _ => True

/-- The filter is what was chosen, and what is cached for the name of an atespace is of it. -/
structure Inv (atespaceOf : Actor → String) (p : ActorsPage Actor) : Prop where
  filter : p.atespaceFilter = p.chosen.getD allAtespaces
  chosen : ∀ name, p.chosen = some name → name ≠ allAtespaces ∧ name ≠ ""
  cached : ∀ name, name ≠ allAtespaces → name ≠ "" →
    ∀ actors, (p.actorsQuery name).data = some actors → ∀ a ∈ actors, atespaceOf a = name

theorem Inv.sound {p : ActorsPage Actor} (h : Inv atespaceOf p) : Sound atespaceOf p where
  carried name hname call n req hreq := by
    rw [sentRequest_atespace hreq, listedAtespace_eq, h.filter, hname, Option.getD_some,
      if_neg (h.chosen name hname).1]
  shown name hname a ha := by
    obtain ⟨hall, hempty⟩ := h.chosen name hname
    have hfilter : p.atespaceFilter = name := by rw [h.filter, hname, Option.getD_some]
    unfold rows at ha
    rw [hfilter] at ha
    cases hdata : (p.actorsQuery name).data with
    | none => simp [hdata] at ha
    | some actors =>
      apply h.cached name hall hempty actors hdata a
      simp only [hdata, Option.getD_some] at ha
      split at ha
      · cases ha
      · exact ha
  unfiltered call n req hreq hempty := by
    cases hname : p.chosen with
    | none => rfl
    | some name =>
      obtain ⟨hall, hne⟩ := h.chosen name hname
      rw [sentRequest_atespace hreq, listedAtespace_eq, h.filter, hname, Option.getD_some,
        if_neg hall] at hempty
      exact absurd hempty hne

theorem inv_init : Inv atespaceOf ({} : ActorsPage Actor) where
  filter := rfl
  chosen _ h := by cases h
  cached _ _ _ _ h := by cases h

theorem Inv.store {p : ActorsPage Actor} (h : Inv atespaceOf p) {atespaceFilter : String}
    {result : Except Status (List Actor)}
    (hresult : atespaceFilter ≠ allAtespaces → atespaceFilter ≠ "" →
      ∀ actors, result = .ok actors → ∀ a ∈ actors, atespaceOf a = atespaceFilter) :
    Inv atespaceOf (p.store atespaceFilter result) := by
  refine ⟨h.filter, h.chosen, fun name hall hempty actors hdata => ?_⟩
  unfold ActorsPage.store at hdata
  by_cases hname : name = atespaceFilter
  · subst hname
    simp only [Function.update_self] at hdata
    cases result with
    | error e => exact h.cached name hall hempty actors hdata
    | ok listed => exact hresult hall hempty actors (congrArg Except.ok (Option.some.inj hdata))
  · simp only [Function.update_of_ne hname] at hdata
    exact h.cached name hall hempty actors hdata

theorem Inv.step {offers : String → Bool} {p : ActorsPage Actor} (e : Event atespaceOf)
    (he : p.Distinct offers e) (h : Inv atespaceOf p) : Inv atespaceOf (p.step offers e) := by
  cases e with
  | mounted => exact ⟨rfl, fun _ hname => (nomatch hname), h.cached⟩
  | atespacesFetched names => exact ⟨h.filter, h.chosen, h.cached⟩
  | allChosen => exact ⟨rfl, fun _ hname => (nomatch hname), h.cached⟩
  | atespaceChosen name =>
    rw [ActorsPage.step]
    split
    · rename_i hoffers
      refine ⟨rfl, fun name' hname => ?_, h.cached⟩
      cases hname
      exact he hoffers
    · exact h
  | actorsFetched atespaceFilter server fuel =>
    rw [ActorsPage.step]
    split
    · exact h
    · rename_i l hl
      exact h.store fun hall hempty actors hresult =>
        listing_honoured server hl hresult hall hempty

/-- **An atespace with a special name is listed without a filter.** -/
theorem not_sound_of_not_distinct {offers : String → Bool} {p : ActorsPage Actor}
    (e : Event atespaceOf) (he : ¬ p.Distinct offers e) :
    ¬ Sound atespaceOf (p.step offers e) := by
  cases e with
  | atespaceChosen name =>
    obtain ⟨hoffers, hspecial⟩ := Classical.not_imp.mp he
    have hempty : listedAtespace name = "" := by
      rw [listedAtespace_eq]
      split
      · rfl
      · rename_i hall
        by_contra hne
        exact hspecial ⟨hall, hne⟩
    rw [step, if_pos hoffers]
    intro hsound
    have hnone := hsound.unfiltered (fun _ => .ok ⟨[], ""⟩) 0 _ rfl hempty
    cases hnone
  | mounted | atespacesFetched | allChosen | actorsFetched => exact absurd trivial he

/-- **The filter is sound all along a run exactly when** no atespace is chosen that is called
`all`, nor one without a name.  The request for a filter reaches `handleListActors` with the
atespace that the listing is for. -/
theorem filter_sound_iff (offers : String → Bool) (es : List (Event atespaceOf)) :
    (Machine.Always (Sound atespaceOf) (step offers) {} es ↔
      Machine.Along (Distinct offers) (step offers) {} es) ∧
    ∀ {Atespace Worker : Type} (c : Console Atespace Actor Worker) (atespaceFilter : String),
      c.respond (listActorsRequest (filteredAtespace atespaceFilter)) =
        c.read (.listActors (listedAtespace atespaceFilter)) := by
  refine ⟨?_, fun c atespaceFilter => ?_⟩
  swap
  · rw [respond_listActors, listedAtespace, query_listActorsRequest]
  have hsafe : ∀ p : ActorsPage Actor, Inv atespaceOf p → Sound atespaceOf p := fun _ h => h.sound
  have hstep : ∀ (p : ActorsPage Actor) (e : Event atespaceOf), p.Distinct offers e →
      Inv atespaceOf p → Inv atespaceOf (p.step offers e) := fun _ e he h => h.step e he
  have hbreak : ∀ (p : ActorsPage Actor) (e : Event atespaceOf), Inv atespaceOf p →
      ¬ p.Distinct offers e → ¬ Sound atespaceOf (p.step offers e) :=
    fun _ e _ he => not_sound_of_not_distinct e he
  exact Machine.always_iff_along hsafe hstep hbreak es {} inv_init

/-- Two atespaces, one of them called `all`, with an actor in the other one. -/
def twoAtespaces : ControlPlane (Prod.fst : String × String → String) where
  call req := .ok ⟨[("prod", "db")].filter fun a => req.atespace = "" || a.1 = req.atespace, ""⟩
  honours req resp hresp hempty a ha := by
    cases hresp
    simpa [hempty] using (List.mem_filter.mp ha).2

/-- With the atespace called `all` chosen, the listing is sent without a filter, and the actor of
the other atespace is shown. -/
theorem filter_sound_counterexample :
    let es : List (Event Prod.fst) := [.atespacesFetched ["all", "prod"], .atespaceChosen "all",
      .actorsFetched "all" twoAtespaces 1]
    let p := Machine.run (step (· != "")) {} es
    p.chosen = some "all" ∧ sentRequest twoAtespaces.call p.atespaceFilter 0 = some {} ∧
      p.rows = [("prod", "db")] ∧ ¬ Machine.Always (Sound Prod.fst) (step (· != "")) {} es := by
  refine ⟨by decide +kernel, by decide +kernel, by decide +kernel, ?_⟩
  rintro ⟨-, -, hsound, -⟩
  revert hsound
  apply not_sound_of_not_distinct
  exact fun hdistinct => (hdistinct (by decide)).1 rfl

end ActorsPage

end

end Frontend
