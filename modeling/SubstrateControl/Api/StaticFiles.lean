import SubstrateControl.Api.Respond

/-!
# The static files

What the static handler of `internal/api/server.go` opens and serves.

* `ValidPath` — the paths an `fs.FS` takes; `opened_valid`: no other path is opened but the empty
  one, whatever the request.
* `handleStatic_congr` — hence what a file system has outside of its root does not matter.
* `handleStatic_page` — a file is served as it is, and every other path gets the page.
* `found_static` — a GET for a clean path that is not below `/api` reaches the static files.
* `static_served` — what every request gets of a file system.
-/

set_option autoImplicit false

namespace Api

open Go Kit ServeMux

/-- `fs.ValidPath`, but for the root `.` and for UTF-8. -/
def ValidPath (p : List UInt8) : Prop :=
  ∃ l : List (List UInt8), l ≠ [] ∧ (∀ s ∈ l, Plain s) ∧ p = [slash].intercalate l

/-- The path that is opened for a URL path. -/
def opened (path : List UInt8) : List UInt8 := (clean (slash :: path)).tail

/-- No piece between separators has one. -/
theorem not_mem_of_mem_splitOn {α : Type} [DecidableEq α] {a : α} :
    ∀ {xs : List α}, ∀ s ∈ xs.splitOn a, a ∉ s := by
  intro xs
  induction xs with
  | nil =>
    intro s hs
    rw [List.splitOn_nil, List.mem_singleton] at hs
    simp [hs]
  | cons x xs ih =>
    intro s hs
    rw [List.splitOn_cons_eq_if_modifyHead] at hs
    split at hs
    · rcases List.mem_cons.mp hs with rfl | hs
      · exact List.not_mem_nil
      · exact ih s hs
    · rename_i hx
      cases hsplit : xs.splitOn a with
      | nil => exact absurd hsplit (List.splitOn_ne_nil a xs)
      | cons t ts =>
        rw [hsplit] at hs ih
        rcases List.mem_cons.mp hs with rfl | hs
        · rw [List.mem_cons, not_or]
          exact ⟨fun h => hx (by simp [h]), ih t List.mem_cons_self⟩
        · exact ih s (List.mem_cons_of_mem _ hs)

/-- `path.Clean` keeps no empty elements and no dots. -/
theorem cleanElement_plain {out : List (List UInt8)} {s : List UInt8} (hout : ∀ t ∈ out, Plain t)
    (hs : slash ∉ s) : ∀ t ∈ cleanElement out s, Plain t := by
  unfold cleanElement
  split
  · exact hout
  · rename_i hdot
    split
    · exact fun t ht => hout t (List.dropLast_subset out ht)
    · rename_i hdots
      rw [not_or] at hdot
      intro t ht
      rcases List.mem_append.mp ht with ht | ht
      · exact hout t ht
      · rw [List.mem_singleton.mp ht]
        exact ⟨hdot.1, hdot.2, hdots, hs⟩

theorem foldl_cleanElement_plain {l : List (List UInt8)} (hl : ∀ s ∈ l, slash ∉ s) :
    ∀ out : List (List UInt8), (∀ t ∈ out, Plain t) → ∀ t ∈ l.foldl cleanElement out, Plain t := by
  induction l with
  | nil => exact fun _ hout => hout
  | cons s l ih =>
    intro out hout
    have hstep := cleanElement_plain hout (hl s List.mem_cons_self)
    exact ih (fun t ht => hl t (List.mem_cons_of_mem _ ht)) _ hstep

/-- **Only valid paths are opened**, whatever the path of the URL is. -/
theorem opened_valid (path : List UInt8) : opened path = [] ∨ ValidPath (opened path) := by
  have hplain := foldl_cleanElement_plain
    (l := (slash :: path).splitOn slash) not_mem_of_mem_splitOn [] nofun
  have hopened : opened path =
      [slash].intercalate (((slash :: path).splitOn slash).foldl cleanElement []) := rfl
  rw [hopened]
  generalize ((slash :: path).splitOn slash).foldl cleanElement [] = l at hplain
  cases l with
  | nil => exact .inl rfl
  | cons s l => exact .inr ⟨_, List.cons_ne_nil _ _, hplain, rfl⟩

example : opened (goString "/../assets/../../etc/passwd") = goString "etc/passwd" := by
  decide +kernel

/-! ## What is served -/

/-- There is a file that is no directory. -/
def IsFile (fs : FS) (p : List UInt8) : Prop := ∃ f, fs p = .ok f ∧ f.stat = .ok false

/-- The page can be served. -/
def HasIndex (fs : FS) : Prop :=
  ∃ f isDir, fs (goString "index.html") = .ok f ∧ f.stat = .ok isDir ∧ f.seekable = true

/-- The path is not below `/api`. -/
def OutsideApi (path : List UInt8) : Prop :=
  (goString "/api/").isPrefixOf path = false ∧ path ≠ goString "/api"

theorem handleStatic_opened {path : List UInt8} (h : OutsideApi path) (fs : FS) :
    handleStatic (some fs) path =
      match fs (opened path) with
      | .error _ => serveIndex fs
      | .ok f =>
        match f.stat with
        | .ok false => .file (opened path)
        | _ => serveIndex fs := by
  unfold handleStatic
  rw [if_neg]
  · rfl
  · rw [not_or, h.1]
    exact ⟨Bool.false_ne_true, h.2⟩

/-- **A file is served as it is, every other path gets the page.** -/
theorem handleStatic_page {fs : FS} (hindex : HasIndex fs) {path : List UInt8}
    (h : OutsideApi path) :
    (IsFile fs (opened path) ∧ handleStatic (some fs) path = .file (opened path)) ∨
      (¬ IsFile fs (opened path) ∧
        handleStatic (some fs) path = .file (goString "index.html")) := by
  have hserved : serveIndex fs = .file (goString "index.html") := by
    obtain ⟨f, isDir, hopen, hstat, hseek⟩ := hindex
    unfold serveIndex
    simp only [hopen, hstat, hseek, if_true]
  rw [handleStatic_opened h]
  unfold IsFile
  cases hopen : fs (opened path) with
  | error e => exact .inr ⟨by simp, hserved⟩
  | ok f =>
    cases hstat : f.stat with
    | error e => exact .inr ⟨by simp [hstat], by simp only [hstat]; exact hserved⟩
    | ok isDir =>
      cases isDir with
      | true => exact .inr ⟨by simp [hstat], by simp only [hstat]; exact hserved⟩
      | false => exact .inl ⟨⟨f, rfl, hstat⟩, by simp only [hstat]⟩

/-- **What a file system has outside of its root does not matter.** -/
theorem handleStatic_congr {fs fs' : FS} (h : ∀ p, p = [] ∨ ValidPath p → fs p = fs' p)
    (path : List UInt8) : handleStatic (some fs) path = handleStatic (some fs') path := by
  have hindex : serveIndex fs = serveIndex fs' := by
    unfold serveIndex
    have hpage : ValidPath (goString "index.html") :=
      ⟨[goString "index.html"], by simp, by unfold ServeMux.Plain; decide +kernel, by simp⟩
    rw [h _ (.inr hpage)]
  by_cases hapi : OutsideApi path
  · rw [handleStatic_opened hapi, handleStatic_opened hapi, h _ (opened_valid path), hindex]
  · unfold handleStatic
    rw [if_pos, if_pos]
    all_goals
      unfold OutsideApi at hapi
      rw [not_and_or, Bool.not_eq_false, not_not] at hapi
      exact hapi

/-! ## What reaches the static files -/

/-- All other routes are below `/api`. -/
theorem static_or_api : ∀ r ∈ routes,
    r = route "GET" [.rest] .static ∨ r.pattern.segments.head? = some (lit "api") := by
  decide

/-- **A GET for a clean path that is not below `/api` reaches the static files.** -/
theorem found_static {method : String} (hmethod : method = "GET" ∨ method = "HEAD")
    {path : List UInt8} (hclean : cleanPath path = path) (hne : segments path ≠ [])
    (hapi : (segments path).head? ≠ some (utf8 "api".toList)) :
    findHandler routes method path = .handler .static [] := by
  have hmatches : Matches [.rest] (segments path) [] := by
    cases hsegs : segments path with
    | nil => exact absurd hsegs hne
    | cons s segs => exact .rest
  have hserves : (route "GET" [.rest] Endpoint.static).pattern.Serves method := by
    rcases hmethod with rfl | rfl
    · exact .inl rfl
    · exact .inr ⟨rfl, rfl⟩
  have hconnect : method ≠ "CONNECT" := by
    rcases hmethod with rfl | rfl <;> decide
  have hsome : (matchRequest routes method path).isSome = true :=
    matchRequest_isSome_iff.mpr
      ⟨route "GET" [.rest] .static, by decide, hserves, [], hmatches⟩
  obtain ⟨⟨r, values⟩, hfound⟩ := Option.isSome_iff_exists.mp hsome
  obtain ⟨hr, hmatch⟩ := matchRequest_sound hfound
  rw [findHandler_some routes_onlyRootSlash hconnect hclean hfound]
  rcases static_or_api r hr with rfl | hhead
  · rfl
  · obtain ⟨ps, hps⟩ := List.head?_eq_some_iff.mp hhead
    rw [hps] at hmatch
    generalize segments path = segs at hmatch hapi
    cases hmatch with
    | literal hrest => exact absurd rfl hapi

/-- The decoded path starts with the first segment. -/
theorem path_of_head {escaped path seg : List UInt8} (hrooted : escaped.head? = some slash)
    (hdecodes : Percent.decode escaped = some path)
    (hhead : (segments escaped).head? = some seg) (hseg : seg ≠ [slash]) :
    path = slash :: seg ∨ slash :: seg ++ [slash] <+: path := by
  obtain ⟨rest, rfl⟩ := List.head?_eq_some_iff.mp hrooted
  have hsplit : slash :: rest = joined (rest.splitOn slash) := by
    rw [joined, List.intercalate_splitOn]
  rw [segments, if_neg (List.cons_ne_nil _ _), List.tail_cons] at hhead
  rw [hsplit] at hdecodes
  generalize rest.splitOn slash = pieces at hhead hdecodes
  cases pieces with
  | nil => cases hhead
  | cons s pieces =>
    cases pieces with
    | nil =>
      left
      obtain rfl : (if s = [] then [slash] else unescape s) = seg := Option.some.inj hhead
      split at hseg
      · exact absurd rfl hseg
      · rename_i hne
        rw [if_neg hne]
        rw [joined, List.intercalate_singleton, Percent.decode_cons (by decide)] at hdecodes
        obtain ⟨decoded, hdecoded, rfl⟩ := Option.map_eq_some_iff.mp hdecodes
        rw [unescape, hdecoded, Option.getD_some]
    | cons s' pieces =>
      right
      obtain rfl : unescape s = seg := Option.some.inj hhead
      rw [joined_cons s (List.cons_ne_nil s' pieces), List.cons_append,
        Percent.decode_cons (by decide), joined,
        Percent.decode_append_cons (by decide) (by decide)] at hdecodes
      obtain ⟨decoded, hdecoded, rfl⟩ := Option.map_eq_some_iff.mp hdecodes
      obtain ⟨x, hx, hdecoded⟩ := Option.bind_eq_some_iff.mp hdecoded
      obtain ⟨y, -, rfl⟩ := Option.map_eq_some_iff.mp hdecoded
      rw [unescape, hx, Option.getD_some]
      exact ⟨y, by simp⟩

/-- A path whose first segment is `api` is `/api` or below it. -/
theorem underApi_of_head {req : HttpRequest}
    (hclean : cleanPath req.escapedPath = req.escapedPath)
    (hhead : (segments req.escapedPath).head? = some (utf8 "api".toList)) : req.UnderApi := by
  have hrooted : req.escapedPath.head? = some slash := by
    rw [← hclean]
    exact cleanPath_head _
  exact path_of_head hrooted req.decodes hhead (by decide)

theorem outsideApi_of_not_underApi {req : HttpRequest} (h : ¬ req.UnderApi) :
    OutsideApi req.path := by
  unfold HttpRequest.UnderApi at h
  rw [not_or] at h
  refine ⟨?_, h.1⟩
  rw [← Bool.not_eq_true, List.isPrefixOf_iff_prefix]
  exact h.2

theorem segments_ne_nil {path : List UInt8} (h : path ≠ []) : segments path ≠ [] := by
  rw [segments, if_neg h, ← List.length_pos_iff, segmentsOf_length, List.length_pos_iff]
  exact List.splitOn_ne_nil _ _

/-! ## Whole requests -/

variable {Atespace Actor Worker : Type}

/-- The console with a frontend. -/
def Console.serving (c : Console Atespace Actor Worker) (fs : FS) :
    Console Atespace Actor Worker :=
  { c with staticFS := some fs }

/-- **Only the static handler sees the files.** -/
theorem Console.respond_congr (c : Console Atespace Actor Worker) {fs fs' : FS}
    (h : ∀ p, p = [] ∨ ValidPath p → fs p = fs' p) (req : HttpRequest) :
    (c.serving fs).respond req = (c.serving fs').respond req := by
  unfold Console.respond
  split
  · rename_i e pathValues hfind
    cases e with
    | static => exact congrArg ([·]) (handleStatic_congr h req.path)
    | _ => rfl
  · rfl
  · rfl
  · rfl

/-- A request for a page or for one of its files: the path is clean, and not below `/api`. -/
structure HttpRequest.Browses (req : HttpRequest) : Prop where
  reads : req.method = "GET" ∨ req.method = "HEAD"
  clean : cleanPath req.escapedPath = req.escapedPath
  outside : ¬ req.UnderApi

theorem Console.respond_browses (c : Console Atespace Actor Worker) (fs : FS)
    {req : HttpRequest} (h : req.Browses) :
    (c.serving fs).respond req = [handleStatic (some fs) req.path] := by
  have hne : req.escapedPath ≠ [] := by
    intro hnil
    have hrooted := cleanPath_head req.escapedPath
    rw [h.clean, hnil] at hrooted
    cases hrooted
  have hfound := found_static h.reads h.clean (segments_ne_nil hne)
    fun hhead => h.outside (underApi_of_head h.clean hhead)
  unfold Console.respond
  rw [hfound]
  rfl

/-- **The files that are served.** What is outside of the root of the file system matters to no
request. A path that is browsed is left to the file server if it has a file, and gets the page if
not. -/
theorem Console.static_served (c : Console Atespace Actor Worker) (fs : FS) :
    (∀ fs' : FS, (∀ p, p = [] ∨ ValidPath p → fs p = fs' p) →
      ∀ req, (c.serving fs).respond req = (c.serving fs').respond req) ∧
    (HasIndex fs → ∀ req : HttpRequest, req.Browses →
      (IsFile fs (opened req.path) →
        (c.serving fs).respond req = [.file (opened req.path)]) ∧
      (¬ IsFile fs (opened req.path) →
        (c.serving fs).respond req = [.file (goString "index.html")])) := by
  refine ⟨fun fs' h => c.respond_congr h, fun hindex req h => ?_⟩
  rw [c.respond_browses fs h]
  rcases handleStatic_page hindex (outsideApi_of_not_underApi h.outside) with
    ⟨hfile, hserved⟩ | ⟨hfile, hserved⟩
  · exact ⟨fun _ => congrArg ([·]) hserved, fun hnot => absurd hfile hnot⟩
  · exact ⟨fun his => absurd his hfile, fun _ => congrArg ([·]) hserved⟩

/-- A file system with the page alone. -/
def pageOnly : FS := fun p =>
  if p = goString "index.html" then .ok ⟨.ok false, true⟩ else .error "file does not exist"

/-- The same, with a file next to its root. -/
def pageAndSecret : FS := fun p =>
  if p = goString "../secret" then .ok ⟨.ok false, true⟩ else pageOnly p

/-- A request that asks for the file next to the root. -/
def secretRequest : HttpRequest :=
  { method := "GET"
    escapedPath := goString "/..%2Fsecret"
    path := goString "/../secret"
    decodes := by decide +kernel }

theorem secretRequest_browses : secretRequest.Browses where
  reads := .inl rfl
  clean := by decide +kernel
  outside := by
    unfold HttpRequest.UnderApi
    decide +kernel

theorem pageAndSecret_inside (p : List UInt8) (h : p = [] ∨ ValidPath p) :
    pageOnly p = pageAndSecret p := by
  refine (if_neg ?_).symm
  rintro rfl
  rcases h with h | ⟨l, hne, hplain, hpath⟩
  · exact absurd h (by decide +kernel)
  · have hsplit := List.splitOn_intercalate slash (fun s hs => (hplain s hs).2.2.2) hne
    rw [← hpath] at hsplit
    have hdots : [dot, dot] ∈ l := by
      rw [← hsplit]
      decide +kernel
    exact (hplain _ hdots).2.2.1 rfl

/-- The file next to the root is not served: the page is. -/
theorem static_served_secret :
    (idleConsole.serving pageAndSecret).respond secretRequest =
      [.file (goString "index.html")] := by
  obtain ⟨hinside, hpage⟩ := idleConsole.static_served pageOnly
  rw [← hinside pageAndSecret pageAndSecret_inside]
  refine (hpage ⟨_, false, rfl, rfl, rfl⟩ secretRequest secretRequest_browses).2 ?_
  rintro ⟨f, hopen, -⟩
  have hmissing : pageOnly (opened secretRequest.path) = .error "file does not exist" :=
    if_neg (by decide +kernel)
  rw [hmissing] at hopen
  cases hopen

end Api
