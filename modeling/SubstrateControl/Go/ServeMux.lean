import SubstrateControl.Go.Maps
import SubstrateControl.Kit.Percent

/-!
# Routing of HTTP requests

`http.ServeMux`, for patterns with a method and without a host, whose segments are literals, single
wildcards and a trailing slash.

* `segments` — a path as the mux reads it: split at slashes, then unescaped.
* `matchPath` — the walk through the routing tree: at each node the literal child first, then the
  wildcard, then the trailing slash.  A node is given by the patterns under it.
* `cleanPath`, `findHandler` — which handler or built-in answer a request gets.
* `Matches` — that a pattern matches a path, with the values of its wildcards.
* `matchPath_sound`, `matchPath_complete` — the walk finds a pattern that matches, if there is one.
* `matchMethod_eq` — where patterns overlap only with a trailing slash, the one that matches is
  found.
-/

set_option autoImplicit false

namespace Go

open Kit

namespace ServeMux

/-- `/`. -/
def slash : UInt8 := 0x2F

/-- `.`. -/
def dot : UInt8 := 0x2E

/-! ## Patterns -/

inductive Segment where
  | literal (s : List UInt8)
  | wildcard (name : String)
  /-- A trailing slash, which matches the rest of a path. -/
  | rest
  deriving DecidableEq, Repr

structure Pattern where
  method : String
  segments : List Segment
  deriving DecidableEq, Repr

/-- A pattern and what is registered for it. -/
structure Route (ρ : Type) where
  pattern : Pattern
  handler : ρ
  deriving DecidableEq, Repr

/-- The names of the wildcards, in order. -/
def names : List Segment → List String
  | [] => []
  | .literal _ :: ps => names ps
  | .wildcard name :: ps => name :: names ps
  | .rest :: ps => names ps

/-! ## Paths -/

/-- `pathUnescape`: a segment that cannot be unescaped stays as it is. -/
def unescape (s : List UInt8) : List UInt8 := (Percent.decode s).getD s

/-- The pieces between the slashes, unescaped; an empty last one stands for a trailing slash. -/
def segmentsOf : List (List UInt8) → List (List UInt8)
  | [] => []
  | [last] => [if last = [] then [slash] else unescape last]
  | s :: s' :: rest => unescape s :: segmentsOf (s' :: rest)

/-- The segments of a path that starts with a slash. -/
def segments (path : List UInt8) : List (List UInt8) :=
  if path = [] then [] else segmentsOf (path.tail.splitOn slash)

/-- One element of `path.Clean`, on a rooted path. -/
def cleanElement (out : List (List UInt8)) (s : List UInt8) : List (List UInt8) :=
  if s = [] ∨ s = [dot] then out
  else if s = [dot, dot] then out.dropLast
  else out ++ [s]

/-- `path.Clean` of a rooted path. -/
def clean (path : List UInt8) : List UInt8 :=
  slash :: [slash].intercalate ((path.splitOn slash).foldl cleanElement [])

/-- `cleanPath`: the trailing slash is put back. -/
def cleanPath (path : List UInt8) : List UInt8 :=
  let rooted := if path.head? = some slash then path else slash :: path
  let np := clean rooted
  if rooted.getLast? = some slash ∧ np ≠ [slash] then np ++ [slash] else np

/-! ## The routing tree -/

variable {α ρ : Type}

/-- The patterns under a node, each by what is left of it. -/
abbrev Node (α : Type) := List (List Segment × α)

/-- `findChild(seg)`. -/
def literalChild (seg : List UInt8) (node : Node α) : Node α :=
  node.filterMap fun e =>
    match e.1 with
    | .literal s :: ps => if s = seg then some (ps, e.2) else none
    | _ => none

/-- `emptyChild`, for single wildcards. -/
def wildcardChild (node : Node α) : Node α :=
  node.filterMap fun e =>
    match e.1 with
    | .wildcard _ :: ps => some (ps, e.2)
    | _ => none

/-- `matchPath`: the route of the path and the values of its wildcards. -/
def matchPath : List (List UInt8) → Node α → List (List UInt8) → Option (α × List (List UInt8))
  | [], node, values => (node.find? fun e => e.1 = []).map fun e => (e.2, values)
  | seg :: segs, node, values =>
    (matchPath segs (literalChild seg node) values).or
      ((if seg = [slash] then none else matchPath segs (wildcardChild node) (values ++ [seg])).or
        ((node.find? fun e => e.1 = [.rest]).map fun e => (e.2, values)))

/-- The routes of a method, as the children of its node. -/
def methodNode (routes : List (Route ρ)) (method : String) : Node (Route ρ) :=
  (routes.filter fun r => r.pattern.method = method).map fun r => (r.pattern.segments, r)

def matchMethod (routes : List (Route ρ)) (method : String) (path : List UInt8) :
    Option (Route ρ × List (List UInt8)) :=
  matchPath (segments path) (methodNode routes method) []

/-- `matchMethodAndPath`: GET matches HEAD, too. -/
def matchRequest (routes : List (Route ρ)) (method : String) (path : List UInt8) :
    Option (Route ρ × List (List UInt8)) :=
  (matchMethod routes method path).or
    (if method = "HEAD" then matchMethod routes "GET" path else none)

/-! ## Requests -/

/-- `exactMatch`: a trailing slash matches nothing but itself. -/
def exactMatch (r : Route ρ) (path : List UInt8) : Bool :=
  r.pattern.segments.getLast? != some .rest ||
    path.getLast? == some slash && r.pattern.segments.length == path.count slash

def matchesExactly (routes : List (Route ρ)) (method : String) (path : List UInt8) : Bool :=
  match matchRequest routes method path with
  | some (r, _) => exactMatch r path
  | none => false

/-- `matchOrRedirect` redirects: only the path with a trailing slash has an exact match. -/
def redirectsToSlash (routes : List (Route ρ)) (method : String) (path : List UInt8) : Bool :=
  !matchesExactly routes method path && path.getLast? != some slash &&
    matchesExactly routes method (path ++ [slash])

/-- `matchingMethods`. -/
def matchingMethods (routes : List (Route ρ)) (path : List UInt8) : List String :=
  let paths := if path.getLast? = some slash then [path] else [path, path ++ [slash]]
  let methods := (routes.map fun r => r.pattern.method).filter fun m =>
    paths.any fun p => (matchMethod routes m p).isSome
  sortStrings (insertAll [] (if "GET" ∈ methods then "HEAD" :: methods else methods))

/-- What a request is answered by. -/
inductive Dispatch (ρ : Type) where
  | handler (h : ρ) (pathValues : List (String × List UInt8))
  | redirect (path : List UInt8)
  | methodNotAllowed (allow : List String)
  | notFound
  deriving DecidableEq, Repr

/-- `findHandler`, by the method and the escaped path of a request. -/
def findHandler (routes : List (Route ρ)) (method : String) (escapedPath : List UInt8) :
    Dispatch ρ :=
  let path := if method = "CONNECT" then escapedPath else cleanPath escapedPath
  if redirectsToSlash routes method path then
    .redirect (cleanPath (unescape escapedPath) ++ [slash])
  else if path ≠ escapedPath then .redirect path
  else
    match matchRequest routes method path with
    | some (r, values) => .handler r.handler ((names r.pattern.segments).zip values)
    | none =>
      let allowed := matchingMethods routes path
      if allowed.length > 0 then .methodNotAllowed allowed else .notFound

/-! ## What is matched -/

/-- A pattern matches the segments of a path, its wildcards the values. -/
inductive Matches : List Segment → List (List UInt8) → List (List UInt8) → Prop where
  | nil : Matches [] [] []
  | literal {s : List UInt8} {ps : List Segment} {segs values : List (List UInt8)}
      (h : Matches ps segs values) : Matches (.literal s :: ps) (s :: segs) values
  | wildcard {name : String} {s : List UInt8} {ps : List Segment}
      {segs values : List (List UInt8)} (hs : s ≠ [slash]) (h : Matches ps segs values) :
      Matches (.wildcard name :: ps) (s :: segs) (s :: values)
  | rest {s : List UInt8} {segs : List (List UInt8)} : Matches [.rest] (s :: segs) []

theorem mem_literalChild {seg : List UInt8} {node : Node α} {ps : List Segment} {a : α} :
    (ps, a) ∈ literalChild seg node ↔ (.literal seg :: ps, a) ∈ node := by
  unfold literalChild
  rw [List.mem_filterMap]
  constructor
  · rintro ⟨⟨qs, b⟩, hmem, hsome⟩
    cases qs with
    | nil => cases hsome
    | cons q qs =>
      cases q with
      | literal s =>
        simp only at hsome
        split at hsome
        · rename_i heq
          cases hsome
          rwa [heq] at hmem
        · cases hsome
      | wildcard name => cases hsome
      | rest => cases hsome
  · intro hmem
    exact ⟨_, hmem, by simp⟩

theorem mem_wildcardChild {node : Node α} {ps : List Segment} {a : α} :
    (ps, a) ∈ wildcardChild node ↔ ∃ name, (.wildcard name :: ps, a) ∈ node := by
  unfold wildcardChild
  rw [List.mem_filterMap]
  constructor
  · rintro ⟨⟨qs, b⟩, hmem, hsome⟩
    cases qs with
    | nil => cases hsome
    | cons q qs =>
      cases q with
      | literal s => cases hsome
      | wildcard name =>
        cases hsome
        exact ⟨name, hmem⟩
      | rest => cases hsome
  · rintro ⟨name, hmem⟩
    exact ⟨_, hmem, rfl⟩

theorem find_pattern {node : Node α} {ps : List Segment} {a : α} {values out : List (List UInt8)}
    (h : ((node.find? fun e => e.1 = ps).map fun e => (e.2, values)) = some (a, out)) :
    (ps, a) ∈ node ∧ out = values := by
  obtain ⟨⟨qs, b⟩, hfind, heq⟩ := Option.map_eq_some_iff.mp h
  have hps : qs = ps := by simpa using List.find?_some hfind
  cases heq
  rw [← hps]
  exact ⟨List.mem_of_find?_eq_some hfind, rfl⟩

theorem find_isSome {node : Node α} {ps : List Segment} {a : α} (h : (ps, a) ∈ node) :
    ((node.find? fun e => e.1 = ps).isSome) = true := by
  rw [List.find?_isSome]
  exact ⟨(ps, a), h, by simp⟩

/-- **What the walk finds matches.** -/
theorem matchPath_sound : ∀ (segs : List (List UInt8)) (node : Node α)
    (values out : List (List UInt8)) (a : α), matchPath segs node values = some (a, out) →
      ∃ ps caps, (ps, a) ∈ node ∧ Matches ps segs caps ∧ out = values ++ caps := by
  intro segs
  induction segs with
  | nil =>
    intro node values out a h
    obtain ⟨hmem, rfl⟩ := find_pattern h
    exact ⟨[], [], hmem, .nil, (List.append_nil _).symm⟩
  | cons seg segs ih =>
    intro node values out a h
    rw [matchPath, Option.or_eq_some_iff, Option.or_eq_some_iff] at h
    rcases h with h | ⟨-, h | ⟨-, h⟩⟩
    · obtain ⟨ps, caps, hmem, hmatch, hout⟩ := ih _ _ _ _ h
      exact ⟨.literal seg :: ps, caps, mem_literalChild.mp hmem, .literal hmatch, hout⟩
    · split at h
      · cases h
      · rename_i hseg
        obtain ⟨ps, caps, hmem, hmatch, hout⟩ := ih _ _ _ _ h
        obtain ⟨name, hmem⟩ := mem_wildcardChild.mp hmem
        exact ⟨.wildcard name :: ps, seg :: caps, hmem, .wildcard hseg hmatch, by simp [hout]⟩
    · obtain ⟨hmem, rfl⟩ := find_pattern h
      exact ⟨[.rest], [], hmem, .rest, (List.append_nil _).symm⟩

/-- **The walk finds something where a pattern matches.** -/
theorem matchPath_complete {ps : List Segment} {segs caps : List (List UInt8)}
    (hmatch : Matches ps segs caps) : ∀ (node : Node α) (values : List (List UInt8)) (a : α),
      (ps, a) ∈ node → (matchPath segs node values).isSome = true := by
  induction hmatch with
  | nil =>
    intro node values a hmem
    rw [matchPath, Option.isSome_map]
    exact find_isSome hmem
  | literal h ih =>
    intro node values a hmem
    rw [matchPath, Option.isSome_or, ih _ values a (mem_literalChild.mpr hmem), Bool.true_or]
  | @wildcard name s ps segs caps hs h ih =>
    intro node values a hmem
    rw [matchPath, Option.isSome_or, Option.isSome_or, if_neg hs,
      ih _ (values ++ [s]) a (mem_wildcardChild.mpr ⟨_, hmem⟩), Bool.true_or, Bool.or_true]
  | rest =>
    intro node values a hmem
    rw [matchPath, Option.isSome_or, Option.isSome_or, Option.isSome_map, find_isSome hmem,
      Bool.or_true, Bool.or_true]

/-- A trailing slash is only tried where nothing else matches. -/
theorem matchPath_prefers {p : Segment} {ps : List Segment} {segs caps : List (List UInt8)}
    (hp : p ≠ .rest) (hmatch : Matches (p :: ps) segs caps) {node : Node α}
    {values out : List (List UInt8)} {a b : α} (hmem : (p :: ps, a) ∈ node)
    (h : matchPath segs node values = some (b, out)) :
    ∃ qs caps', qs ≠ [.rest] ∧ (qs, b) ∈ node ∧ Matches qs segs caps' ∧ out = values ++ caps' := by
  cases hmatch with
  | @literal s _ segs _ hmatch =>
    rw [matchPath, Option.or_eq_some_iff] at h
    rcases h with h | ⟨hnone, -⟩
    · obtain ⟨qs, caps', hq, hm, hout⟩ := matchPath_sound _ _ _ _ _ h
      exact ⟨.literal s :: qs, caps', by simp, mem_literalChild.mp hq, .literal hm, hout⟩
    · have hsome := matchPath_complete hmatch _ values _ (mem_literalChild.mpr hmem)
      simp [hnone] at hsome
  | @wildcard name s _ segs caps hs hmatch =>
    rw [matchPath, Option.or_eq_some_iff, Option.or_eq_some_iff, if_neg hs] at h
    rcases h with h | ⟨-, h | ⟨hnone, -⟩⟩
    · obtain ⟨qs, caps', hq, hm, hout⟩ := matchPath_sound _ _ _ _ _ h
      exact ⟨.literal s :: qs, caps', by simp, mem_literalChild.mp hq, .literal hm, hout⟩
    · obtain ⟨qs, caps', hq, hm, hout⟩ := matchPath_sound _ _ _ _ _ h
      obtain ⟨name', hq⟩ := mem_wildcardChild.mp hq
      exact ⟨.wildcard name' :: qs, s :: caps', by simp, hq, .wildcard hs hm, by simp [hout]⟩
    · have hsome := matchPath_complete hmatch _ (values ++ [s]) _ (mem_wildcardChild.mpr ⟨_, hmem⟩)
      simp [hnone] at hsome
  | rest => exact absurd rfl hp

/-- A pattern gives its wildcards one list of values. -/
theorem Matches.unique {ps : List Segment} {segs caps : List (List UInt8)}
    (h : Matches ps segs caps) : ∀ caps', Matches ps segs caps' → caps = caps' := by
  induction h with
  | nil => intro caps' h'; cases h'; rfl
  | literal _ ih => intro caps' h'; cases h' with | literal h' => exact ih _ h'
  | wildcard _ _ ih => intro caps' h'; cases h' with | wildcard _ h' => rw [ih _ h']
  | rest => intro caps' h'; cases h'; rfl

/-- Two patterns may match one path. -/
def overlap : List Segment → List Segment → Bool
  | [], [] => true
  | .rest :: _, _ => true
  | _ :: _, .rest :: _ => true
  | .literal a :: ps, .literal b :: qs => a = b && overlap ps qs
  | .literal _ :: ps, .wildcard _ :: qs => overlap ps qs
  | .wildcard _ :: ps, .literal _ :: qs => overlap ps qs
  | .wildcard _ :: ps, .wildcard _ :: qs => overlap ps qs
  | _, _ => false

theorem overlap_of_matches {ps : List Segment} {segs caps : List (List UInt8)}
    (h : Matches ps segs caps) : ∀ qs caps', Matches qs segs caps' → overlap ps qs = true := by
  induction h with
  | nil => intro qs caps' h'; cases h'; rfl
  | literal _ ih =>
    intro qs caps' h'
    cases h' with
    | literal h' => simp [overlap, ih _ _ h']
    | wildcard _ h' => exact ih _ _ h'
    | rest => rfl
  | wildcard _ _ ih =>
    intro qs caps' h'
    cases h' with
    | literal h' => exact ih _ _ h'
    | wildcard _ h' => exact ih _ _ h'
    | rest => rfl
  | rest => intro qs caps' h'; rfl

/-! ## Tables of routes -/

/-- Routes of one method overlap only where one of them is the trailing slash of the root. -/
def Unambiguous (routes : List (Route ρ)) : Prop :=
  ∀ r ∈ routes, ∀ r' ∈ routes, r.pattern.method = r'.pattern.method →
    overlap r.pattern.segments r'.pattern.segments = true →
      r = r' ∨ r.pattern.segments = [.rest] ∨ r'.pattern.segments = [.rest]

/-- The only trailing slash is that of the root, and no literal is a slash. -/
def OnlyRootSlash (routes : List (Route ρ)) : Prop :=
  ∀ r ∈ routes, .literal [slash] ∉ r.pattern.segments ∧
    (r.pattern.segments.getLast? = some .rest → r.pattern.segments = [.rest])

variable {routes : List (Route ρ)}

theorem mem_methodNode {method : String} {ps : List Segment} {r : Route ρ} :
    (ps, r) ∈ methodNode routes method ↔
      r ∈ routes ∧ r.pattern.method = method ∧ ps = r.pattern.segments := by
  unfold methodNode
  simp only [List.mem_map, List.mem_filter, Prod.mk.injEq, decide_eq_true_eq]
  constructor
  · rintro ⟨r', ⟨hmem, hmethod⟩, hps, rfl⟩
    exact ⟨hmem, hmethod, hps.symm⟩
  · rintro ⟨hmem, hmethod, rfl⟩
    exact ⟨r, ⟨hmem, hmethod⟩, rfl, rfl⟩

/-- A method has a route for a path exactly when one of its patterns matches. -/
theorem matchMethod_isSome_iff {method : String} {path : List UInt8} :
    (matchMethod routes method path).isSome = true ↔
      ∃ r ∈ routes, r.pattern.method = method ∧
        ∃ caps, Matches r.pattern.segments (segments path) caps := by
  constructor
  · intro h
    obtain ⟨⟨r, out⟩, hr⟩ := Option.isSome_iff_exists.mp h
    obtain ⟨ps, caps, hmem, hmatch, -⟩ := matchPath_sound _ _ _ _ _ hr
    obtain ⟨hr, hmethod, rfl⟩ := mem_methodNode.mp hmem
    exact ⟨r, hr, hmethod, caps, hmatch⟩
  · rintro ⟨r, hmem, hmethod, caps, hmatch⟩
    exact matchPath_complete hmatch _ _ r (mem_methodNode.mpr ⟨hmem, hmethod, rfl⟩)

/-- **In an unambiguous table the route that matches is found.** -/
theorem matchMethod_eq (htable : Unambiguous routes) {r : Route ρ} (hr : r ∈ routes)
    {p : Segment} {ps : List Segment} (hsegs : r.pattern.segments = p :: ps) (hp : p ≠ .rest)
    {path : List UInt8} {caps : List (List UInt8)}
    (hmatch : Matches (p :: ps) (segments path) caps) :
    matchMethod routes r.pattern.method path = some (r, caps) := by
  have hmem : (p :: ps, r) ∈ methodNode routes r.pattern.method :=
    mem_methodNode.mpr ⟨hr, rfl, hsegs.symm⟩
  obtain ⟨⟨b, out⟩, hfound⟩ := Option.isSome_iff_exists.mp (matchPath_complete hmatch _ [] r hmem)
  obtain ⟨qs, caps', hqs, hb, hm, hout⟩ := matchPath_prefers hp hmatch hmem hfound
  obtain ⟨hroute, hmethod, rfl⟩ := mem_methodNode.mp hb
  rw [← hsegs] at hmatch
  have hsame : r = b := by
    rcases htable r hr b hroute hmethod.symm (overlap_of_matches hmatch _ _ hm) with h | h | h
    · exact h
    · rw [hsegs] at h
      cases h
      exact absurd rfl hp
    · exact absurd h hqs
  subst hsame
  rw [hmatch.unique _ hm]
  exact hfound.trans (by rw [hout, List.nil_append])

end ServeMux

end Go
