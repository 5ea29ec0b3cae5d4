import SubstrateControl.Go.ServeMux

/-!
# Which requests reach a handler

About `findHandler` of the mux, for tables in which only the root ends in a slash.

* `redirectsToSlash_eq_false` — no path is redirected to itself with a slash.
* `joined` — the path with given segments; `cleanPath_joined`, `segments_joined`: plain segments are
  clean and are read back.
* `getLast_of_cleanPath` — in a clean path only the last segment can be empty.
* `findHandler_handler` — a handler is reached by a clean path that its pattern matches.
* `findHandler_isError_iff` — the mux answers with an error of its own exactly when the path is kept
  and no route serves it.
-/

set_option autoImplicit false

namespace Go

namespace ServeMux

variable {ρ : Type} {routes : List (Route ρ)}

/-! ## Redirects -/

/-- Only a trailing slash and a literal slash match a path that ends in a slash. -/
theorem Matches.ends_slash {ps : List Segment} {segs caps : List (List UInt8)}
    (h : Matches ps segs caps) (hlast : segs.getLast? = some [slash]) :
    ps.getLast? = some .rest ∨ .literal [slash] ∈ ps := by
  induction h with
  | nil => cases hlast
  | @literal s ps segs caps h ih =>
    cases h with
    | nil =>
      obtain rfl : s = [slash] := by simpa using hlast
      exact .inr (by simp)
    | _ => exact (ih (by simpa using hlast)).imp (by simp) (List.mem_cons_of_mem _)
  | @wildcard name s ps segs caps hs h ih =>
    cases h with
    | nil => exact absurd (by simpa using hlast) hs
    | _ => exact (ih (by simpa using hlast)).imp (by simp) (List.mem_cons_of_mem _)
  | rest => exact .inl rfl

theorem segmentsOf_append_nil : ∀ l : List (List UInt8),
    segmentsOf (l ++ [[]]) = l.map unescape ++ [[slash]]
  | [] => rfl
  | [s] => rfl
  | s :: s' :: l => by
    have ih := segmentsOf_append_nil (s' :: l)
    rw [List.cons_append] at ih
    rw [List.cons_append, List.cons_append, segmentsOf, ih]
    rfl

/-- A path that ends in a slash has that as its last segment. -/
theorem segments_append_slash (b : UInt8) (path : List UInt8) :
    (segments (b :: path ++ [slash])).getLast? = some [slash] := by
  have hsplit : (path ++ [slash]).splitOn slash = path.splitOn slash ++ [[]] := by
    rw [List.splitOn_append_cons_self, List.splitOn_nil]
  rw [segments, if_neg (by simp), List.cons_append, List.tail_cons, hsplit,
    segmentsOf_append_nil]
  simp

/-- What is matched for a request matches. -/
theorem matchRequest_sound {method : String} {path : List UInt8} {r : Route ρ}
    {out : List (List UInt8)} (h : matchRequest routes method path = some (r, out)) :
    r ∈ routes ∧ Matches r.pattern.segments (segments path) out := by
  have hmethod : ∀ m, matchMethod routes m path = some (r, out) →
      r ∈ routes ∧ Matches r.pattern.segments (segments path) out := by
    intro m hm
    obtain ⟨ps, caps, hmem, hmatch, hout⟩ := matchPath_sound _ _ _ _ _ hm
    obtain ⟨hr, -, rfl⟩ := mem_methodNode.mp hmem
    rw [List.nil_append] at hout
    rw [hout]
    exact ⟨hr, hmatch⟩
  rw [matchRequest, Option.or_eq_some_iff] at h
  rcases h with h | ⟨-, h⟩
  · exact hmethod _ h
  · split at h
    · exact hmethod _ h
    · cases h

/-- **No path but the root is redirected to itself with a slash.** -/
theorem redirectsToSlash_eq_false (htable : OnlyRootSlash routes) (method : String)
    {path : List UInt8} (hpath : path.head? = some slash) :
    redirectsToSlash routes method path = false := by
  obtain ⟨rest, rfl⟩ : ∃ rest, path = slash :: rest := by
    cases path with
    | nil => cases hpath
    | cons b rest =>
      obtain rfl : b = slash := by simpa using hpath
      exact ⟨rest, rfl⟩
  rw [← Bool.not_eq_true]
  intro h
  simp only [redirectsToSlash, Bool.and_eq_true] at h
  have hexact := h.2
  unfold matchesExactly at hexact
  split at hexact
  · rename_i r out hmatch
    obtain ⟨hr, hm⟩ := matchRequest_sound hmatch
    obtain ⟨hliteral, hroot⟩ := htable r hr
    have hlast : r.pattern.segments.getLast? = some .rest :=
      (hm.ends_slash (segments_append_slash slash rest)).resolve_right hliteral
    -- the root matches more than a slash here
    have hcount : (slash :: rest ++ [slash]).count slash ≥ 2 := by
      rw [List.count_append, List.count_cons_self]
      simp
    simp only [exactMatch, hroot hlast, Bool.or_eq_true, Bool.and_eq_true] at hexact
    rcases hexact with hne | ⟨-, hlen⟩
    · simp at hne
    · rw [beq_iff_eq] at hlen
      simp only [List.length_singleton] at hlen
      omega
  · cases hexact

theorem cleanPath_head (path : List UInt8) : (cleanPath path).head? = some slash := by
  unfold cleanPath
  generalize (if path.head? = some slash then path else slash :: path) = rooted
  simp [clean, apply_ite List.head?]

/-! ## Clean paths -/

/-- An element that `path.Clean` leaves alone. -/
def Plain (s : List UInt8) : Prop := s ≠ [] ∧ s ≠ [dot] ∧ s ≠ [dot, dot] ∧ slash ∉ s

theorem foldl_cleanElement : ∀ (l out : List (List UInt8)), (∀ s ∈ l, Plain s) →
    l.foldl cleanElement out = out ++ l
  | [], out, _ => (List.append_nil _).symm
  | s :: l, out, h => by
    obtain ⟨hne, hdot, hdots, -⟩ := h s (by simp)
    have hstep : cleanElement out s = out ++ [s] := by
      simp [cleanElement, hne, hdot, hdots]
    rw [List.foldl_cons, hstep, foldl_cleanElement l _ fun t ht => h t (List.mem_cons_of_mem _ ht),
      List.append_assoc]
    rfl

/-- The path with the segments `l`. -/
def joined (l : List (List UInt8)) : List UInt8 := slash :: [slash].intercalate l

theorem joined_cons (s : List UInt8) {l : List (List UInt8)} (h : l ≠ []) :
    joined (s :: l) = slash :: s ++ joined l := by
  cases l with
  | nil => exact absurd rfl h
  | cons t l => simp [joined, List.intercalate_cons_cons]

theorem joined_append_slash : ∀ {l : List (List UInt8)}, l ≠ [] →
    joined l ++ [slash] = joined (l ++ [[]])
  | [], h => absurd rfl h
  | [s], _ => by simp [joined, List.intercalate_cons_cons]
  | s :: t :: l, _ => by
    rw [joined_cons s (by simp), List.append_assoc, joined_append_slash (l := t :: l) (by simp)]
    exact (joined_cons s (by simp)).symm

/-- A path has the bytes of its segments and slashes. -/
theorem forall_mem_joined {P : UInt8 → Prop} (hslash : P slash) :
    ∀ {l : List (List UInt8)}, (∀ s ∈ l, ∀ b ∈ s, P b) → ∀ b ∈ joined l, P b
  | [], _, b, hb => by rwa [List.mem_singleton.mp hb]
  | [s], h, b, hb => by
    rcases List.mem_cons.mp hb with rfl | hb
    · exact hslash
    · exact h s (by simp) b (by simpa using hb)
  | s :: t :: l, h, b, hb => by
    rw [joined_cons s (by simp)] at hb
    rcases List.mem_append.mp hb with hb | hb
    · rcases List.mem_cons.mp hb with rfl | hb
      · exact hslash
      · exact h s (by simp) b hb
    · exact forall_mem_joined hslash (fun u hu => h u (List.mem_cons_of_mem _ hu)) b hb

theorem joined_getLast : ∀ {l : List (List UInt8)}, l ≠ [] → (∀ s ∈ l, Plain s) →
    (joined l).getLast? ≠ some slash
  | [], h, _ => absurd rfl h
  | [s], _, h => by
    obtain ⟨hne, -, -, hslash⟩ := h s (by simp)
    obtain ⟨t, b, rfl⟩ := List.eq_nil_or_concat s |>.resolve_left hne
    have hform : joined [t.concat b] = slash :: t ++ [b] := by simp [joined]
    rw [hform, List.getLast?_concat]
    intro hb
    exact hslash (by simp [Option.some.inj hb])
  | s :: t :: l, _, h => by
    rw [joined_cons s (by simp), List.getLast?_append]
    have ih := joined_getLast (l := t :: l) (by simp) fun u hu => h u (List.mem_cons_of_mem _ hu)
    cases hlast : (joined (t :: l)).getLast? with
    | none => exact absurd (List.getLast?_eq_none_iff.mp hlast) (List.cons_ne_nil _ _)
    | some b =>
      rw [hlast] at ih
      simpa using ih

theorem splitOn_joined {l : List (List UInt8)} (hne : l ≠ []) (hslash : ∀ s ∈ l, slash ∉ s) :
    (joined l).splitOn slash = [] :: l := by
  unfold joined
  rw [List.splitOn_cons_eq_if_modifyHead, if_pos (by simp),
    List.splitOn_intercalate slash hslash hne]

/-- **A path of plain segments is clean.** -/
theorem cleanPath_joined {l : List (List UInt8)} (hne : l ≠ []) (h : ∀ s ∈ l, Plain s) :
    cleanPath (joined l) = joined l := by
  have hsplit := splitOn_joined hne fun s hs => (h s hs).2.2.2
  have hclean : clean (joined l) = joined l := by
    rw [clean, hsplit, List.foldl_cons]
    show slash :: [slash].intercalate (l.foldl cleanElement []) = _
    rw [foldl_cleanElement l [] h, List.nil_append]
    rfl
  have hhead : (joined l).head? = some slash := rfl
  unfold cleanPath
  simp only [if_pos hhead, hclean]
  exact if_neg fun hlast => joined_getLast hne h hlast.1

theorem segmentsOf_length : ∀ l : List (List UInt8), (segmentsOf l).length = l.length
  | [] => rfl
  | [_] => rfl
  | _ :: t :: l => congrArg (· + 1) (segmentsOf_length (t :: l))

section

variable {l : List (List UInt8)} (hne : l ≠ []) (hslash : ∀ s ∈ l, slash ∉ s)

include hne hslash

theorem segments_joined_eq : segments (joined l) = segmentsOf l := by
  have hsplit : (joined l).tail.splitOn slash = l := List.splitOn_intercalate slash hslash hne
  rw [segments, if_neg (by simp [joined]), hsplit]

theorem segments_joined_length : (segments (joined l)).length = l.length := by
  rw [segments_joined_eq hne hslash, segmentsOf_length]

/-- An empty last segment is a trailing slash. -/
theorem segments_joined_getLast (hlast : l.getLast? = some []) :
    (segments (joined l)).getLast? = some [slash] := by
  obtain ⟨init, rfl⟩ : ∃ init, l = init ++ [[]] := by
    obtain ⟨init, last, rfl⟩ := List.eq_nil_or_concat l |>.resolve_left hne
    rw [List.concat_eq_append, List.getLast?_concat] at hlast
    exact ⟨init, by rw [List.concat_eq_append, Option.some.inj hlast]⟩
  rw [segments_joined_eq hne hslash, segmentsOf_append_nil, List.getLast?_concat]

/-- Paths are the same only where their segments are. -/
theorem joined_inj {l' : List (List UInt8)} (hne' : l' ≠ []) (hslash' : ∀ s ∈ l', slash ∉ s)
    (h : joined l = joined l') : l = l' := by
  have hsplit := congrArg (fun p : List UInt8 => p.tail.splitOn slash) h
  simp only [joined, List.tail_cons] at hsplit
  rwa [List.splitOn_intercalate slash hslash hne,
    List.splitOn_intercalate slash hslash' hne'] at hsplit

end

/-- Plain segments are read back unescaped. -/
theorem segments_joined {l : List (List UInt8)} (hne : l ≠ []) (h : ∀ s ∈ l, Plain s) :
    segments (joined l) = l.map unescape := by
  have hsegs : ∀ l : List (List UInt8), (∀ s ∈ l, Plain s) → segmentsOf l = l.map unescape := by
    intro l
    induction l with
    | nil => intro _; rfl
    | cons s l ih =>
      intro h
      cases l with
      | nil => simp [segmentsOf, (h s (by simp)).1]
      | cons t l =>
        rw [segmentsOf, ih fun u hu => h u (List.mem_cons_of_mem _ hu)]
        rfl
  rw [segments_joined_eq hne fun s hs => (h s hs).2.2.2, hsegs l h]

theorem mem_foldl_cleanElement {s : List UInt8} : ∀ l out : List (List UInt8),
    s ∈ l.foldl cleanElement out → s ∈ out ∨ s ∈ l ∧ s ≠ []
  | [], _, h => .inl h
  | t :: l, out, h => by
    rcases mem_foldl_cleanElement l _ h with h | ⟨h, hs⟩
    · unfold cleanElement at h
      split at h
      · exact .inl h
      · rename_i hkept
        split at h
        · exact .inl (List.dropLast_subset _ h)
        · rcases List.mem_append.mp h with h | h
          · exact .inl h
          · rw [List.mem_singleton.mp h]
            exact .inr ⟨by simp, fun ht => hkept (.inl ht)⟩
    · exact .inr ⟨List.mem_cons_of_mem _ h, hs⟩

/-- **In a clean path only the last segment can be empty.** -/
theorem getLast_of_cleanPath {l : List (List UInt8)} (hne : l ≠ []) (hslash : ∀ s ∈ l, slash ∉ s)
    (hclean : cleanPath (joined l) = joined l) (hempty : [] ∈ l) : l.getLast? = some [] := by
  have hsplit := splitOn_joined hne hslash
  obtain ⟨out, hout⟩ : ∃ out, ([] :: l).foldl cleanElement [] = out := ⟨_, rfl⟩
  have hmem : ∀ s ∈ out, slash ∉ s ∧ s ≠ [] := by
    intro s hs
    rw [← hout] at hs
    rcases mem_foldl_cleanElement _ _ hs with h | ⟨h, hs⟩
    · cases h
    · exact ⟨hslash s ((List.mem_cons.mp h).resolve_left hs), hs⟩
  have hclean' : clean (joined l) = joined out := by
    rw [clean, hsplit, hout]
    rfl
  have hhead : (joined l).head? = some slash := rfl
  unfold cleanPath at hclean
  simp only [if_pos hhead, hclean'] at hclean
  split at hclean
  · -- the trailing slash is put back behind the segments that are left
    rename_i hlast
    have hne' : out ≠ [] := by
      rintro rfl
      exact hlast.2 rfl
    rw [joined_append_slash hne'] at hclean
    have hl := joined_inj hne hslash (by simp) (fun s hs => ?_) hclean.symm
    · rw [hl, List.getLast?_concat]
    · rcases List.mem_append.mp hs with hs | hs
      · exact (hmem s hs).1
      · simp [List.mem_singleton.mp hs]
  · rcases eq_or_ne out [] with rfl | hne'
    · have hroot : joined l = joined [[]] := hclean.symm
      rw [joined_inj hne hslash (by simp) (by simp) hroot]
      rfl
    · have hl := joined_inj hne hslash hne' (fun s hs => (hmem s hs).1) hclean.symm
      rw [hl] at hempty
      exact absurd rfl (hmem [] hempty).2

/-- A pattern without a trailing slash matches paths of its length. -/
theorem Matches.length_eq {ps : List Segment} {segs caps : List (List UInt8)}
    (h : Matches ps segs caps) (hrest : .rest ∉ ps) : segs.length = ps.length := by
  induction h with
  | nil => rfl
  | literal h ih => exact congrArg (· + 1) (ih fun hmem => hrest (List.mem_cons_of_mem _ hmem))
  | wildcard hs h ih => exact congrArg (· + 1) (ih fun hmem => hrest (List.mem_cons_of_mem _ hmem))
  | rest => simp at hrest

/-! ## What the mux does with a request -/

/-- The mux answers with an error of its own. -/
def Dispatch.isError : Dispatch ρ → Bool
  | .methodNotAllowed _ => true
  | .notFound => true
  | _ => false

theorem isError_allowed (allowed : List String) :
    (if allowed.length > 0 then (.methodNotAllowed allowed : Dispatch ρ)
      else .notFound).isError = true := by
  split <;> rfl

section

variable (htable : OnlyRootSlash routes) {method : String} (hmethod : method ≠ "CONNECT")
  {path : List UInt8}

include htable hmethod

theorem findHandler_redirect (hclean : cleanPath path ≠ path) :
    findHandler routes method path = .redirect (cleanPath path) := by
  unfold findHandler
  simp only [if_neg hmethod, redirectsToSlash_eq_false htable method (cleanPath_head path),
    Bool.false_eq_true, if_false]
  exact if_pos hclean

/-- A clean path is matched as it is. -/
theorem findHandler_clean (hclean : cleanPath path = path) :
    findHandler routes method path =
      match matchRequest routes method path with
      | some (r, values) => .handler r.handler ((names r.pattern.segments).zip values)
      | none =>
        let allowed := matchingMethods routes path
        if allowed.length > 0 then .methodNotAllowed allowed else .notFound := by
  have hslash := redirectsToSlash_eq_false htable method (cleanPath_head path)
  rw [hclean] at hslash
  unfold findHandler
  cases hmatch : matchRequest routes method path <;>
    simp only [if_neg hmethod, hclean, hslash, hmatch, Bool.false_eq_true, if_false, ne_eq,
      not_true_eq_false]

theorem findHandler_some (hclean : cleanPath path = path) {r : Route ρ}
    {values : List (List UInt8)} (hmatch : matchRequest routes method path = some (r, values)) :
    findHandler routes method path =
      .handler r.handler ((names r.pattern.segments).zip values) := by
  rw [findHandler_clean htable hmethod hclean, hmatch]

theorem findHandler_none (hclean : cleanPath path = path)
    (hmatch : matchRequest routes method path = none) :
    (findHandler routes method path).isError = true := by
  rw [findHandler_clean htable hmethod hclean, hmatch]
  exact isError_allowed _

/-- **A handler is reached by a clean path that its pattern matches.** -/
theorem findHandler_handler {h : ρ} {pathValues : List (String × List UInt8)}
    (hfind : findHandler routes method path = .handler h pathValues) :
    cleanPath path = path ∧ ∃ r ∈ routes, ∃ values,
      Matches r.pattern.segments (segments path) values ∧
      r.handler = h ∧ pathValues = (names r.pattern.segments).zip values := by
  by_cases hclean : cleanPath path = path
  · refine ⟨hclean, ?_⟩
    cases hmatch : matchRequest routes method path with
    | none =>
      have herror := findHandler_none htable hmethod hclean hmatch
      rw [hfind] at herror
      cases herror
    | some found =>
      obtain ⟨r, values⟩ := found
      obtain ⟨hr, hm⟩ := matchRequest_sound hmatch
      rw [findHandler_some htable hmethod hclean hmatch] at hfind
      cases hfind
      exact ⟨r, hr, values, hm, rfl, rfl⟩
  · rw [findHandler_redirect htable hmethod hclean] at hfind
    cases hfind

end

/-! ## Requests that reach none -/

/-- A route is there for a method: under it, or under GET for HEAD. -/
def Pattern.Serves (p : Pattern) (method : String) : Prop :=
  p.method = method ∨ method = "HEAD" ∧ p.method = "GET"

theorem matchRequest_isSome_iff {method : String} {path : List UInt8} :
    (matchRequest routes method path).isSome = true ↔
      ∃ r ∈ routes, r.pattern.Serves method ∧
        ∃ values, Matches r.pattern.segments (segments path) values := by
  unfold matchRequest
  rw [Option.isSome_or, Bool.or_eq_true, matchMethod_isSome_iff]
  constructor
  · rintro (⟨r, hr, hmethod, hmatch⟩ | h)
    · exact ⟨r, hr, .inl hmethod, hmatch⟩
    · split at h
      · rename_i hhead
        obtain ⟨r, hr, hmethod, hmatch⟩ := matchMethod_isSome_iff.mp h
        exact ⟨r, hr, .inr ⟨hhead, hmethod⟩, hmatch⟩
      · cases h
  · rintro ⟨r, hr, hmethod | ⟨hhead, hmethod⟩, hmatch⟩
    · exact .inl ⟨r, hr, hmethod, hmatch⟩
    · rw [if_pos hhead]
      exact .inr (matchMethod_isSome_iff.mpr ⟨r, hr, hmethod, hmatch⟩)

/-- Without a route for CONNECT such a request is answered with an error. -/
theorem findHandler_connect (hconnect : ∀ r ∈ routes, r.pattern.method ≠ "CONNECT")
    (path : List UInt8) :
    matchRequest routes "CONNECT" path = none ∧
      (findHandler routes "CONNECT" path).isError = true := by
  have hnone : ∀ path, matchRequest routes "CONNECT" path = none := by
    intro path
    rw [← Option.isNone_iff_eq_none, ← Option.isSome_eq_false_iff, ← Bool.not_eq_true,
      matchRequest_isSome_iff]
    rintro ⟨r, hr, hserves | ⟨hhead, -⟩, -⟩
    · exact hconnect r hr hserves
    · exact absurd hhead (by decide)
  have hslash : redirectsToSlash routes "CONNECT" path = false := by
    simp [redirectsToSlash, matchesExactly, hnone]
  refine ⟨hnone path, ?_⟩
  unfold findHandler
  simp only [hslash, hnone, if_true, Bool.false_eq_true, if_false, ne_eq, not_true_eq_false]
  exact isError_allowed _

/-- **The mux answers with an error of its own exactly when the path is kept and no route serves
it.** -/
theorem findHandler_isError_iff (htable : OnlyRootSlash routes)
    (hconnect : ∀ r ∈ routes, r.pattern.method ≠ "CONNECT") {method : String} {path : List UInt8} :
    (findHandler routes method path).isError = true ↔
      (method = "CONNECT" ∨ cleanPath path = path) ∧
        ¬ ∃ r ∈ routes, r.pattern.Serves method ∧
          ∃ values, Matches r.pattern.segments (segments path) values := by
  rw [← matchRequest_isSome_iff, Bool.not_eq_true, Option.isSome_eq_false_iff,
    Option.isNone_iff_eq_none]
  by_cases hmethod : method = "CONNECT"
  · obtain ⟨hnone, herror⟩ := findHandler_connect hconnect path
    rw [hmethod]
    exact iff_of_true herror ⟨.inl rfl, hnone⟩
  · by_cases hclean : cleanPath path = path
    · cases hmatch : matchRequest routes method path with
      | none =>
        exact iff_of_true (findHandler_none htable hmethod hclean hmatch) ⟨.inr hclean, rfl⟩
      | some found =>
        rw [findHandler_some htable hmethod hclean hmatch]
        simp [Dispatch.isError]
    · rw [findHandler_redirect htable hmethod hclean]
      simp [Dispatch.isError, hmethod, hclean]

end ServeMux

end Go
