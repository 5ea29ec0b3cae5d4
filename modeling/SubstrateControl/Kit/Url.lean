import Mathlib.Data.List.TakeWhile

/-!
# Splitting a URL

The generic syntax of RFC 3986, `scheme "://" authority path [ "?" query ] [ "#" fragment ]`:

* `Url`, `parse` — the authority ends at the first `/`, `?` or `#` after `://`, the path at the
  first `?` or `#`, the query at the first `#`.
* `Url.render` — the text of a URL.
* `WellFormed` — each component is free of the delimiters that end it.
* `render_parse`, `parse_wellFormed`, `parse_render` — parsing and writing are inverse, and what
  is parsed is well formed.
* `parse_append_slash` — what is written behind a URL without query and fragment, and starts with
  a slash, goes to its path: scheme and authority stay.
* `parse_dropSlash` — cutting a last slash leaves them, too.
-/

set_option autoImplicit false

namespace Kit

/-- The five components; a missing query (fragment) is none, an empty one is not. -/
structure Url where
  scheme : List Char
  authority : List Char
  path : List Char
  query : Option (List Char)
  fragment : Option (List Char)
  deriving DecidableEq, Repr

namespace Url

/-- The characters a scheme consists of. -/
def isSchemeChar (c : Char) : Bool := c.isAlphanum || c = '+' || c = '-' || c = '.'

/-- A letter, then letters, digits, `+`, `-` and `.`. -/
def isScheme : List Char → Bool
  | [] => false
  | c :: cs => c.isAlpha && cs.all isSchemeChar

/-- The delimiters at which an authority ends. -/
def endsAuthority (c : Char) : Bool := c = '/' || c = '?' || c = '#'

/-- The delimiters at which a path ends. -/
def endsPath (c : Char) : Bool := c = '?' || c = '#'

/-- The text up to the first delimiter. -/
def before (d : Char → Bool) (s : List Char) : List Char := s.takeWhile fun c => !d c

/-- The text from the first delimiter on. -/
def after (d : Char → Bool) (s : List Char) : List Char := s.dropWhile fun c => !d c

/-- The fragment of what follows the query. -/
def parseFragment : List Char → Option (List Char)
  | '#' :: s => some s
  | _ => none

/-- The query of what follows the path. -/
def parseQuery : List Char → Option (List Char)
  | '?' :: s => some (before (· = '#') s)
  | _ => none

/-- Everything behind `://`. -/
def parseHier (scheme s : List Char) : Url :=
  let rest := after endsAuthority s
  { scheme
    authority := before endsAuthority s
    path := before endsPath rest
    query := parseQuery (after endsPath rest)
    fragment := parseFragment (after (· = '#') (after endsPath rest)) }

/-- The URL a text spells; none where it is not a scheme, `://` and a rest. -/
def parse (s : List Char) : Option Url :=
  match after (· = ':') s with
  | ':' :: '/' :: '/' :: rest =>
    if isScheme (before (· = ':') s) then some (parseHier (before (· = ':') s) rest) else none
  | _ => none

/-- The text of a URL. -/
def render (u : Url) : List Char :=
  u.scheme ++ ':' :: '/' :: '/' :: (u.authority ++ (u.path ++
    ((u.query.map ('?' :: ·)).getD [] ++ (u.fragment.map ('#' :: ·)).getD [])))

/-! ## Splitting at a delimiter -/

theorem before_append_after (d : Char → Bool) (s : List Char) : before d s ++ after d s = s :=
  List.takeWhile_append_dropWhile

/-- No delimiter stands before the first one. -/
theorem not_delim_before {d : Char → Bool} {s : List Char} {c : Char} (h : c ∈ before d s) :
    d c = false := by
  have hc := List.mem_takeWhile_imp h
  simpa using hc

/-- What is left starts with a delimiter. -/
theorem after_eq_nil_or (d : Char → Bool) (s : List Char) :
    after d s = [] ∨ ∃ c rest, after d s = c :: rest ∧ d c = true := by
  cases h : after d s with
  | nil => exact Or.inl rfl
  | cons c rest =>
    refine Or.inr ⟨c, rest, rfl, ?_⟩
    have hc := List.head_dropWhile_not (fun c => !d c) (l := s) (by
      rw [show s.dropWhile (fun c => !d c) = c :: rest from h]
      simp)
    simp only [show s.dropWhile (fun c => !d c) = c :: rest from h, List.head_cons] at hc
    simpa using hc

theorem before_append {d : Char → Bool} {s : List Char} (hs : ∀ c ∈ s, d c = false)
    (t : List Char) : before d (s ++ t) = s ++ before d t := by
  unfold before
  exact List.takeWhile_append_of_pos fun c hc => by simp [hs c hc]

theorem after_append {d : Char → Bool} {s : List Char} (hs : ∀ c ∈ s, d c = false)
    (t : List Char) : after d (s ++ t) = after d t := by
  unfold after
  exact List.dropWhile_append_of_pos fun c hc => by simp [hs c hc]

@[simp] theorem before_nil (d : Char → Bool) : before d [] = [] := rfl

@[simp] theorem after_nil (d : Char → Bool) : after d [] = [] := rfl

theorem before_delim {d : Char → Bool} {c : Char} (hc : d c = true) (t : List Char) :
    before d (c :: t) = [] := by
  simp [before, hc]

theorem after_delim {d : Char → Bool} {c : Char} (hc : d c = true) (t : List Char) :
    after d (c :: t) = c :: t := by
  simp [after, hc]

/-! ## Parsing and writing -/

/-- Each component is free of the delimiters that end it, and the path of a URL with an authority
is empty or starts with a slash. -/
structure WellFormed (u : Url) : Prop where
  scheme : isScheme u.scheme = true
  authority : ∀ c ∈ u.authority, endsAuthority c = false
  path_slash : u.path = [] ∨ ∃ t, u.path = '/' :: t
  path : ∀ c ∈ u.path, endsPath c = false
  query : ∀ q, u.query = some q → '#' ∉ q

/-- A scheme has no colon. -/
theorem isScheme_colon {s : List Char} (h : isScheme s = true) :
    ∀ c ∈ s, decide (c = ':') = false := by
  intro c hc
  cases s with
  | nil => cases hc
  | cons a s =>
    simp only [isScheme, Bool.and_eq_true, List.all_eq_true] at h
    rcases List.mem_cons.mp hc with rfl | hmem
    · by_contra hcolon
      have hcolon : c = ':' := by simpa using hcolon
      subst hcolon
      exact absurd h.1 (by decide)
    · have hchar := h.2 c hmem
      by_contra hcolon
      have hcolon : c = ':' := by simpa using hcolon
      subst hcolon
      exact absurd hchar (by decide)

/-- A text is its path, its query and its fragment, one after the other. -/
theorem render_tail (t : List Char) :
    before endsPath t ++ (((parseQuery (after endsPath t)).map ('?' :: ·)).getD [] ++
      ((parseFragment (after (· = '#') (after endsPath t))).map ('#' :: ·)).getD []) = t := by
  have hsplit := before_append_after endsPath t
  rcases after_eq_nil_or endsPath t with h | ⟨c, rest, h, hc⟩
  · rw [h] at hsplit ⊢
    simpa [parseQuery, parseFragment] using hsplit
  · rw [h] at hsplit ⊢
    have hcases : c = '?' ∨ c = '#' := by simpa [endsPath] using hc
    rcases hcases with rfl | rfl
    · -- a query, and behind it perhaps a fragment
      have hafter : after (· = '#') ('?' :: rest) = after (· = '#') rest := rfl
      rw [hafter]
      have hrest := before_append_after (· = '#') rest
      rcases after_eq_nil_or (· = '#') rest with h2 | ⟨c2, frag, h2, hc2⟩
      · rw [h2] at hrest ⊢
        simpa [parseQuery, parseFragment, show before (· = '#') rest = rest by simpa using hrest]
          using hsplit
      · have hc2 : c2 = '#' := by simpa using hc2
        subst hc2
        rw [h2] at hrest ⊢
        simpa [parseQuery, parseFragment, hrest] using hsplit
    · rw [after_delim (by decide)]
      simpa [parseQuery, parseFragment] using hsplit

/-- What `parse` accepts: a scheme, `://` and a rest. -/
theorem parse_eq_some {s : List Char} {u : Url} (h : parse s = some u) :
    ∃ scheme rest, isScheme scheme = true ∧ s = scheme ++ ':' :: '/' :: '/' :: rest ∧
      u = parseHier scheme rest := by
  unfold parse at h
  split at h
  · rename_i rest hafter
    split at h
    · rename_i hscheme
      refine ⟨before (· = ':') s, rest, hscheme, ?_, (Option.some.inj h).symm⟩
      rw [← hafter, before_append_after]
    · cases h
  · cases h

theorem parse_scheme {scheme : List Char} (h : isScheme scheme = true) (rest : List Char) :
    parse (scheme ++ ':' :: '/' :: '/' :: rest) = some (parseHier scheme rest) := by
  have hcolon := isScheme_colon h
  have hafter : after (· = ':') (scheme ++ ':' :: '/' :: '/' :: rest) =
      ':' :: '/' :: '/' :: rest := by
    rw [after_append hcolon, after_delim (by decide)]
  have hbefore : before (· = ':') (scheme ++ ':' :: '/' :: '/' :: rest) = scheme := by
    rw [before_append hcolon, before_delim (by decide), List.append_nil]
  unfold parse
  rw [hafter, hbefore]
  simp [h]

/-- **A parsed text is the text of its URL.** -/
theorem render_parse {s : List Char} {u : Url} (h : parse s = some u) : u.render = s := by
  obtain ⟨scheme, rest, -, rfl, rfl⟩ := parse_eq_some h
  unfold render parseHier
  simp only [render_tail, before_append_after]

/-- **What is parsed is well formed.** -/
theorem parse_wellFormed {s : List Char} {u : Url} (h : parse s = some u) : u.WellFormed := by
  obtain ⟨scheme, rest, hscheme, -, rfl⟩ := parse_eq_some h
  refine ⟨hscheme, fun c hc => not_delim_before hc, ?_, fun c hc => not_delim_before hc, ?_⟩
  · simp only [parseHier]
    rcases after_eq_nil_or endsAuthority rest with h2 | ⟨c, t, h2, hc⟩
    · rw [h2]
      exact Or.inl rfl
    · rw [h2]
      by_cases hslash : c = '/'
      · subst hslash
        exact Or.inr ⟨before endsPath t, rfl⟩
      · have hpath : endsPath c = true := by
          simp only [endsAuthority, hslash, decide_false, Bool.false_or] at hc
          exact hc
        exact Or.inl (before_delim hpath t)
  · intro q hq
    simp only [parseHier, parseQuery] at hq
    split at hq
    · cases hq
      intro hmem
      have hd := not_delim_before hmem
      simp at hd
    · cases hq

/-- The path, query and fragment of their texts. -/
theorem split_tail {u : Url} (hu : u.WellFormed) :
    let t := u.path ++ ((u.query.map ('?' :: ·)).getD [] ++ (u.fragment.map ('#' :: ·)).getD [])
    before endsPath t = u.path ∧ parseQuery (after endsPath t) = u.query ∧
      parseFragment (after (· = '#') (after endsPath t)) = u.fragment := by
  obtain ⟨scheme, authority, path, query, fragment⟩ := u
  intro t
  have hpath := hu.path
  simp only at hpath
  have hquery : endsPath '?' = true := by decide
  have hfragment : endsPath '#' = true := by decide
  have hhash : (decide <| · = '#') '#' = true := by decide
  have hb : before endsPath t = path ++ before endsPath ((query.map ('?' :: ·)).getD [] ++
      (fragment.map ('#' :: ·)).getD []) := before_append hpath _
  have ha : after endsPath t = after endsPath ((query.map ('?' :: ·)).getD [] ++
      (fragment.map ('#' :: ·)).getD []) := after_append hpath _
  rw [hb, ha]
  cases query with
  | none =>
    cases fragment with
    | none => simp [parseQuery, parseFragment]
    | some f =>
      simp [before_delim hfragment,
        after_delim hfragment,
        after_delim (d := (decide <| · = '#')) hhash, parseQuery, parseFragment]
  | some q =>
    have hq : ∀ c ∈ q, decide (c = '#') = false := by
      intro c hc
      have hne : c ≠ '#' := fun heq => hu.query q rfl (heq ▸ hc)
      simpa using hne
    have hafter : ∀ r, after (· = '#') ('?' :: (q ++ r)) = after (· = '#') r := by
      intro r
      exact after_append (s := '?' :: q) (by
        intro c hc
        rcases List.mem_cons.mp hc with rfl | hc
        · decide
        · exact hq c hc) r
    cases fragment with
    | none =>
      have hnil := hafter []
      rw [List.append_nil] at hnil
      have hbq := before_append hq []
      rw [List.append_nil] at hbq
      simp [before_delim hquery,
        after_delim hquery, parseQuery, parseFragment, hbq, hnil]
    | some f =>
      simp [before_delim hquery,
        after_delim hquery, parseQuery, parseFragment,
        before_append hq, hafter, before_delim (d := (decide <| · = '#')) hhash,
        after_delim (d := (decide <| · = '#')) hhash]

/-- **A well-formed URL is read back from its text.** -/
theorem parse_render {u : Url} (hu : u.WellFormed) : parse u.render = some u := by
  unfold render
  rw [parse_scheme hu.scheme]
  obtain ⟨hpath, hquery, hfragment⟩ := split_tail hu
  -- behind the authority stands a delimiter or nothing
  have htail : ∀ t, t = [] ∨ (∃ c r, t = c :: r ∧ endsAuthority c = true) →
      before endsAuthority (u.authority ++ t) = u.authority ∧
      after endsAuthority (u.authority ++ t) = t := by
    intro t ht
    rw [before_append hu.authority, after_append hu.authority]
    rcases ht with rfl | ⟨c, r, rfl, hc⟩
    · simp
    · rw [before_delim hc, after_delim hc]
      simp
  obtain ⟨hauthority, hrest⟩ := htail (u.path ++ ((u.query.map ('?' :: ·)).getD [] ++
    (u.fragment.map ('#' :: ·)).getD [])) (by
      rcases hu.path_slash with hnil | ⟨t, ht⟩
      · rw [hnil]
        cases u.query with
        | some q => exact Or.inr ⟨'?', _, rfl, by decide⟩
        | none =>
          cases u.fragment with
          | some f => exact Or.inr ⟨'#', _, rfl, by decide⟩
          | none => exact Or.inl rfl
      · rw [ht]
        exact Or.inr ⟨'/', _, rfl, by decide⟩)
  simp only [parseHier, hauthority, hrest, hpath, hquery, hfragment]

/-! ## Writing behind a URL -/

/-- **What is written behind a URL stays behind its authority**: for a URL without query and
fragment and any text that starts with a slash, only the path grows and only query and fragment
are added. -/
theorem parse_append_slash {s : List Char} {u : Url} (h : parse s = some u)
    (hquery : u.query = none) (hfragment : u.fragment = none) (t : List Char) :
    ∃ v, parse (s ++ '/' :: t) = some v ∧ v.scheme = u.scheme ∧ v.authority = u.authority ∧
      v.path = u.path ++ before endsPath ('/' :: t) := by
  have hu := parse_wellFormed h
  let tail := '/' :: t
  let v : Url :=
    { u with
      path := u.path ++ before endsPath tail
      query := parseQuery (after endsPath tail)
      fragment := parseFragment (after (· = '#') (after endsPath tail)) }
  have hv : v.WellFormed := by
    refine ⟨hu.scheme, hu.authority, ?_, ?_, ?_⟩
    · refine Or.inr ?_
      rcases hu.path_slash with hnil | ⟨p, hp⟩
      · exact ⟨before endsPath t, by simp only [v, hnil]; rfl⟩
      · exact ⟨p ++ before endsPath tail, by simp only [v, hp, List.cons_append]⟩
    · intro c hc
      rcases List.mem_append.mp hc with hc | hc
      · exact hu.path c hc
      · exact not_delim_before hc
    · intro q hq
      simp only [v, parseQuery] at hq
      split at hq
      · cases hq
        intro hmem
        have hd := not_delim_before hmem
        simp at hd
      · cases hq
  refine ⟨v, ?_, rfl, rfl, rfl⟩
  have hrender : v.render = s ++ tail := by
    rw [← render_parse h]
    have htail := render_tail tail
    simp only [render, v, hquery, hfragment, Option.map_none, Option.getD_none, List.append_nil,
      List.append_assoc, List.cons_append]
    rw [htail]
  rw [← hrender]
  exact parse_render hv

/-- **Cutting a last slash leaves scheme and authority**, where there is an authority. -/
theorem parse_dropSlash {s : List Char} {u : Url} (h : parse (s ++ ['/']) = some u)
    (hquery : u.query = none) (hfragment : u.fragment = none) (hauthority : u.authority ≠ []) :
    parse s = some { u with path := u.path.dropLast } := by
  have hu := parse_wellFormed h
  have hrender := render_parse h
  simp only [render, hquery, hfragment, Option.map_none, Option.getD_none, List.append_nil]
    at hrender
  -- the last slash is not the authority's, so it is the path's
  rcases List.eq_nil_or_concat u.path with hnil | ⟨p, c, hp⟩
  · obtain ⟨a, c, ha⟩ := (List.eq_nil_or_concat u.authority).resolve_left hauthority
    rw [hnil, ha, List.concat_eq_append, List.append_nil, ← List.cons_append, ← List.cons_append,
      ← List.cons_append, ← List.append_assoc] at hrender
    have hc := List.cons.inj (List.append_inj' hrender rfl).2
    have hmem : '/' ∈ u.authority := by simp [ha, hc.1]
    exact absurd (hu.authority '/' hmem) (by decide)
  · have hp : u.path = p ++ [c] := by simpa using hp
    rw [hp, ← List.append_assoc, ← List.cons_append, ← List.cons_append, ← List.cons_append,
      ← List.append_assoc] at hrender
    obtain ⟨hs, hc⟩ := List.append_inj' hrender rfl
    let v : Url := { u with path := p }
    have hdrop : u.path.dropLast = p := by rw [hp, List.dropLast_concat]
    have hv : v.WellFormed := by
      refine ⟨hu.scheme, hu.authority, ?_, fun d hd => hu.path d (by simp [hp, show d ∈ p from hd]),
        hu.query⟩
      rcases hu.path_slash with h0 | ⟨t, ht⟩
      · simp [hp] at h0
      · rw [hp] at ht
        cases p with
        | nil => exact Or.inl rfl
        | cons d p =>
          obtain ⟨rfl, -⟩ := List.cons.inj ht
          exact Or.inr ⟨p, rfl⟩
    rw [hdrop, ← parse_render hv, ← hs]
    congr 1
    simp [render, v, hquery, hfragment]

end Url

end Kit
