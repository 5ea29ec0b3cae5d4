import Mathlib.Data.List.Forall2
import SubstrateControl.Go.JsonCut
import SubstrateControl.Go.JsonRead

/-!
# Values replaced by a digit

A JSON text in which values are replaced by one digit is not longer than it was, and says what it
said, with the number in their places.

* `Inked` — a value with the number in the place of some of those inside.
* `Rewrites` — what a reader reads can be written anew, no longer than before.
* `value_rewrites`, `parse_inked` — so can a value, and a text.
-/

set_option autoImplicit false

namespace Go

section

variable (d : ℚ)

mutual

/-- A value, and one with the number `d` in the place of some of those inside. -/
inductive Inked : JVal → JVal → Prop where
  | same (v : JVal) : Inked v v
  | ink (v : JVal) : Inked v (.num d)
  | arr {xs ys : List JVal} : InkedElems xs ys → Inked (.arr xs) (.arr ys)
  | obj {m n : List (String × JVal)} : InkedMembers m n → Inked (.obj m) (.obj n)

inductive InkedElems : List JVal → List JVal → Prop where
  | nil : InkedElems [] []
  | cons {x y : JVal} {xs ys : List JVal} :
      Inked x y → InkedElems xs ys → InkedElems (x :: xs) (y :: ys)

inductive InkedMembers : List (String × JVal) → List (String × JVal) → Prop where
  | nil : InkedMembers [] []
  | cons {k : String} {x y : JVal} {m n : List (String × JVal)} :
      Inked x y → InkedMembers m n → InkedMembers ((k, x) :: m) ((k, y) :: n)

end

end

theorem InkedElems.forall₂ {d : ℚ} : ∀ {xs ys : List JVal}, InkedElems d xs ys →
    List.Forall₂ (Inked d) xs ys
  | _, _, .nil => .nil
  | _, _, .cons h hs => .cons h hs.forall₂

theorem InkedMembers.forall₂ {d : ℚ} : ∀ {m n : List (String × JVal)}, InkedMembers d m n →
    List.Forall₂ (fun kv kw => kw.1 = kv.1 ∧ Inked d kv.2 kw.2) m n
  | _, _, .nil => .nil
  | _, _, .cons h hs => .cons ⟨rfl, h⟩ hs.forall₂

/-! ## Readers -/

section

variable {α : Type} {num : α → Bool} {R : α → α → Prop}
  {item : List UInt8 → Option (α × List UInt8)} {close : UInt8}

/-- Whatever is related to what a reader reads, some text is read as it, up to its last byte and
whatever follows, that is not longer than what was read. -/
def Rewrites (num : α → Bool) (R : α → α → Prop) (f : List UInt8 → Option (α × List UInt8)) :
    Prop :=
  ∀ s a r, f s = some (a, r) → ∀ a', R a a' →
    ∃ p b, p.length + r.length < s.length ∧ isSpaceByte b = false ∧
      ∀ x, Ends (num a') x → f (p ++ b :: x) = some (a', x)

theorem Reads.rewrites {f : List UInt8 → Option (α × List UInt8)} (hf : Reads num f)
    {s r : List UInt8} {a : α} (h : f s = some (a, r)) :
    ∃ p b, p.length + r.length < s.length ∧ isSpaceByte b = false ∧
      ∀ x, Ends (num a) x → f (p ++ b :: x) = some (a, x) := by
  obtain ⟨p, b, rfl, hb, -, hread⟩ := hf s a r h
  refine ⟨p, b, ?_, hb, hread⟩
  rw [List.length_append, List.length_cons]
  omega

theorem length_skipSpace {s r : List UInt8} {c : UInt8} (h : skipSpace s = c :: r) :
    r.length < s.length := by
  have hle := (List.dropWhile_suffix isSpaceByte (l := s)).length_le
  rw [show s.dropWhile isSpaceByte = c :: r from h, List.length_cons] at hle
  omega

/-- Items one by one. -/
theorem items_rewrites (hitem : Rewrites num R item) (hspace : isSpaceByte close = false)
    (hnum : isNumberByte close = false) :
    ∀ k s as r, items close item k s = some (as, r) → ∀ as', List.Forall₂ R as as' →
      ∃ p, p.length + r.length < s.length ∧
        ∀ x k', p.length < k' → items close item k' (p ++ close :: x) = some (as', x) := by
  intro k
  induction k with
  | zero => intro s as r h; cases h
  | succ k ih =>
    intro s as r h as' hrel
    obtain ⟨a, r1, c, r2, hfirst, hskip, hrest⟩ := items_cons h
    have hskipped := length_skipSpace hskip
    rcases hrest with ⟨rfl, rest, hrest, rfl⟩ | ⟨hcomma, rfl, rfl, rfl⟩
    · cases hrel with
      | cons ha hrel =>
        rename_i a' rest'
        obtain ⟨p1, b1, hlen1, -, hread1⟩ := hitem s a r1 hfirst a' ha
        obtain ⟨p2, hlen2, hread2⟩ := ih r2 rest r hrest rest' hrel
        refine ⟨p1 ++ b1 :: byte ',' :: p2, ?_, fun x k' hk' => ?_⟩
        · simp only [List.length_append, List.length_cons]
          omega
        · simp only [List.length_append, List.length_cons] at hk'
          obtain ⟨k', rfl⟩ : ∃ n, k' = n + 1 := ⟨k' - 1, by omega⟩
          have htext : p1 ++ b1 :: byte ',' :: p2 ++ close :: x =
              p1 ++ b1 :: (byte ',' :: (p2 ++ close :: x)) := by simp
          rw [htext, items, hread1 _ (Ends.cons (by decide) _)]
          simp only [skipSpace_cons (show isSpaceByte (byte ',') = false by decide), if_true,
            hread2 x k' (by omega), Option.map_some]
    · cases hrel with
      | cons ha hrel =>
        cases hrel
        rename_i a'
        obtain ⟨p1, b1, hlen1, -, hread1⟩ := hitem s a r1 hfirst a' ha
        refine ⟨p1 ++ [b1], ?_, fun x k' hk' => ?_⟩
        · simp only [List.length_append, List.length_singleton]
          omega
        · obtain ⟨k', rfl⟩ : ∃ n, k' = n + 1 := ⟨k' - 1, by omega⟩
          have htext : p1 ++ [b1] ++ c :: x = p1 ++ b1 :: (c :: x) := by simp
          rw [htext, items, hread1 _ (Ends.cons hnum _)]
          simp only [skipSpace_cons hspace, if_neg hcomma, if_true]

/-- Items between brackets, where none of them starts with the closing one. -/
theorem group_rewrites (hitem : Rewrites num R item) (hspace : isSpaceByte close = false)
    (hnum : isNumberByte close = false)
    (hclose : ∀ s t, skipSpace s = close :: t → item s = none) :
    Rewrites (fun _ => false) (List.Forall₂ R) (group close item) := by
  intro s as r h as' hrel
  unfold group at h
  cases hskip : skipSpace s with
  | nil =>
    rw [hskip] at h
    cases h
  | cons c r' =>
    rw [hskip] at h
    simp only at h
    split at h
    · cases h
      cases hrel
      refine ⟨[], close, ?_, hspace, fun x _ => ?_⟩
      · simpa using length_skipSpace hskip
      · simp only [List.nil_append, group, skipSpace_cons hspace, if_true]
    · obtain ⟨p, hlen, hread⟩ := items_rewrites hitem hspace hnum _ s as r h as' hrel
      refine ⟨p, close, hlen, hspace, fun x _ => ?_⟩
      have hitems := hread x (p ++ close :: x).length (by simp)
      unfold group
      cases hhead : skipSpace (p ++ close :: x) with
      | nil =>
        have hall := skipSpace_eq_nil.mp hhead close (by simp)
        rw [hspace] at hall
        cases hall
      | cons c' r'' =>
        simp only
        rw [if_neg, hitems]
        rintro rfl
        have hnone := hclose _ _ hhead
        obtain ⟨n, hn⟩ : ∃ n, (p ++ c' :: x).length = n + 1 := ⟨p.length + x.length, by simp; omega⟩
        rw [hn, items, hnone] at hitems
        cases hitems

/-- Members, which keep their names. -/
theorem member_rewrites (hitem : Rewrites num R item) :
    Rewrites (fun kv : String × α => num kv.2) (fun kv kw => kw.1 = kv.1 ∧ R kv.2 kw.2)
      (member item) := by
  intro s kv r h kw ⟨hname', hrel⟩
  unfold member at h
  cases hskip : skipSpace s with
  | nil =>
    rw [hskip] at h
    cases h
  | cons b s1 =>
    have hlen0 := length_skipSpace hskip
    rw [hskip] at h
    simp only at h
    split at h
    · cases h
    · split at h
      · cases h
      · rename_i lit r1 hlit
        obtain ⟨p1, b1, hlen1, -, hread1⟩ := stringLit_reads.rewrites hlit
        split at h
        · rename_i name c r2 hname hskip1
          have hlen2 := length_skipSpace hskip1
          split at h
          · obtain ⟨⟨a, r3⟩, ha, heq⟩ := Option.map_eq_some_iff.mp h
            cases heq
            obtain ⟨p2, b2, hlen3, hb2, hread2⟩ := hitem r2 a r3 ha kw.2 hrel
            refine ⟨byte '"' :: (p1 ++ b1 :: byte ':' :: p2), b2, ?_, hb2, fun x hx => ?_⟩
            · simp only [List.length_append, List.length_cons]
              omega
            · have htext : byte '"' :: (p1 ++ b1 :: byte ':' :: p2) ++ b2 :: x =
                  byte '"' :: (p1 ++ b1 :: (byte ':' :: (p2 ++ b2 :: x))) := by simp
              rw [htext]
              simp only [member, skipSpace_cons (show isSpaceByte (byte '"') = false by decide),
                ne_eq, not_true_eq_false, if_false, hread1 _ (ends_false _), hname,
                skipSpace_cons (show isSpaceByte (byte ':') = false by decide), if_true,
                hread2 x hx, Option.map_some, Option.some.injEq, Prod.mk.injEq, and_true]
              exact Prod.ext hname'.symm rfl
          · cases h
        · cases h

end

/-! ## Values -/

/-- No value starts with a closing bracket. -/
theorem value_close : ∀ (depth : ℕ) (s t : List UInt8), skipSpace s = byte ']' :: t →
    value depth s = none := by
  have hnum : isNumberByte (byte ']') = false := by decide
  have hscalar : ∀ t, scalar (byte ']' :: t) = none := fun t => by
    simp [scalar, hnum, numberValue, show byte ']' ≠ byte '"' by decide,
      show byte ']' ≠ byte 't' by decide, show byte ']' ≠ byte 'f' by decide,
      show byte ']' ≠ byte 'n' by decide]
  intro depth s t h
  cases depth with
  | zero => rw [value, h, hscalar]
  | succ depth => rw [value, h, compound, if_neg (by decide), if_neg (by decide), hscalar]

/-- No member starts with one. -/
theorem member_close {α : Type} (item : List UInt8 → Option (α × List UInt8)) (s t : List UInt8)
    (h : skipSpace s = byte '\x7d' :: t) : member item s = none := by
  simp only [member, h]
  rw [if_pos (by decide)]

section

variable {d : ℚ} {b0 : UInt8}

/-- **A value can be written anew with a digit in the place of others**, no longer than before. -/
theorem value_rewrites (hb0 : numberValue [b0] = some d) (hspace : isSpaceByte b0 = false) :
    ∀ depth, Rewrites JVal.isNum (Inked d) (value depth) := by
  intro depth
  induction depth with
  | zero =>
    intro s v r h v' hv'
    cases hv' with
    | same => exact (value_reads 0).rewrites h
    | ink =>
      obtain ⟨p, b, hlen, -⟩ := (value_reads 0).rewrites h
      refine ⟨[], b0, ?_, hspace, fun x hx => value_number hb0 0 hx⟩
      rw [List.length_nil]
      omega
    | arr => simpa [nesting] using value_nesting 0 s _ r h
    | obj => simpa [nesting] using value_nesting 0 s _ r h
  | succ depth ih =>
    intro s v r h v' hv'
    cases hv' with
    | same => exact (value_reads (depth + 1)).rewrites h
    | ink =>
      obtain ⟨p, b, hlen, -⟩ := (value_reads (depth + 1)).rewrites h
      refine ⟨[], b0, ?_, hspace, fun x hx => value_number hb0 (depth + 1) hx⟩
      rw [List.length_nil]
      omega
    | arr hrel =>
      rcases compound_cases h with ⟨s', xs, hs, hxs, heq⟩ | ⟨s', m, -, -, heq⟩ | hscalar
      · cases heq
        have hlen0 := length_skipSpace hs
        obtain ⟨p, b, hlen, hb, hread⟩ := group_rewrites ih (by decide) (by decide)
          (value_close depth) s' _ r hxs _ hrel.forall₂
        refine ⟨byte '[' :: p, b, ?_, hb, fun x _ => ?_⟩
        · rw [List.length_cons]
          omega
        · rw [List.cons_append, value, skipSpace_cons (by decide)]
          exact compound_arr (hread x (ends_false x))
      · cases heq
      · simpa [nesting] using scalar_nesting _ _ r hscalar
    | obj hrel =>
      rcases compound_cases h with ⟨s', xs, -, -, heq⟩ | ⟨s', m, hs, hm, heq⟩ | hscalar
      · cases heq
      · cases heq
        have hlen0 := length_skipSpace hs
        obtain ⟨p, b, hlen, hb, hread⟩ := group_rewrites (member_rewrites ih) (by decide)
          (by decide) (member_close (value depth)) s' _ r hm _ hrel.forall₂
        refine ⟨byte '\x7b' :: p, b, ?_, hb, fun x _ => ?_⟩
        · rw [List.length_cons]
          omega
        · rw [List.cons_append, value, skipSpace_cons (by decide)]
          exact compound_obj (hread x (ends_false x))
      · simpa [nesting] using scalar_nesting _ _ r hscalar

/-- **So can a text.** -/
theorem parse_inked (hb0 : numberValue [b0] = some d) (hspace : isSpaceByte b0 = false)
    {s : List UInt8} {v w : JVal} (h : parse s = some v) (hw : Inked d v w) :
    ∃ t, parse t = some w ∧ t.length ≤ s.length := by
  obtain ⟨r, hv, -⟩ := parse_eq_some_iff.mp h
  obtain ⟨p, b, hlen, -, hread⟩ := value_rewrites hb0 hspace maxNestingDepth s v r hv w hw
  refine ⟨p ++ [b], parse_eq_some_iff.mpr ⟨[], hread [] (ends_space rfl), rfl⟩, ?_⟩
  rw [List.length_append, List.length_singleton]
  omega

end

end Go
