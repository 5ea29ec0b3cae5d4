import SubstrateControl.Go.JsonText

/-!
# Texts that are cut short

What is left of a JSON text when its end is missing.

* `WellFormed` — a JSON text, however deeply its values are nested.
* `nesting`, `value_refines` — a value is read alike at every depth that is enough for its nesting.
* `Denotes`, `parse_iff_denotes` — the value of a text, which is parsed where it is not nested too
  deeply.
* `parse_append_space` — white space behind a text does not matter.
* `parse_take_space` — nor does it matter when some of it is cut off.
* `cut_complete` — what is left is a complete text, though not that of a number, only where nothing
  but white space was cut off.
* `Captured`, `capture` — a value with the bytes it is written in, and the one of a whole text.
* `capture_append_space` — white space behind a text is not captured.
-/

set_option autoImplicit false

namespace Go

/-- A JSON text. -/
def WellFormed (s : List UInt8) : Prop :=
  ∃ depth v r, value depth s = some (v, r) ∧ skipSpace r = []

theorem parse_eq_some_iff {s : List UInt8} {v : JVal} :
    parse s = some v ↔ ∃ r, value maxNestingDepth s = some (v, r) ∧ skipSpace r = [] := by
  unfold parse
  cases value maxNestingDepth s with
  | none => simp
  | some p =>
    obtain ⟨w, r⟩ := p
    by_cases hr : skipSpace r = []
    · simp [hr]
    · simp only [if_neg hr, Option.some.injEq, Prod.mk.injEq]
      constructor
      · intro h
        cases h
      · rintro ⟨r', ⟨-, rfl⟩, hr'⟩
        exact absurd hr' hr

/-! ## Depth -/

mutual

/-- How many arrays and objects stand around another. -/
def nesting : JVal → ℕ
  | .arr xs => itemsNesting xs + 1
  | .obj m => membersNesting m + 1
  | .null => 0
  | .bool _ => 0
  | .str _ => 0
  | .num _ => 0

def itemsNesting : List JVal → ℕ
  | [] => 0
  | x :: xs => max (nesting x) (itemsNesting xs)

def membersNesting : JObj → ℕ
  | [] => 0
  | (_, x) :: m => max (nesting x) (membersNesting m)

end

theorem itemsNesting_le {xs : List JVal} {n : ℕ} :
    itemsNesting xs ≤ n ↔ ∀ x ∈ xs, nesting x ≤ n := by
  induction xs with
  | nil => simp [itemsNesting]
  | cons x xs ih => rw [itemsNesting, List.forall_mem_cons, ← ih, Nat.max_le]

theorem membersNesting_le {m : JObj} {n : ℕ} :
    membersNesting m ≤ n ↔ ∀ kv ∈ m, nesting kv.2 ≤ n := by
  induction m with
  | nil => simp [membersNesting]
  | cons kv m ih => rw [membersNesting, List.forall_mem_cons, ← ih, Nat.max_le]

section

variable {α : Type} {item item' : List UInt8 → Option (α × List UInt8)} {close : UInt8}
  {P : α → Prop}

/-- What is read has the property. -/
def Yields (P : α → Prop) (item : List UInt8 → Option (α × List UInt8)) : Prop :=
  ∀ s a r, item s = some (a, r) → P a

/-- One reader reads whatever another one does, as far as it has the property. -/
def Refines (P : α → Prop) (item item' : List UInt8 → Option (α × List UInt8)) : Prop :=
  ∀ s a r, item s = some (a, r) → P a → item' s = some (a, r)

/-- What `items` reads: an item, and behind a comma the others. -/
theorem items_cons {k : ℕ} {s r : List UInt8} {as : List α}
    (h : items close item (k + 1) s = some (as, r)) :
    ∃ a r1 c r2, item s = some (a, r1) ∧ skipSpace r1 = c :: r2 ∧
      ((c = byte ',' ∧ ∃ rest, items close item k r2 = some (rest, r) ∧ as = a :: rest) ∨
        (c ≠ byte ',' ∧ c = close ∧ as = [a] ∧ r = r2)) := by
  rw [items] at h
  cases hitem : item s with
  | none =>
    rw [hitem] at h
    cases h
  | some ar =>
    rw [hitem] at h
    simp only at h
    cases hskip : skipSpace ar.2 with
    | nil =>
      rw [hskip] at h
      cases h
    | cons c r2 =>
      rw [hskip] at h
      simp only at h
      refine ⟨ar.1, ar.2, c, r2, rfl, hskip, ?_⟩
      split at h
      · rename_i hcomma
        obtain ⟨⟨rest, r'⟩, hrest, heq⟩ := Option.map_eq_some_iff.mp h
        cases heq
        exact .inl ⟨hcomma, rest, hrest, rfl⟩
      · rename_i hcomma
        split at h
        · rename_i hclose
          cases h
          exact .inr ⟨hcomma, hclose, rfl, rfl⟩
        · cases h

theorem items_yields (h : Yields P item) : ∀ k, Yields (∀ a ∈ ·, P a) (items close item k) := by
  intro k
  induction k with
  | zero => intro s as r has; cases has
  | succ k ih =>
    intro s as r has
    obtain ⟨a, r1, c, r2, hitem, -, ⟨-, rest, hrest, rfl⟩ | ⟨-, -, rfl, -⟩⟩ := items_cons has
    · exact List.forall_mem_cons.mpr ⟨h s a r1 hitem, ih r2 rest r hrest⟩
    · exact List.forall_mem_singleton.mpr (h s a r1 hitem)

theorem items_refines (h : Refines P item item') :
    ∀ k, Refines (∀ a ∈ ·, P a) (items close item k) (items close item' k) := by
  intro k
  induction k with
  | zero => intro s as r has; cases has
  | succ k ih =>
    intro s as r has hall
    obtain ⟨a, r1, c, r2, hitem, hskip, ⟨rfl, rest, hrest, rfl⟩ | ⟨hcomma, rfl, rfl, rfl⟩⟩ :=
      items_cons has
    · rw [List.forall_mem_cons] at hall
      rw [items, h s a r1 hitem hall.1]
      simp only [hskip, if_true, ih r2 rest r hrest hall.2, Option.map_some]
    · rw [items, h s a r1 hitem (hall a List.mem_cons_self)]
      simp only [hskip, if_neg hcomma, if_true]

theorem group_yields (h : Yields P item) : Yields (∀ a ∈ ·, P a) (group close item) := by
  intro s as r has
  unfold group at has
  cases hskip : skipSpace s with
  | nil =>
    rw [hskip] at has
    cases has
  | cons c r' =>
    rw [hskip] at has
    simp only at has
    split at has
    · cases has
      simp
    · exact items_yields h _ s as r has

theorem group_refines (h : Refines P item item') :
    Refines (∀ a ∈ ·, P a) (group close item) (group close item') := by
  intro s as r has hall
  unfold group at has ⊢
  cases hskip : skipSpace s with
  | nil =>
    rw [hskip] at has
    cases has
  | cons c r' =>
    rw [hskip] at has
    simp only at has ⊢
    split
    · rename_i hclose
      rw [if_pos hclose] at has
      exact has
    · rename_i hclose
      rw [if_neg hclose] at has
      exact items_refines h s.length s as r has hall

/-- What `member` reads: a name, a colon and an item. -/
theorem member_spec {s r : List UInt8} {kv : String × α} (h : member item s = some (kv, r)) :
    ∃ r', item r' = some (kv.2, r) ∧
      ∀ item' : List UInt8 → Option (α × List UInt8), item' r' = some (kv.2, r) →
        member item' s = some (kv, r) := by
  unfold member at h
  cases hskip : skipSpace s with
  | nil =>
    rw [hskip] at h
    cases h
  | cons b s1 =>
    rw [hskip] at h
    simp only at h
    split at h
    · cases h
    · rename_i hquote
      split at h
      · cases h
      · rename_i lit r1 hlit
        split at h
        · rename_i name c r2 hname hskip1
          split at h
          · rename_i hcolon
            obtain ⟨⟨a, r3⟩, ha, heq⟩ := Option.map_eq_some_iff.mp h
            cases heq
            refine ⟨r2, ha, fun item' ha' => ?_⟩
            unfold member
            simp only [hskip, if_neg hquote, hlit, hname, hskip1, if_pos hcolon, ha',
              Option.map_some]
          · cases h
        · cases h

theorem member_yields (h : Yields P item) : Yields (fun kv => P kv.2) (member item) := by
  intro s kv r hkv
  obtain ⟨r', hitem, -⟩ := member_spec hkv
  exact h r' kv.2 r hitem

theorem member_refines (h : Refines P item item') :
    Refines (fun kv => P kv.2) (member item) (member item') := by
  intro s kv r hkv hP
  obtain ⟨r', hitem, hread⟩ := member_spec hkv
  exact hread item' (h r' kv.2 r hitem hP)

end

/-- A value is an array, an object or a scalar. -/
theorem compound_cases {inner : List UInt8 → Option (JVal × List UInt8)} {s r : List UInt8}
    {v : JVal} (h : compound inner s = some (v, r)) :
    (∃ s' xs, s = byte '[' :: s' ∧ group (byte ']') inner s' = some (xs, r) ∧ v = .arr xs) ∨
    (∃ s' m, s = byte '\x7b' :: s' ∧
      group (byte '\x7d') (member inner) s' = some (m, r) ∧ v = .obj m) ∨
    scalar s = some (v, r) := by
  cases s with
  | nil => cases h
  | cons b s =>
    rw [compound] at h
    split at h
    · rename_i hb
      obtain ⟨⟨xs, r'⟩, hxs, heq⟩ := Option.map_eq_some_iff.mp h
      cases heq
      exact .inl ⟨s, xs, by rw [hb], hxs, rfl⟩
    · split at h
      · rename_i hb
        obtain ⟨⟨m, r'⟩, hm, heq⟩ := Option.map_eq_some_iff.mp h
        cases heq
        exact .inr (.inl ⟨s, m, by rw [hb], hm, rfl⟩)
      · exact .inr (.inr h)

theorem compound_arr {inner : List UInt8 → Option (JVal × List UInt8)} {s r : List UInt8}
    {xs : List JVal} (h : group (byte ']') inner s = some (xs, r)) :
    compound inner (byte '[' :: s) = some (.arr xs, r) := by
  rw [compound, if_pos rfl, h]
  rfl

theorem compound_obj {inner : List UInt8 → Option (JVal × List UInt8)} {s r : List UInt8}
    {m : JObj} (h : group (byte '\x7d') (member inner) s = some (m, r)) :
    compound inner (byte '\x7b' :: s) = some (.obj m, r) := by
  rw [compound, if_neg (by decide), if_pos rfl, h]
  rfl

/-- A bracket begins no scalar. -/
theorem compound_scalar (inner : List UInt8 → Option (JVal × List UInt8)) {s r : List UInt8}
    {v : JVal} (h : scalar s = some (v, r)) : compound inner s = some (v, r) := by
  cases s with
  | nil => cases h
  | cons b s =>
    have hbracket : ∀ c, c = byte '[' ∨ c = byte '\x7b' → scalar (c :: s) = none := by
      rintro c (rfl | rfl)
      · have hnum : isNumberByte (byte '[') = false := by decide
        simp [scalar, hnum, numberValue, show byte '[' ≠ byte '"' by decide,
          show byte '[' ≠ byte 't' by decide, show byte '[' ≠ byte 'f' by decide,
          show byte '[' ≠ byte 'n' by decide]
      · have hnum : isNumberByte (byte '\x7b') = false := by decide
        simp [scalar, hnum, numberValue, show byte '\x7b' ≠ byte '"' by decide,
          show byte '\x7b' ≠ byte 't' by decide, show byte '\x7b' ≠ byte 'f' by decide,
          show byte '\x7b' ≠ byte 'n' by decide]
    have hb : ¬ (b = byte '[' ∨ b = byte '\x7b') := by
      intro hb
      rw [hbracket b hb] at h
      cases h
    rw [not_or] at hb
    rw [compound, if_neg hb.1, if_neg hb.2]
    exact h

/-- A scalar has nothing inside. -/
theorem scalar_nesting : Yields (nesting · = 0) scalar := by
  intro s v r h
  cases s with
  | nil => cases h
  | cons b s =>
    rw [scalar] at h
    split at h
    · split at h
      · cases h
      · obtain ⟨t, -, heq⟩ := Option.map_eq_some_iff.mp h
        cases heq
        rfl
    · have hliteral : ∀ word w, nesting w = 0 → literal word w (b :: s) = some (v, r) →
          nesting v = 0 := by
        intro word w hw hlit
        unfold literal at hlit
        simp only at hlit
        split at hlit
        · cases hlit
          exact hw
        · cases hlit
      split at h
      · exact hliteral _ _ rfl h
      · split at h
        · exact hliteral _ _ rfl h
        · split at h
          · exact hliteral _ _ rfl h
          · obtain ⟨q, -, heq⟩ := Option.map_eq_some_iff.mp h
            cases heq
            rfl

/-- A value is not nested deeper than it is read. -/
theorem value_nesting : ∀ depth, Yields (nesting · ≤ depth) (value depth)
  | 0 => fun s v r h => Nat.le_of_eq (scalar_nesting (skipSpace s) v r h)
  | depth + 1 => by
    intro s v r h
    rcases compound_cases h with ⟨s', xs, -, hxs, rfl⟩ | ⟨s', m, -, hm, rfl⟩ | hscalar
    · have hle := itemsNesting_le.mpr (group_yields (value_nesting depth) s' xs r hxs)
      simp only [nesting]
      omega
    · have hle := membersNesting_le.mpr
        (group_yields (member_yields (value_nesting depth)) s' m r hm)
      simp only [nesting]
      omega
    · have hzero : nesting v = 0 := scalar_nesting _ v r hscalar
      omega

/-- **A value is read alike at every depth that is enough for its nesting.** -/
theorem value_refines : ∀ depth depth', Refines (nesting · ≤ depth') (value depth) (value depth')
  | 0, 0 => fun _ _ _ h _ => h
  | 0, _ + 1 => fun _ _ _ h _ => compound_scalar _ h
  | depth + 1, 0 => by
    intro s v r h hle
    rcases compound_cases h with ⟨s', xs, -, -, rfl⟩ | ⟨s', m, -, -, rfl⟩ | hscalar
    · simp only [nesting] at hle
      omega
    · simp only [nesting] at hle
      omega
    · exact hscalar
  | depth + 1, depth' + 1 => by
    intro s v r h hle
    have ih := value_refines depth depth'
    rw [value]
    rcases compound_cases h with ⟨s', xs, hs, hxs, rfl⟩ | ⟨s', m, hs, hm, rfl⟩ | hscalar
    · have hall := itemsNesting_le.mp (Nat.le_of_succ_le_succ hle)
      rw [hs]
      exact compound_arr (group_refines ih s' xs r hxs hall)
    · have hall := membersNesting_le.mp (Nat.le_of_succ_le_succ hle)
      rw [hs]
      exact compound_obj (group_refines (member_refines ih) s' m r hm hall)
    · exact compound_scalar _ hscalar

/-- A larger depth reads the same. -/
theorem value_mono {depth depth' : ℕ} (hle : depth ≤ depth') {s r : List UInt8} {v : JVal}
    (h : value depth s = some (v, r)) : value depth' s = some (v, r) :=
  value_refines depth depth' s v r h (Nat.le_trans (value_nesting depth s v r h) hle)

/-! ## The value of a text -/

/-- The value of a JSON text, however deeply it is nested. -/
def Denotes (s : List UInt8) (v : JVal) : Prop :=
  ∃ depth r, value depth s = some (v, r) ∧ skipSpace r = []

/-- A text has one value. -/
theorem Denotes.unique {s : List UInt8} {v w : JVal} (hv : Denotes s v) (hw : Denotes s w) :
    v = w := by
  obtain ⟨d, r, hv, -⟩ := hv
  obtain ⟨d', r', hw, -⟩ := hw
  have hboth := (value_mono (Nat.le_max_left d d') hv).symm.trans
    (value_mono (Nat.le_max_right d d') hw)
  cases hboth
  rfl

theorem Denotes.wellFormed {s : List UInt8} {v : JVal} (h : Denotes s v) : WellFormed s := by
  obtain ⟨depth, r, hv, hr⟩ := h
  exact ⟨depth, v, r, hv, hr⟩

theorem WellFormed.ne_nil {s : List UInt8} (h : WellFormed s) : s ≠ [] := by
  rintro rfl
  obtain ⟨depth, v, r, hv, -⟩ := h
  obtain ⟨p, b, hnil, -⟩ := value_reads depth _ _ _ hv
  simp at hnil

/-- **What is parsed** is the value of the text, where it is not nested too deeply. -/
theorem parse_iff_denotes {s : List UInt8} {v : JVal} :
    parse s = some v ↔ Denotes s v ∧ nesting v ≤ maxNestingDepth := by
  rw [parse_eq_some_iff]
  constructor
  · rintro ⟨r, hv, hr⟩
    exact ⟨⟨maxNestingDepth, r, hv, hr⟩, value_nesting _ s v r hv⟩
  · rintro ⟨⟨depth, r, hv, hr⟩, hle⟩
    exact ⟨r, value_refines depth maxNestingDepth s v r hv hle, hr⟩

/-! ## White space behind a text -/

theorem ends_space {num : Bool} {r : List UInt8} (h : skipSpace r = []) : Ends num r := by
  rw [skipSpace_eq_nil] at h
  intro _ c hc
  exact isNumberByte_of_space (h c (List.mem_of_mem_head? hc))

/-- White space behind a text does not matter. -/
theorem parse_append_space {s t : List UInt8} {v : JVal} (ht : skipSpace t = [])
    (h : parse s = some v) : parse (s ++ t) = some v := by
  obtain ⟨r, hv, hr⟩ := parse_eq_some_iff.mp h
  have hrt : skipSpace (r ++ t) = [] := by
    rw [skipSpace_eq_nil] at hr ht ⊢
    exact List.forall_mem_append.mpr ⟨hr, ht⟩
  obtain ⟨p, b, rfl, -, -, hread⟩ := value_reads maxNestingDepth s v r hv
  refine parse_eq_some_iff.mpr ⟨r ++ t, ?_, hrt⟩
  rw [List.append_assoc, List.cons_append]
  exact hread (r ++ t) (ends_space hrt)

/-- Nor does it matter when white space is cut off. -/
theorem parse_take_space {s t : List UInt8} {v : JVal} (ht : skipSpace t = [])
    (h : parse (s ++ t) = some v) : parse s = some v := by
  obtain ⟨r, hv, hr⟩ := parse_eq_some_iff.mp h
  obtain ⟨p, b, hst, hb, -, hread⟩ := value_reads maxNestingDepth _ v r hv
  rw [skipSpace_eq_nil] at ht hr
  -- the last byte of the value is not among the white space cut off
  have hmem : b ∉ t := by
    intro hbt
    rw [ht b hbt] at hb
    cases hb
  rcases List.append_eq_append_iff.mp hst with ⟨m, rfl, hm⟩ | ⟨m, rfl, hm⟩
  · exact absurd (by simp [hm]) hmem
  · cases m with
    | nil =>
      rw [List.nil_append] at hm
      exact absurd (by simp [← hm]) hmem
    | cons c m =>
      obtain ⟨rfl, rfl⟩ := List.cons.inj hm
      have hspace : skipSpace m = [] := skipSpace_eq_nil.mpr fun c hc => hr c (by simp [hc])
      exact parse_eq_some_iff.mpr ⟨m, hread m (ends_space hspace), hspace⟩

/-- **What is left of a text that was cut short** is complete only where nothing but white space was
cut off, or where it is a number. -/
theorem cut_complete {s t : List UInt8} {w : JVal} (h : WellFormed (s ++ t))
    (hw : parse s = some w) (hnum : w.isNum = false) :
    skipSpace t = [] ∧ parse (s ++ t) = some w := by
  obtain ⟨depth, v, r, hv, hr⟩ := h
  obtain ⟨r', hw', -⟩ := parse_eq_some_iff.mp hw
  -- both are read at a depth that is enough for both
  have hv := value_mono (Nat.le_max_left depth maxNestingDepth) hv
  have hw' := value_mono (Nat.le_max_right depth maxNestingDepth) hw'
  obtain ⟨p, b, rfl, -, -, hread⟩ := value_reads _ _ _ _ hw'
  have hboth := hread (r' ++ t) (by rw [hnum]; exact ends_false _)
  rw [List.append_assoc, List.cons_append, hboth] at hv
  cases hv
  rw [skipSpace_eq_nil] at hr
  have ht : skipSpace t = [] := skipSpace_eq_nil.mpr fun c hc => hr c (by simp [hc])
  exact ⟨ht, parse_append_space ht hw⟩

/-! ## Texts of values -/

/-- A value and the bytes it is written in. -/
structure Captured where
  text : List UInt8
  value : JVal

/-- A value behind white space. -/
def captured (depth : ℕ) (s : List UInt8) : Option (Captured × List UInt8) :=
  match value depth s with
  | none => none
  | some (v, r) =>
    let s := skipSpace s
    some (⟨s.take (s.length - r.length), v⟩, r)

/-- The value of a whole text. -/
def capture (s : List UInt8) : Option Captured :=
  match captured maxNestingDepth s with
  | none => none
  | some (c, r) => if skipSpace r = [] then some c else none

/-- A value is captured up to its last byte. -/
theorem captured_spec {depth : ℕ} {s r : List UInt8} {v : JVal}
    (h : value depth s = some (v, r)) :
    ∃ p b, s = p ++ b :: r ∧ ∀ x, Ends v.isNum x →
      captured depth (p ++ b :: x) = some (⟨skipSpace p ++ [b], v⟩, x) := by
  obtain ⟨p, b, hs, hb, -, hread⟩ := value_reads depth s v r h
  refine ⟨p, b, hs, fun x hx => ?_⟩
  have hskip : skipSpace (p ++ b :: x) = skipSpace p ++ b :: x := by
    unfold skipSpace
    rw [List.dropWhile_append]
    split
    · rename_i hnil
      rw [List.isEmpty_iff] at hnil
      rw [hnil, List.nil_append, List.dropWhile_cons, hb]
      rfl
    · rfl
  unfold captured
  rw [hread x hx, hskip]
  simp only [List.length_append, List.length_cons]
  rw [show (skipSpace p).length + (x.length + 1) - x.length = (skipSpace p ++ [b]).length by
    rw [List.length_append, List.length_singleton]
    omega]
  rw [show skipSpace p ++ b :: x = (skipSpace p ++ [b]) ++ x by simp, List.take_left]

/-- The captured value is the one that is parsed. -/
theorem capture_value {s : List UInt8} {c : Captured} (h : capture s = some c) :
    parse s = some c.value := by
  unfold capture captured at h
  unfold parse
  cases hv : value maxNestingDepth s with
  | none =>
    rw [hv] at h
    cases h
  | some p =>
    rw [hv] at h
    simp only at h ⊢
    split at h
    · rename_i hr
      cases h
      rw [if_pos hr]
    · cases h

/-- **White space behind a text is not captured.** -/
theorem capture_append_space {s t : List UInt8} {v : JVal} (h : parse s = some v)
    (ht : skipSpace t = []) : capture (s ++ t) = capture s := by
  obtain ⟨r, hv, hr⟩ := parse_eq_some_iff.mp h
  obtain ⟨p, b, rfl, hread⟩ := captured_spec hv
  have hwhole : ∀ x, skipSpace x = [] →
      capture (p ++ b :: x) = some ⟨skipSpace p ++ [b], v⟩ := by
    intro x hx
    unfold capture
    rw [hread x (ends_space hx)]
    simp only [hx, if_true]
  have hrt : skipSpace (r ++ t) = [] := by
    rw [skipSpace_eq_nil] at hr ht ⊢
    exact List.forall_mem_append.mpr ⟨hr, ht⟩
  rw [List.append_assoc, List.cons_append, hwhole (r ++ t) hrt, hwhole r hr]

end Go
