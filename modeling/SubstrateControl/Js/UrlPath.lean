import Mathlib.Data.List.TakeWhile
import SubstrateControl.Go.Dispatch
import SubstrateControl.Go.Utf8

/-!
# Paths of URLs in the browser

* `encodeURIComponent` — of a text, in bytes.
* `normalize` — what the URL parser makes of the segments of a path: dot segments are removed.
* `urlPath` — the path that is requested for a reference that starts with a single slash.
* `urlPath_joined` — segments of unreserved characters and escapes that are no dots stay.
* `normalize_dots` — a dot segment leaves a shorter path, or one that ends in a slash.
-/

set_option autoImplicit false

namespace Js

open Go ServeMux Kit

/-- The bytes `encodeURIComponent` leaves alone. -/
def isUnreserved (b : UInt8) : Bool :=
  (0x30 ≤ b && b ≤ 0x39) || (0x41 ≤ b && b ≤ 0x5A) || (0x61 ≤ b && b ≤ 0x7A) ||
    (utf8 "-_.!~*'()".toList).contains b

def encodeURIComponent (s : String) : List UInt8 := Percent.encode isUnreserved (utf8 s.toList)

/-! ## The URL parser -/

/-- A single-dot URL path segment. -/
def isSingleDot (s : List UInt8) : Bool :=
  [".", "%2e", "%2E"].any fun t => utf8 t.toList == s

/-- A double-dot URL path segment. -/
def isDoubleDot (s : List UInt8) : Bool :=
  ["..", ".%2e", ".%2E", "%2e.", "%2E.", "%2e%2e", "%2e%2E", "%2E%2e", "%2E%2E"].any
    fun t => utf8 t.toList == s

/-- The path state of the URL parser, by segments: `out` is the path so far. -/
def normalize : (out l : List (List UInt8)) → List (List UInt8)
  | out, [] => out
  | out, [s] =>
    if isDoubleDot s then out.dropLast ++ [[]]
    else if isSingleDot s then out ++ [[]]
    else out ++ [s]
  | out, s :: t :: l =>
    if isDoubleDot s then normalize out.dropLast (t :: l)
    else if isSingleDot s then normalize out (t :: l)
    else normalize (out ++ [s]) (t :: l)

/-- A path ends at a query or a fragment. -/
def endsPath (b : UInt8) : Bool := b == 0x3F || b == 0x23

/-- The bytes outside the path percent-encode set. -/
def staysInPath (b : UInt8) : Bool :=
  0x20 < b && b < 0x7F && !(utf8 "\"#<>?^\x60\x7b\x7d".toList).contains b

/-- The path for a reference that starts with one slash and has no blanks or control characters,
in a URL with a special scheme. -/
def urlPath (reference : List UInt8) : List UInt8 :=
  let path := (reference.takeWhile fun b => !endsPath b).map fun b => if b = 0x5C then slash else b
  joined (normalize [] ((Percent.encode staysInPath path.tail).splitOn slash))

/-! ## Encoded texts -/

/-- The bytes `encodeURIComponent` writes. -/
def isWritten (b : UInt8) : Bool := isUnreserved b || b == Percent.percent

theorem forall_byte {P : UInt8 → Prop} (h : ∀ n < 256, P (UInt8.ofNat n)) (b : UInt8) : P b := by
  have hb := h b.toNat b.toNat_lt
  rwa [UInt8.ofNat_toNat] at hb

/-- What is written is no delimiter and needs no further encoding. -/
theorem isWritten_stays {b : UInt8} : isWritten b = true →
    staysInPath b = true ∧ endsPath b = false ∧ b ≠ 0x5C ∧ b ≠ slash :=
  forall_byte (P := fun b => isWritten b = true →
    staysInPath b = true ∧ endsPath b = false ∧ b ≠ 0x5C ∧ b ≠ slash) (by decide +kernel) b

theorem isWritten_of_mem (s : String) {b : UInt8} (h : b ∈ encodeURIComponent s) :
    isWritten b = true := by
  have hkeep : ∀ b, isUnreserved b = true → isWritten b = true := fun b hb => by
    simp [isWritten, hb]
  exact Percent.forall_mem_encode hkeep (by decide) (by decide) _ b h

theorem utf8_injective {s t : String} (h : utf8 s.toList = utf8 t.toList) : s = t := by
  have hrunes := congrArg runes h
  rw [runes_utf8, runes_utf8] at hrunes
  exact String.toList_inj.mp hrunes

theorem decode_encodeURIComponent (s : String) :
    Percent.decode (encodeURIComponent s) = some (utf8 s.toList) :=
  Percent.decode_encode (by decide) _

/-- A text is encoded as one of the spellings of `t` only if it is `t`. -/
theorem any_spelling_iff {spellings : List String} {t : String}
    (hall : ∀ u ∈ spellings, Percent.decode (utf8 u.toList) = some (utf8 t.toList))
    (hself : encodeURIComponent t = utf8 t.toList) (hmem : t ∈ spellings) (s : String) :
    (spellings.any fun u => utf8 u.toList == encodeURIComponent s) = true ↔ s = t := by
  rw [List.any_eq_true]
  constructor
  · rintro ⟨u, hu, heq⟩
    have hdecode := hall u hu
    rw [eq_of_beq heq, decode_encodeURIComponent] at hdecode
    exact utf8_injective (Option.some.inj hdecode)
  · rintro rfl
    exact ⟨s, hmem, by rw [hself, beq_self_eq_true]⟩

/-- **Only a dot is encoded as a single-dot segment.** -/
theorem isSingleDot_encode (s : String) : isSingleDot (encodeURIComponent s) = true ↔ s = "." :=
  any_spelling_iff (by decide) (by decide) (by decide) s

theorem isDoubleDot_encode (s : String) :
    isDoubleDot (encodeURIComponent s) = true ↔ s = ".." :=
  any_spelling_iff (by decide +kernel) (by decide) (by decide) s

theorem encodeURIComponent_eq_nil (s : String) : encodeURIComponent s = [] ↔ s = "" := by
  unfold encodeURIComponent
  rw [Percent.encode_eq_nil]
  constructor
  · exact fun h => utf8_injective h
  · rintro rfl
    rfl

/-! ## Normal paths -/

/-- A dot segment of either kind. -/
def isDots (s : List UInt8) : Bool := isDoubleDot s || isSingleDot s

/-- Without dot segments the path stays. -/
theorem normalize_plain : ∀ (l out : List (List UInt8)), (∀ s ∈ l, isDots s = false) →
    normalize out l = out ++ l
  | [], out, _ => (List.append_nil out).symm
  | [s], out, h => by
    obtain ⟨hdouble, hsingle⟩ := Bool.or_eq_false_iff.mp (h s (by simp))
    simp [normalize, hdouble, hsingle]
  | s :: t :: l, out, h => by
    obtain ⟨hdouble, hsingle⟩ := Bool.or_eq_false_iff.mp (h s (by simp))
    have ih := normalize_plain (t :: l) (out ++ [s]) fun u hu => h u (List.mem_cons_of_mem _ hu)
    simp [normalize, hdouble, hsingle, ih]

theorem normalize_length_le : ∀ l out : List (List UInt8),
    (normalize out l).length ≤ out.length + l.length
  | [], out => by simp [normalize]
  | [s], out => by
    unfold normalize
    split
    · simp
    · split <;> simp
  | s :: t :: l, out => by
    have hdouble := normalize_length_le (t :: l) out.dropLast
    have hsingle := normalize_length_le (t :: l) out
    have hplain := normalize_length_le (t :: l) (out ++ [s])
    simp only [List.length_dropLast, List.length_append, List.length_cons, List.length_nil]
      at hdouble hsingle hplain ⊢
    unfold normalize
    split
    · omega
    · split <;> omega

/-- **A dot segment leaves fewer segments, or an empty last one.** -/
theorem normalize_dots : ∀ (l out : List (List UInt8)), (∃ s ∈ l, isDots s = true) →
    (normalize out l).length < out.length + l.length ∨ (normalize out l).getLast? = some []
  | [], _, h => by simp at h
  | [s], out, h => by
    have hdots : isDoubleDot s = true ∨ isSingleDot s = true := by simpa [isDots] using h
    right
    unfold normalize
    split
    · simp
    · rename_i hdouble
      rw [if_pos (hdots.resolve_left hdouble)]
      simp
  | s :: t :: l, out, h => by
    have hdouble := normalize_length_le (t :: l) out.dropLast
    have hsingle := normalize_length_le (t :: l) out
    simp only [List.length_dropLast, List.length_cons] at hdouble hsingle
    unfold normalize
    split
    · left
      simp only [List.length_cons]
      omega
    · rename_i hnotDouble
      split
      · left
        simp only [List.length_cons]
        omega
      · rename_i hnotSingle
        have hrest : ∃ u ∈ t :: l, isDots u = true := by
          obtain ⟨u, hu, hdots⟩ := h
          rcases List.mem_cons.mp hu with rfl | hu
          · simp [isDots, hnotDouble, hnotSingle] at hdots
          · exact ⟨u, hu, hdots⟩
        refine (normalize_dots (t :: l) (out ++ [s]) hrest).imp (fun hlt => ?_) id
        simp only [List.length_append, List.length_cons, List.length_nil] at hlt ⊢
        omega

theorem normalize_ne_nil : ∀ (l out : List (List UInt8)), l ≠ [] → normalize out l ≠ []
  | [], _, h => absurd rfl h
  | [s], out, _ => by
    unfold normalize
    split
    · simp
    · split <;> simp
  | s :: t :: l, out, _ => by
    unfold normalize
    split
    · exact normalize_ne_nil (t :: l) _ (by simp)
    · split <;> exact normalize_ne_nil (t :: l) _ (by simp)

/-- What is left are segments of the path and the empty one. -/
theorem mem_normalize {u : List UInt8} : ∀ l out : List (List UInt8), u ∈ normalize out l →
    u ∈ out ∨ u ∈ l ∨ u = []
  | [], out, h => .inl h
  | [s], out, h => by
    unfold normalize at h
    split at h
    · rcases List.mem_append.mp h with h | h
      · exact .inl (List.dropLast_subset _ h)
      · exact .inr (.inr (List.mem_singleton.mp h))
    · split at h
      · exact (List.mem_append.mp h).imp_right fun h => .inr (List.mem_singleton.mp h)
      · exact (List.mem_append.mp h).imp_right .inl
  | s :: t :: l, out, h => by
    unfold normalize at h
    have hcons : ∀ {p : Prop}, u ∈ t :: l ∨ p → u ∈ s :: t :: l ∨ p :=
      fun h => h.imp_left (List.mem_cons_of_mem _)
    split at h
    · exact (mem_normalize _ _ h).imp (fun h => List.dropLast_subset _ h) hcons
    · split at h
      · exact (mem_normalize _ _ h).imp_right hcons
      · rcases mem_normalize _ _ h with h | h
        · rcases List.mem_append.mp h with h | h
          · exact .inl h
          · exact .inr (.inl (by simp [List.mem_singleton.mp h]))
        · exact .inr (hcons h)

/-- **Segments of written bytes reach the parser as they are.** -/
theorem urlPath_joined {l : List (List UInt8)} (hne : l ≠ [])
    (h : ∀ s ∈ l, ∀ b ∈ s, isWritten b = true) : urlPath (joined l) = joined (normalize [] l) := by
  have hslash : staysInPath slash = true ∧ endsPath slash = false ∧ slash ≠ 0x5C := by decide
  have hbytes : ∀ b ∈ joined l, staysInPath b = true ∧ endsPath b = false ∧ b ≠ 0x5C :=
    forall_mem_joined hslash fun s hs b hb =>
      let ⟨hstays, hends, hback, _⟩ := isWritten_stays (h s hs b hb)
      ⟨hstays, hends, hback⟩
  have htake : (joined l).takeWhile (fun b => !endsPath b) = joined l :=
    List.takeWhile_eq_self_iff.mpr fun b hb => by simp [(hbytes b hb).2.1]
  have hmap : (joined l).map (fun b => if b = 0x5C then slash else b) = joined l := by
    conv_rhs => rw [← List.map_id (joined l)]
    exact List.map_congr_left fun b hb => if_neg (hbytes b hb).2.2
  have hencode : Percent.encode staysInPath (joined l).tail = [slash].intercalate l :=
    Percent.encode_of_keep fun b hb => (hbytes b (List.mem_cons_of_mem _ hb)).1
  have hsplit : ([slash].intercalate l).splitOn slash = l :=
    List.splitOn_intercalate slash
      (fun s hs hmem => (isWritten_stays (h s hs _ hmem)).2.2.2 rfl) hne
  unfold urlPath
  simp only [htake, hmap, hencode, hsplit]

end Js
