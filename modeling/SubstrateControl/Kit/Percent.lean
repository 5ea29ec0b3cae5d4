import Mathlib.Data.List.Basic

/-!
# Percent-encoding

* `Percent.encode keep` — bytes that are not kept are written as `%` and two hexadecimal digits.
* `Percent.decode` — the inverse, with either case of the digits; `none` for a `%` without them.
* `decode_encode` — what is encoded is decoded, whatever is kept, as long as `%` is not.
* `decode_append_cons` — a byte that is in no escape splits what is decoded.
* `forall_mem_encode` — what holds of the bytes that are kept and of the escapes holds of all.
* `encode_encode` — encoding twice keeps what both keep, where the second keeps the escapes.
-/

set_option autoImplicit false

namespace Kit

namespace Percent

/-- `%`. -/
def percent : UInt8 := 0x25

/-- An upper-case hexadecimal digit. -/
def hexDigit (n : ℕ) : UInt8 := UInt8.ofNat (if n < 10 then 0x30 + n else 0x37 + n)

def hexValue (b : UInt8) : Option ℕ :=
  if 0x30 ≤ b ∧ b ≤ 0x39 then some (b.toNat - 0x30)
  else if 0x41 ≤ b ∧ b ≤ 0x46 then some (b.toNat - 0x37)
  else if 0x61 ≤ b ∧ b ≤ 0x66 then some (b.toNat - 0x57)
  else none

def escape (b : UInt8) : List UInt8 := [percent, hexDigit (b.toNat / 16), hexDigit (b.toNat % 16)]

/-- What holds of `%` and of the digits holds of every escape. -/
theorem forall_mem_escape {P : UInt8 → Prop} (hpercent : P percent)
    (hhex : ∀ n < 16, P (hexDigit n)) (b : UInt8) : ∀ c ∈ escape b, P c := by
  have hlt := b.toNat_lt
  intro c hc
  simp only [escape, List.mem_cons, List.not_mem_nil, or_false] at hc
  rcases hc with rfl | rfl | rfl
  · exact hpercent
  · exact hhex _ (by omega)
  · exact hhex _ (by omega)

def encode (keep : UInt8 → Bool) (bs : List UInt8) : List UInt8 :=
  bs.flatMap fun b => if keep b then [b] else escape b

def decode : List UInt8 → Option (List UInt8)
  | [] => some []
  | b :: bs =>
    if b = percent then
      match bs with
      | h :: l :: rest =>
        match hexValue h, hexValue l with
        | some h, some l => (decode rest).map (UInt8.ofNat (16 * h + l) :: ·)
        | _, _ => none
      | _ => none
    else (decode bs).map (b :: ·)

theorem hexValue_hexDigit : ∀ n < 16, hexValue (hexDigit n) = some n := by decide

theorem decode_escape (b : UInt8) (bs : List UInt8) :
    decode (escape b ++ bs) = (decode bs).map (b :: ·) := by
  have hlt := b.toNat_lt
  have hbyte : UInt8.ofNat (16 * (b.toNat / 16) + b.toNat % 16) = b := by
    rw [Nat.div_add_mod]
    exact UInt8.ofNat_toNat
  rw [escape, List.cons_append, List.cons_append, List.singleton_append, decode, if_pos rfl,
    hexValue_hexDigit _ (by omega), hexValue_hexDigit _ (by omega)]
  simp only [hbyte]

theorem decode_cons {b : UInt8} (h : b ≠ percent) (bs : List UInt8) :
    decode (b :: bs) = (decode bs).map (b :: ·) := by
  rw [decode.eq_def]
  exact if_neg h

/-- A `%` without two digits after it is not decoded. -/
theorem decode_broken {h l : UInt8} (hdigits : hexValue h = none ∨ hexValue l = none)
    (bs : List UInt8) : decode (percent :: h :: l :: bs) = none := by
  rw [decode, if_pos rfl]
  rcases hdigits with hh | hl
  · simp only [hh]
  · simp only [hl]
    cases hexValue h <;> rfl

/-- **A byte that is in no escape splits a text** into what is decoded before and after it. -/
theorem decode_append_cons {c : UInt8} (hpercent : c ≠ percent) (hhex : hexValue c = none)
    (bs as : List UInt8) :
    decode (as ++ c :: bs) = (decode as).bind fun x => (decode bs).map fun y => x ++ c :: y := by
  induction as using decode.induct with
  | case1 => simp [decode, decode_cons hpercent]
  | case2 h l rest vh vl hl hh ih =>
    have hstep : ∀ cs, decode (percent :: h :: l :: cs) =
        (decode cs).map (UInt8.ofNat (16 * vh + vl) :: ·) := by
      intro cs
      rw [decode, if_pos rfl]
      simp only [hh, hl]
    rw [List.cons_append, List.cons_append, List.cons_append, hstep, hstep, ih]
    cases decode rest <;> cases decode bs <;> rfl
  | case3 h l rest hnone =>
    have hdigits : hexValue h = none ∨ hexValue l = none := by
      cases hh : hexValue h with
      | none => exact .inl rfl
      | some vh =>
        cases hl : hexValue l with
        | none => exact .inr rfl
        | some vl => exact (hnone vh vl hh hl).elim
    rw [List.cons_append, List.cons_append, List.cons_append, decode_broken hdigits,
      decode_broken hdigits]
    rfl
  | case4 as hshape =>
    -- The escape is cut off by the byte or by the end of the text.
    cases as with
    | nil =>
      cases bs with
      | nil => rfl
      | cons b bs => exact decode_broken (.inl hhex) bs
    | cons h rest =>
      cases rest with
      | nil => exact decode_broken (.inr hhex) bs
      | cons l rest => exact (hshape h l rest rfl).elim
  | case5 b as hb ih =>
    rw [List.cons_append, decode_cons hb, decode_cons hb, ih]
    cases decode as <;> cases decode bs <;> rfl

section

variable {keep : UInt8 → Bool}

@[simp] theorem encode_nil : encode keep [] = [] := rfl

theorem encode_cons (b : UInt8) (bs : List UInt8) :
    encode keep (b :: bs) = (if keep b then [b] else escape b) ++ encode keep bs := rfl

theorem encode_append (as bs : List UInt8) :
    encode keep (as ++ bs) = encode keep as ++ encode keep bs := List.flatMap_append

/-- Kept bytes stay. -/
theorem encode_of_keep : ∀ {bs : List UInt8}, (∀ b ∈ bs, keep b = true) → encode keep bs = bs
  | [], _ => rfl
  | b :: bs, h => by
    rw [encode_cons, if_pos (h b (by simp)),
      encode_of_keep fun c hc => h c (List.mem_cons_of_mem _ hc)]
    rfl

/-- **What is encoded is decoded.** -/
theorem decode_encode (hpercent : keep percent = false) : ∀ bs : List UInt8,
    decode (encode keep bs) = some bs
  | [] => rfl
  | b :: bs => by
    rw [encode_cons]
    by_cases hkeep : keep b = true
    · have hne : b ≠ percent := by
        rintro rfl
        simp [hpercent] at hkeep
      rw [if_pos hkeep, List.singleton_append, decode_cons hne, decode_encode hpercent bs]
      rfl
    · rw [if_neg hkeep, decode_escape, decode_encode hpercent bs]
      rfl

/-- What is encoded is decoded in front of any text. -/
theorem decode_encode_append (hpercent : keep percent = false) (rest : List UInt8) :
    ∀ bs : List UInt8, decode (encode keep bs ++ rest) = (decode rest).map (bs ++ ·)
  | [] => by simp
  | b :: bs => by
    rw [encode_cons, List.append_assoc]
    by_cases hkeep : keep b = true
    · have hne : b ≠ percent := by
        rintro rfl
        simp [hpercent] at hkeep
      rw [if_pos hkeep, List.singleton_append, decode_cons hne,
        decode_encode_append hpercent rest bs, Option.map_map]
      rfl
    · rw [if_neg hkeep, decode_escape, decode_encode_append hpercent rest bs, Option.map_map]
      rfl

theorem encode_eq_nil {bs : List UInt8} : encode keep bs = [] ↔ bs = [] := by
  cases bs with
  | nil => simp
  | cons b bs =>
    rw [encode_cons]
    split <;> simp [escape]

/-- What holds of the bytes that are kept and of the escapes holds of an encoded text. -/
theorem forall_mem_encode {P : UInt8 → Prop} (hkeep : ∀ b, keep b = true → P b)
    (hpercent : P percent) (hhex : ∀ n < 16, P (hexDigit n)) (bs : List UInt8) :
    ∀ c ∈ encode keep bs, P c := by
  intro c hc
  obtain ⟨b, -, hb⟩ := List.mem_flatMap.mp hc
  split at hb
  · rename_i hk
    rw [List.mem_singleton] at hb
    rw [hb]
    exact hkeep b hk
  · exact forall_mem_escape hpercent hhex b c hb

/-- **Encoding twice is encoding once**, where the second encoding keeps the escapes. -/
theorem encode_encode {keep' : UInt8 → Bool} (hescape : ∀ b, ∀ c ∈ escape b, keep' c = true) :
    ∀ bs : List UInt8, encode keep' (encode keep bs) = encode (fun b => keep b && keep' b) bs
  | [] => rfl
  | b :: bs => by
    rw [encode_cons, encode_cons, encode_append, encode_encode hescape bs]
    by_cases hkeep : keep b = true
    · simp [hkeep, encode]
    · simp [hkeep, encode_of_keep (hescape b)]

end

end Percent

end Kit
