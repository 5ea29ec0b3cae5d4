import SubstrateControl.Api.Monitoring
import SubstrateControl.Api.Relay
import SubstrateControl.Gateway.Answers

/-!
# All or nothing

`collectGatewayMetrics` (`internal/api/monitoring.go`) over what happens to its four requests.

* `gatewaySection` — the section, from the wire.
* `AllOrNothing` — complete answers are all used, and an unreachable gateway is shown by zeros.
* `all_or_nothing_iff` — that holds exactly when the complete answers fit what is read of them.
-/

set_option autoImplicit false

namespace Api

open Go Gateway

/-- What happens to the four requests. -/
structure GatewayTrips where
  globalSpend : RoundTrip
  spendLogs : RoundTrip
  globalSpendKeys : RoundTrip
  globalSpendModels : RoundTrip

variable (x : GatewayTexts)

/-- What the four calls return. -/
def gatewayAnswers (t : GatewayTrips) : GatewayAnswers :=
  { globalSpend :=
      doRequest x.upstreamMessage (spendShape.unmarshal x.explain) ⟨0, 0⟩ t.globalSpend
    spendLogs :=
      (doRequest x.upstreamMessage (rowsShape.unmarshal x.explain) [] t.spendLogs).map
        (Gateway.spendLogs x.go)
    globalSpendKeys :=
      (doRequest x.upstreamMessage (rowsShape.unmarshal x.explain) [] t.globalSpendKeys).map
        (Gateway.globalSpendKeys x.go)
    globalSpendModels :=
      (doRequest x.upstreamMessage (rowsShape.unmarshal x.explain) [] t.globalSpendModels).map
        (Gateway.globalSpendModels x.go) }

/-- The section, whatever happens to the requests. -/
def gatewaySection (t : GatewayTrips) : GatewayMetricsJSON :=
  collectGatewayMetrics (gatewayAnswers x t)

/-! ## The section as a whole -/

/-- A section that is not reachable shows nothing. -/
theorem collectGatewayMetrics_zero {a : GatewayAnswers}
    (h : (collectGatewayMetrics a).reachable = false) : collectGatewayMetrics a = .zero := by
  unfold collectGatewayMetrics at h ⊢
  split at h
  · cases h
  · rfl

/-- A section is reachable when all four calls succeeded. -/
theorem collectGatewayMetrics_reachable {a : GatewayAnswers}
    (h : (collectGatewayMetrics a).reachable = true) :
    (∃ v, a.globalSpend = .ok v) ∧ (∃ v, a.spendLogs = .ok v) ∧
      (∃ v, a.globalSpendKeys = .ok v) ∧ ∃ v, a.globalSpendModels = .ok v := by
  unfold collectGatewayMetrics at h
  split at h
  · rename_i global logs keys models hglobal hlogs hkeys hmodels
    exact ⟨⟨global, hglobal⟩, ⟨logs, hlogs⟩, ⟨keys, hkeys⟩, ⟨models, hmodels⟩⟩
  · cases h

theorem map_eq_ok {ε ρ σ : Type} {r : Except ε ρ} {f : ρ → σ} {v : σ} (h : r.map f = .ok v) :
    ∃ w, r = .ok w := by
  cases r with
  | error e => cases h
  | ok w => exact ⟨w, rfl⟩

/-! ## Complete answers -/

/-- The bodies of four answers. -/
structure GatewayBodies where
  globalSpend : List UInt8
  spendLogs : List UInt8
  globalSpendKeys : List UInt8
  globalSpendModels : List UInt8

/-- A complete answer of a shape, which is no error. -/
def Complete {α : Type} (sh : Shape α) (rt : RoundTrip) (body : List UInt8) : Prop :=
  ∃ status, rt = .answered status body ∧ status < 400 ∧ sh.WellFormed body

/-- All four requests get complete answers. -/
structure GatewayTrips.Complete (t : GatewayTrips) (b : GatewayBodies) : Prop where
  globalSpend : Api.Complete spendShape t.globalSpend b.globalSpend
  spendLogs : Api.Complete rowsShape t.spendLogs b.spendLogs
  globalSpendKeys : Api.Complete rowsShape t.globalSpendKeys b.globalSpendKeys
  globalSpendModels : Api.Complete rowsShape t.globalSpendModels b.globalSpendModels

/-- Each body fits what is read and decoded of it. -/
structure GatewayBodies.Fits (b : GatewayBodies) : Prop where
  globalSpend : spendShape.Fits b.globalSpend
  spendLogs : rowsShape.Fits b.spendLogs
  globalSpendKeys : rowsShape.Fits b.globalSpendKeys
  globalSpendModels : rowsShape.Fits b.globalSpendModels

/-- A section that is computed from whole answers. -/
def ComputedFrom (b : GatewayBodies) (out : GatewayMetricsJSON) : Prop :=
  ∃ global logs keys models,
    spendShape.Gives b.globalSpend global ∧ rowsShape.Gives b.spendLogs logs ∧
    rowsShape.Gives b.globalSpendKeys keys ∧ rowsShape.Gives b.globalSpendModels models ∧
    out = collectGatewayMetrics (answered x.go global logs keys models)

/-- Complete answers make a reachable section computed from all of them, and a section that is not
reachable is zero. -/
def AllOrNothing (t : GatewayTrips) : Prop :=
  (∀ b, t.Complete b → (gatewaySection x t).reachable = true ∧
    ComputedFrom x b (gatewaySection x t)) ∧
  ((gatewaySection x t).reachable = false → gatewaySection x t = .zero)

/-- Answers that fit make the section. -/
theorem gatewaySection_fits {t : GatewayTrips} {b : GatewayBodies} (h : t.Complete b)
    (hfits : b.Fits) :
    (gatewaySection x t).reachable = true ∧ ComputedFrom x b (gatewaySection x t) := by
  obtain ⟨s1, h1, hs1, hw1⟩ := h.globalSpend
  obtain ⟨s2, h2, hs2, hw2⟩ := h.spendLogs
  obtain ⟨s3, h3, hs3, hw3⟩ := h.globalSpendKeys
  obtain ⟨s4, h4, hs4, hw4⟩ := h.globalSpendModels
  obtain ⟨global, hglobal, hdo1⟩ :=
    @doRequest_fits _ _ x.upstreamMessage x.explain ⟨0, 0⟩ _ _ hs1 hw1 hfits.globalSpend
  obtain ⟨logs, hlogs, hdo2⟩ :=
    @doRequest_fits _ _ x.upstreamMessage x.explain [] _ _ hs2 hw2 hfits.spendLogs
  obtain ⟨keys, hkeys, hdo3⟩ :=
    @doRequest_fits _ _ x.upstreamMessage x.explain [] _ _ hs3 hw3 hfits.globalSpendKeys
  obtain ⟨models, hmodels, hdo4⟩ :=
    @doRequest_fits _ _ x.upstreamMessage x.explain [] _ _ hs4 hw4 hfits.globalSpendModels
  have hanswers : gatewayAnswers x t = answered x.go global logs keys models := by
    unfold gatewayAnswers answered
    rw [h1, h2, h3, h4, hdo1, hdo2, hdo3, hdo4]
    rfl
  unfold gatewaySection
  rw [hanswers]
  exact ⟨rfl, global, logs, keys, models, hglobal, hlogs, hkeys, hmodels, rfl⟩

/-- A reachable section had answers that fit. -/
theorem fits_of_reachable {t : GatewayTrips} {b : GatewayBodies} (h : t.Complete b)
    (hreach : (gatewaySection x t).reachable = true) : b.Fits := by
  obtain ⟨⟨global, hglobal⟩, ⟨logs, hlogs⟩, ⟨keys, hkeys⟩, ⟨models, hmodels⟩⟩ :=
    collectGatewayMetrics_reachable hreach
  obtain ⟨rows, hlogs⟩ := map_eq_ok hlogs
  obtain ⟨rows', hkeys⟩ := map_eq_ok hkeys
  obtain ⟨rows'', hmodels⟩ := map_eq_ok hmodels
  obtain ⟨s1, h1, hs1, hw1⟩ := h.globalSpend
  obtain ⟨s2, h2, hs2, hw2⟩ := h.spendLogs
  obtain ⟨s3, h3, hs3, hw3⟩ := h.globalSpendKeys
  obtain ⟨s4, h4, hs4, hw4⟩ := h.globalSpendModels
  unfold gatewayAnswers at hglobal
  rw [h1] at hglobal
  rw [h2] at hlogs
  rw [h3] at hkeys
  rw [h4] at hmodels
  exact ⟨(doRequest_ok_iff hs1 hw1).mp ⟨global, hglobal⟩, (doRequest_ok_iff hs2 hw2).mp ⟨_, hlogs⟩,
    (doRequest_ok_iff hs3 hw3).mp ⟨_, hkeys⟩, (doRequest_ok_iff hs4 hw4).mp ⟨_, hmodels⟩⟩

/-- **All or nothing, up to the limits**: complete answers are all used exactly when each has
nothing but white space beyond 4 MiB, no more than 10000 levels of nesting and no number out of
range. -/
theorem all_or_nothing_iff (t : GatewayTrips) :
    AllOrNothing x t ↔ ∀ b, t.Complete b → b.Fits := by
  constructor
  · intro h b hb
    exact fits_of_reachable x hb (h.1 b hb).1
  · intro h
    exact ⟨fun b hb => gatewaySection_fits x hb (h b hb), collectGatewayMetrics_zero⟩

/-! ## A large answer -/

/-- An answer to `/spend/logs`: one request, logged with its messages. -/
def loggedMessages (n : ℕ) : Doc :=
  .arr [.obj [(goString "messages", .str (List.replicate n (byte 'x')))]]

/-- A gateway with one request in its log. -/
def largeTrips (n : ℕ) : GatewayTrips :=
  { globalSpend := .answered 200 (encodeLine (.obj []))
    spendLogs := .answered 200 (encodeLine (loggedMessages n))
    globalSpendKeys := .answered 200 (encodeLine (.arr []))
    globalSpendModels := .answered 200 (encodeLine (.arr [])) }

def largeBodies (n : ℕ) : GatewayBodies :=
  ⟨encodeLine (.obj []), encodeLine (loggedMessages n), encodeLine (.arr []), encodeLine (.arr [])⟩

theorem wellFormed_encodeLine {α : Type} {sh : Shape α} {d : Doc}
    (hdepth : d.depth ≤ maxNestingDepth) (hread : (sh.read some d.toJVal).isSome = true) :
    sh.WellFormed (encodeLine d) :=
  ⟨d.toJVal, (parse_iff_denotes.mp (parse_encode hdepth)).1, hread⟩

theorem largeTrips_complete (n : ℕ) : (largeTrips n).Complete (largeBodies n) :=
  { globalSpend := ⟨200, rfl, by omega, wellFormed_encodeLine (by decide) rfl⟩
    spendLogs := ⟨200, rfl, by omega, wellFormed_encodeLine
      (by simp [loggedMessages, Doc.depth, itemsDepth, fieldsDepth, maxNestingDepth]) rfl⟩
    globalSpendKeys := ⟨200, rfl, by omega, wellFormed_encodeLine (by decide) rfl⟩
    globalSpendModels := ⟨200, rfl, by omega, wellFormed_encodeLine (by decide) rfl⟩ }

/-- A letter is written as itself. -/
theorem escapeText_letters : ∀ n, escapeText (List.replicate n (byte 'x')) = List.replicate n 'x'
  | 0 => rfl
  | n + 1 => by
    have ih := escapeText_letters n
    have hrune : decodeRune (byte 'x' :: List.replicate n (byte 'x')) = ('x', 1) :=
      decodeRune_utf8EncodeChar 'x' (List.replicate n (byte 'x'))
    unfold escapeText at ih ⊢
    rw [List.replicate_succ, List.replicate_succ, escapeAfter, hrune]
    simp only [Nat.sub_self, ih]
    rfl

/-- The answer is longer than the messages, and ends with a bracket. -/
theorem encodeLine_loggedMessages (n : ℕ) :
    ∃ p, n ≤ p.length ∧ encodeLine (loggedMessages n) = p ++ [byte ']', byte '\n'] := by
  refine ⟨byte '[' :: encode (.obj [(goString "messages",
    .str (List.replicate n (byte 'x')))]), ?_, ?_⟩
  · have hletters : n ≤ (utf8 (escapeText (List.replicate n (byte 'x')))).length := by
      rw [escapeText_letters]
      induction n with
      | zero => exact Nat.zero_le _
      | succ n ih =>
        rw [List.replicate_succ, utf8_cons, List.length_append]
        have hone : (String.utf8EncodeChar 'x').length = 1 := by decide
        omega
    simp only [encode, encodeString, encodeFields, List.length_cons, List.length_append]
    omega
  · simp [encodeLine, loggedMessages, encode, encodeItems]

/-- A log of more than 4 MiB takes the gateway down. -/
theorem all_or_nothing_counterexample :
    ∃ b, (largeTrips readLimit).Complete b ∧
      (gatewaySection ⟨⟨fun _ => "", fun _ => 0⟩, fun _ _ => "", fun _ => ""⟩
        (largeTrips readLimit)).reachable = false := by
  refine ⟨_, largeTrips_complete readLimit, ?_⟩
  cases hreach : (gatewaySection ⟨⟨fun _ => "", fun _ => 0⟩, fun _ _ => "", fun _ => ""⟩
      (largeTrips readLimit)).reachable with
  | false => rfl
  | true =>
    have hfits := (fits_of_reachable _ (largeTrips_complete readLimit) hreach).spendLogs.1
    obtain ⟨p, hp, hline⟩ := encodeLine_loggedMessages readLimit
    have hmem : byte ']' ∈ (encodeLine (loggedMessages readLimit)).drop readLimit := by
      rw [hline, List.drop_append_of_le_length hp]
      simp
    have hspace := skipSpace_eq_nil.mp hfits (byte ']') hmem
    revert hspace
    decide

end Api
