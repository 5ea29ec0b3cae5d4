import Mathlib.Logic.Function.Basic
import SubstrateControl.Gateway.Client
import SubstrateControl.Go.Utf8
import SubstrateControl.Kit.Base64
import SubstrateControl.Kit.Machine
import SubstrateControl.Kube.Object

/-!
# The master key

`masterKey` (`internal/gateway/client.go`), which every request to LiteLLM starts with.

* `Client.masterKey` — the method, as a function of what `GetSecret` gives.
* `Call`, `Keyring`, `Keyring.step` — any number of calls side by side: the mutex, the cache and the
  Secret in the cluster, which may change at any time.  `run_masterKey`: a call that runs alone
  returns what the method does.
* `Keyring.Inv` — the invariant: who is inside holds the mutex, and the cache is what the answers of
  the API server so far give.
* `one_master_key` — in every order of steps all calls that return a key return the same one: that
  of the environment, else that of the first Secret with a key; and no Secret is read after it.
-/

set_option autoImplicit false

namespace Gateway

open Go Kit Kube

/-! ## The method -/

/-- The `master-key` in the data of a Secret, empty where there is none. -/
def rawMasterKey (sec : Unstructured) : String :=
  match (nestedMap sec "data").get "master-key" with
  | .str raw => raw
  | _ => ""

/-- The key that a Secret holds; an empty one is none. -/
def secretKey (sec : Unstructured) : Option (List UInt8) :=
  match Base64.decode (utf8 (rawMasterKey sec).toList) with
  | some (b :: bs) => some (b :: bs)
  | _ => none

/-- A Secret as the API server writes it: its data are bytes. -/
def storedSecret (data : List (String × List UInt8)) : Unstructured :=
  [("data", .obj (data.map fun kv =>
    (kv.1, .str (String.ofList (runes (Base64.encode kv.2))))))]

theorem valid_ascii : ∀ bs : List UInt8, (∀ b ∈ bs, b < 0x80) → Valid bs
  | [], _ => ⟨[], rfl⟩
  | b :: bs, h => by
    obtain ⟨cs, hcs⟩ := valid_ascii bs fun c hc => h c (List.mem_cons_of_mem b hc)
    have hb : b.toNat < 0x80 := UInt8.lt_iff_toNat_lt.mp (h b List.mem_cons_self)
    have hall : ∀ n < 0x80, String.utf8EncodeChar (Char.ofNat n) = [UInt8.ofNat n] := by
      decide +kernel
    refine ⟨Char.ofNat b.toNat :: cs, ?_⟩
    rw [utf8_cons, hcs, hall _ hb, UInt8.ofNat_toNat]
    rfl

/-- **The key is what is stored**, whatever its bytes are. -/
theorem secretKey_stored {data : List (String × List UInt8)} {key : List UInt8}
    (h : data.lookup "master-key" = some key) (hne : key ≠ []) :
    secretKey (storedSecret data) = some key := by
  have hlookup : ∀ data : List (String × List UInt8), (data.map fun kv =>
      (kv.1, JVal.str (String.ofList (runes (Base64.encode kv.2))))).lookup "master-key" =
        (data.lookup "master-key").map fun bs =>
          .str (String.ofList (runes (Base64.encode bs))) := by
    intro data
    induction data with
    | nil => rfl
    | cons kv data ih =>
      rw [List.map_cons, List.lookup_cons, List.lookup_cons, ih]
      split <;> rfl
  have hraw : rawMasterKey (storedSecret data) = String.ofList (runes (Base64.encode key)) := by
    have hnested : nestedMap (storedSecret data) "data" = data.map fun kv =>
        (kv.1, JVal.str (String.ofList (runes (Base64.encode kv.2)))) := rfl
    unfold rawMasterKey
    rw [hnested, JObj.get, hlookup, h]
    rfl
  unfold secretKey
  rw [hraw, String.toList_ofList, (utf8_runes_iff _).mpr (valid_ascii _ (Base64.encode_ascii key)),
    Base64.decode_encode]
  cases key with
  | nil => exact absurd rfl hne
  | cons b bs => rfl

/-- What `GetSecret` gives: the Secret, or the text of an error. -/
abbrev SecretAnswer := Except String Unstructured

/-- The key in an answer. -/
def SecretAnswer.key : SecretAnswer → Option (List UInt8)
  | .ok sec => secretKey sec
  | .error _ => none

/-- `Client`, as far as `masterKey` goes. -/
structure Client where
  envKey : List UInt8
  /-- `c.kube` is not nil. -/
  hasKube : Bool
  cache : List UInt8 := []
  deriving DecidableEq, Repr

def noKubeError : Error :=
  ⟨.notConfigured, "no LITELLM_MASTER_KEY and kubernetes client unavailable"⟩

/-- The error for an answer without a key. -/
def secretError : SecretAnswer → Error
  | .error e => ⟨.notConfigured, "reading secret litellm/litellm-secrets: " ++ e⟩
  | .ok _ =>
    ⟨.notConfigured, "master-key missing or undecodable in secret litellm/litellm-secrets"⟩

/-- The end of `masterKey`, from what `GetSecret` gave. -/
def Client.readKey (c : Client) (answer : SecretAnswer) : Except Error (List UInt8) × Client :=
  match answer.key with
  | none => (.error (secretError answer), c)
  | some key => (.ok key, { c with cache := key })

/-- `masterKey`. -/
def Client.masterKey (c : Client) (answer : SecretAnswer) : Except Error (List UInt8) × Client :=
  if c.envKey ≠ [] then (.ok c.envKey, c)
  else if c.cache ≠ [] then (.ok c.cache, c)
  else if c.hasKube = false then (.error noKubeError, c)
  else c.readKey answer

/-- A key is never empty. -/
theorem key_ne_nil {answer : SecretAnswer} {key : List UInt8} (h : answer.key = some key) :
    key ≠ [] := by
  cases answer with
  | error e => cases h
  | ok sec =>
    simp only [SecretAnswer.key, secretKey] at h
    split at h
    · cases h
      exact List.cons_ne_nil _ _
    · cases h

theorem secretError_kind (answer : SecretAnswer) : (secretError answer).kind = .notConfigured := by
  cases answer <;> rfl

/-! ## Calls side by side -/

/-- Where a call of `masterKey` stands. -/
inductive Call where
  | unstarted
  /-- At `c.mu.Lock()`. -/
  | lock
  /-- At the test of the cache. -/
  | check
  /-- In `GetSecret`. -/
  | ask
  /-- `GetSecret` has returned. -/
  | asked (answer : SecretAnswer)
  | returned (result : Except Error (List UInt8))

/-- Between `c.mu.Lock()` and `c.mu.Unlock()`. -/
def Call.locked : Call → Bool
  | .check | .ask | .asked _ => true
  | _ => false

/-- Past the test of the cache. -/
def Call.missed : Call → Bool
  | .ask | .asked _ => true
  | _ => false

theorem Call.locked_of_missed {c : Call} (h : c.missed = true) : c.locked = true := by
  cases c <;> first | rfl | cases h

/-- The client, its calls, and the Secret as `GetSecret` would give it now. -/
structure Keyring (κ : Type) where
  client : Client
  secret : SecretAnswer
  mu : Option κ := none
  calls : κ → Call := fun _ => .unstarted
  /-- What `GetSecret` has given so far. -/
  answers : List SecretAnswer := []

inductive KeyEvent (κ : Type) where
  /-- The Secret is written, deleted, or becomes readable or unreadable. -/
  | change (secret : SecretAnswer)
  /-- A call takes its next step. -/
  | go (k : κ)

/-! ## The invariant -/

/-- The key in the first answer that has one. -/
def firstKey (answers : List SecretAnswer) : Option (List UInt8) :=
  answers.findSome? SecretAnswer.key

theorem firstKey_append {before : List SecretAnswer} (h : firstKey before = none)
    (answer : SecretAnswer) : firstKey (before ++ [answer]) = answer.key := by
  unfold firstKey at h ⊢
  rw [List.findSome?_append, h, Option.none_or]
  cases hkey : answer.key with
  | none => simp [hkey]
  | some key => simp [hkey]

/-- What holds of a call, with the client, the answers so far, and the call holding the mutex or
not. -/
structure Call.Fits (c : Call) (client : Client) (answers : List SecretAnswer) (holds : Prop) :
    Prop where
  mutex : c.locked = true ↔ holds
  /-- With a key in the environment nothing is locked. -/
  env : client.envKey ≠ [] → c = .unstarted ∨ c = .returned (.ok client.envKey)
  missed : c.missed = true → client.cache = []
  /-- An answer that is still to be looked at is the last one. -/
  asked : ∀ answer, c = .asked answer →
    ∃ before, answers = before ++ [answer] ∧ firstKey before = none
  key : ∀ key, client.envKey = [] → c = .returned (.ok key) → key ≠ [] ∧ key = client.cache
  error : ∀ e, c = .returned (.error e) → client.envKey = [] ∧ e.kind = .notConfigured

/-- A call that does not hold the mutex, while another one works on the cache. -/
theorem Call.Fits.outside {c : Call} {client client' : Client}
    {answers answers' : List SecretAnswer}
    {holds holds' : Prop} (h : c.Fits client answers holds) (hout : ¬ holds) (hout' : ¬ holds')
    (henv : client'.envKey = client.envKey)
    (hcache : client.cache ≠ [] → client'.cache = client.cache) :
    c.Fits client' answers' holds' := by
  have hlocked : c.locked = false := by
    rw [← Bool.not_eq_true, h.mutex]
    exact hout
  refine ⟨?_, ?_, ?_, ?_, ?_, ?_⟩
  · rw [hlocked]
    exact iff_of_false Bool.false_ne_true hout'
  · rw [henv]
    exact h.env
  · intro hmissed
    rw [Call.locked_of_missed hmissed] at hlocked
    cases hlocked
  · rintro answer rfl
    cases hlocked
  · intro key hnone hkey
    rw [henv] at hnone
    obtain ⟨hne, heq⟩ := h.key key hnone hkey
    rw [hcache (heq ▸ hne)]
    exact ⟨hne, heq⟩
  · rw [henv]
    exact h.error

/-- The invariant of a run. -/
structure Keyring.Inv {κ : Type} (s : Keyring κ) : Prop where
  calls : ∀ k, (s.calls k).Fits s.client s.answers (s.mu = some k)
  env : s.client.envKey ≠ [] → s.answers = []
  /-- No answer but the last has a key. -/
  last : firstKey s.answers.dropLast = none
  /-- The cache is what the answers give, but for one that is still to be looked at. -/
  cache : (∀ k answer, s.calls k ≠ .asked answer) →
    firstKey s.answers = if s.client.cache = [] then none else some s.client.cache

namespace Keyring

section

variable {κ : Type} {s : Keyring κ} {k : κ}

/-- The call that holds the mutex is the only one inside. -/
theorem Inv.only (h : s.Inv) (hlocked : (s.calls k).locked = true) :
    s.mu = some k ∧ ∀ l, s.mu = some l → l = k := by
  have hmu := (h.calls k).mutex.mp hlocked
  refine ⟨hmu, fun l hl => ?_⟩
  rw [hmu] at hl
  exact (Option.some.inj hl).symm

/-- Where it has no answer to look at, no call has. -/
theorem Inv.none_asked (h : s.Inv) (hin : ∀ l, s.mu = some l → l = k)
    (hk : ∀ answer, s.calls k ≠ .asked answer) : ∀ l answer, s.calls l ≠ .asked answer := by
  intro l answer hasked
  have hmu : s.mu = some l := (h.calls l).mutex.mp (by rw [hasked]; rfl)
  rw [hin l hmu] at hasked
  exact hk answer hasked

/-- Only without a key in the environment does a call get so far. -/
theorem Inv.envKey_nil (h : s.Inv) (hunstarted : s.calls k ≠ .unstarted)
    (hreturned : ∀ r, s.calls k ≠ .returned r) : s.client.envKey = [] := by
  by_contra henv
  rcases (h.calls k).env henv with hk | hk
  · exact hunstarted hk
  · exact hreturned _ hk

/-- There is a key to be returned without reading the Secret. -/
def HasKey (s : Keyring κ) : Prop := s.client.envKey ≠ [] ∨ s.client.cache ≠ []

/-- A key that a call has returned. -/
theorem Inv.hasKey (h : s.Inv) {key : List UInt8} (hk : s.calls k = .returned (.ok key)) :
    s.HasKey := by
  by_cases henv : s.client.envKey = []
  · obtain ⟨hne, heq⟩ := (h.calls k).key key henv hk
    exact .inr (heq ▸ hne)
  · exact .inl henv

/-- All calls return the same key. -/
theorem Inv.returned_key (h : s.Inv) {key : List UInt8} (hk : s.calls k = .returned (.ok key)) :
    key = if s.client.envKey ≠ [] then s.client.envKey else s.client.cache := by
  split
  · rename_i henv
    rcases (h.calls k).env henv with hk' | hk' <;> rw [hk] at hk' <;> cases hk'
    rfl
  · rename_i henv
    exact ((h.calls k).key key (not_not.mp henv) hk).2

/-- Where there is a key no call goes past the cache. -/
theorem Inv.not_missed (h : s.Inv) (hkey : s.HasKey) (k : κ) : (s.calls k).missed = false := by
  by_contra hmissed
  rw [Bool.not_eq_false] at hmissed
  rcases hkey with henv | hcache
  · rcases (h.calls k).env henv with hk | hk <;> rw [hk] at hmissed <;> cases hmissed
  · exact hcache ((h.calls k).missed hmissed)

/-- What a key that was returned says of the answers so far. -/
theorem Inv.answered (h : s.Inv) (hkey : s.HasKey) :
    if s.client.envKey ≠ [] then s.answers = []
    else ∃ before answer, s.answers = before ++ [answer] ∧ answer.key = some s.client.cache ∧
      ∀ a ∈ before, a.key = none := by
  split
  · rename_i henv
    exact h.env henv
  · rename_i henv
    have hne := hkey.resolve_left henv
    have hfirst : firstKey s.answers = some s.client.cache := by
      rw [h.cache fun k answer hk => hne ((h.calls k).missed (by rw [hk]; rfl)), if_neg hne]
    rcases List.eq_nil_or_concat s.answers with hnil | ⟨before, answer, hlast⟩
    · rw [hnil] at hfirst
      cases hfirst
    · rw [List.concat_eq_append] at hlast
      have hbefore := h.last
      rw [hlast, List.dropLast_concat] at hbefore
      rw [hlast, firstKey_append hbefore] at hfirst
      exact ⟨before, answer, hlast, hfirst, List.findSome?_eq_none_iff.mp hbefore⟩

/-- A client that has just been made. -/
def init (κ : Type) (envKey : List UInt8) (hasKube : Bool) (secret : SecretAnswer) : Keyring κ :=
  { client := { envKey, hasKube }, secret }

theorem inv_init (envKey : List UInt8) (hasKube : Bool) (secret : SecretAnswer) :
    (init κ envKey hasKube secret).Inv where
  calls _ :=
    { mutex := iff_of_false Bool.false_ne_true (fun hmu => nomatch hmu)
      env := fun _ => .inl rfl
      missed := fun hmissed => nomatch hmissed
      asked := fun _ hasked => nomatch hasked
      key := fun _ _ hkey => nomatch hkey
      error := fun _ herror => nomatch herror }
  env _ := rfl
  last := rfl
  cache _ := rfl

end

/-! ## Steps -/

variable {κ : Type} [DecidableEq κ]

def set (s : Keyring κ) (k : κ) (c : Call) : Keyring κ :=
  { s with calls := Function.update s.calls k c }

/-- A call returns, and the deferred `c.mu.Unlock()` runs. -/
def leave (s : Keyring κ) (k : κ) (result : Except Error (List UInt8)) : Keyring κ :=
  { s.set k (.returned result) with mu := none }

/-- Call `k` takes a step. -/
def go (s : Keyring κ) (k : κ) : Keyring κ :=
  match s.calls k with
  | .unstarted =>
    if s.client.envKey ≠ [] then s.set k (.returned (.ok s.client.envKey)) else s.set k .lock
  | .lock => if s.mu = none then { s.set k .check with mu := some k } else s
  | .check =>
    if s.client.cache ≠ [] then s.leave k (.ok s.client.cache)
    else if s.client.hasKube = false then s.leave k (.error noKubeError)
    else s.set k .ask
  | .ask => { s.set k (.asked s.secret) with answers := s.answers ++ [s.secret] }
  | .asked answer =>
    { s.leave k (s.client.readKey answer).1 with client := (s.client.readKey answer).2 }
  | .returned _ => s

def step (s : Keyring κ) : KeyEvent κ → Keyring κ
  | .change secret => { s with secret }
  | .go k => s.go k

/-- **A call that runs alone returns what the method does**, and leaves the client as it does. -/
theorem run_masterKey {s : Keyring κ} {k : κ} (hk : s.calls k = .unstarted) (hmu : s.mu = none) :
    let t := Machine.run step s [.go k, .go k, .go k, .go k, .go k]
    t.calls k = .returned (s.client.masterKey s.secret).1 ∧
      t.client = (s.client.masterKey s.secret).2 ∧ t.mu = none := by
  unfold Client.masterKey
  by_cases henv : s.client.envKey ≠ []
  · simp [Machine.run, step, go, set, hk, henv, hmu]
  · by_cases hcache : s.client.cache ≠ []
    · simp [Machine.run, step, go, set, leave, hk, henv, hmu, hcache]
    · by_cases hkube : s.client.hasKube = false
      · simp [Machine.run, step, go, set, leave, hk, henv, hmu, hcache, hkube]
      · simp [Machine.run, step, go, set, leave, hk, henv, hmu, hcache, hkube]

variable {s s' : Keyring κ} {k : κ} {c : Call}

/-- A step of a call while no other one holds the mutex. -/
theorem Inv.moves (h : s.Inv) (hcalls : s'.calls = Function.update s.calls k c)
    (hin : ∀ l, s.mu = some l → l = k) (hin' : ∀ l, s'.mu = some l → l = k)
    (henv : s'.client.envKey = s.client.envKey)
    (hcache : s.client.cache ≠ [] → s'.client.cache = s.client.cache)
    (hc : c.Fits s'.client s'.answers (s'.mu = some k)) :
    ∀ l, (s'.calls l).Fits s'.client s'.answers (s'.mu = some l) := by
  intro l
  rw [hcalls]
  by_cases hl : l = k
  · subst hl
    rw [Function.update_self]
    exact hc
  · rw [Function.update_of_ne hl]
    exact (h.calls l).outside (fun hmu => hl (hin l hmu)) (fun hmu => hl (hin' l hmu)) henv hcache

theorem calls_set_of_ne (s : Keyring κ) (c : Call) {l : κ} (hl : l ≠ k) :
    (s.set k c).calls l = s.calls l := Function.update_of_ne hl _ _

/-- A call begins, whatever the others do. -/
theorem Inv.begin (h : s.Inv) (hk : s.calls k = .unstarted)
    (hc : ¬ s.mu = some k → c.Fits s.client s.answers (s.mu = some k)) : (s.set k c).Inv := by
  have hmu : ¬ s.mu = some k := fun hmu => by
    have hlocked := (h.calls k).mutex.mpr hmu
    rw [hk] at hlocked
    cases hlocked
  refine ⟨fun l => ?_, h.env, h.last, fun hnone => h.cache fun l answer hl => ?_⟩
  · by_cases hl : l = k
    · subst hl
      show (Function.update s.calls l c l).Fits _ _ _
      rw [Function.update_self]
      exact hc hmu
    · rw [calls_set_of_ne s c hl]
      exact h.calls l
  · by_cases hlk : l = k
    · rw [hlk, hk] at hl
      cases hl
    · exact hnone l answer (by rw [calls_set_of_ne s c hlk]; exact hl)

theorem Inv.start (h : s.Inv) (hk : s.calls k = .unstarted) : (s.go k).Inv := by
  rw [go]
  simp only [hk]
  split
  · rename_i henv
    refine h.begin hk fun hmu => ?_
    exact ⟨iff_of_false Bool.false_ne_true hmu, fun _ => .inr rfl,
      fun hmissed => (nomatch hmissed), fun _ hasked => (nomatch hasked),
      fun _ hempty => absurd hempty henv, fun _ herror => (nomatch herror)⟩
  · rename_i henv
    refine h.begin hk fun hmu => ?_
    exact ⟨iff_of_false Bool.false_ne_true hmu, fun hne => absurd hne henv,
      fun hmissed => (nomatch hmissed), fun _ hasked => (nomatch hasked),
      fun _ _ hkey => (nomatch hkey), fun _ herror => (nomatch herror)⟩

theorem Inv.lock (h : s.Inv) (hk : s.calls k = .lock) : (s.go k).Inv := by
  rw [go]
  simp only [hk]
  split
  · rename_i hmu
    have henv := h.envKey_nil (k := k) (by simp [hk]) (by simp [hk])
    have hin : ∀ l, s.mu = some l → l = k := by simp [hmu]
    refine ⟨h.moves (k := k) (c := .check) rfl hin (fun l hl => (Option.some.inj hl).symm) rfl
      (fun _ => rfl) ?_, h.env, h.last, fun _ => h.cache (h.none_asked hin (by simp [hk]))⟩
    exact ⟨iff_of_true rfl rfl, fun hne => absurd henv hne, fun hmissed => (nomatch hmissed),
      fun _ hasked => (nomatch hasked), fun _ _ hkey => (nomatch hkey),
      fun _ herror => (nomatch herror)⟩
  · exact h

/-- A call that holds the mutex returns; the cache is as the answers say. -/
theorem Inv.leave (h : s.Inv) (hlocked : (s.calls k).locked = true)
    {result : Except Error (List UInt8)} {client : Client}
    (henv : client.envKey = s.client.envKey)
    (hcache : s.client.cache ≠ [] → client.cache = s.client.cache)
    (hanswers : firstKey s.answers = if client.cache = [] then none else some client.cache)
    (hkey : ∀ key, result = .ok key → key ≠ [] ∧ key = client.cache)
    (herror : ∀ e, result = .error e → e.kind = .notConfigured) :
    Inv { s.leave k result with client } := by
  obtain ⟨-, hin⟩ := h.only hlocked
  have hnone : s.client.envKey = [] := by
    apply h.envKey_nil (k := k) <;> intros <;> intro hk <;> rw [hk] at hlocked <;> cases hlocked
  refine ⟨h.moves (k := k) (c := .returned result) rfl hin (fun l hl => nomatch hl) henv hcache ?_,
    fun hne => h.env (henv ▸ hne), h.last, fun _ => hanswers⟩
  refine ⟨iff_of_false Bool.false_ne_true (fun hmu => nomatch hmu),
    fun hne => absurd (henv.trans hnone) hne, fun hmissed => (nomatch hmissed),
    fun _ hasked => (nomatch hasked), fun key _ heq => hkey key ?_,
    fun e heq => ⟨henv.trans hnone, herror e ?_⟩⟩
  · exact Call.returned.inj heq
  · exact Call.returned.inj heq

theorem Inv.check (h : s.Inv) (hk : s.calls k = .check) : (s.go k).Inv := by
  have hlocked : (s.calls k).locked = true := by rw [hk]; rfl
  obtain ⟨hmu, hin⟩ := h.only hlocked
  have hanswers := h.cache (h.none_asked hin (by simp [hk]))
  rw [go]
  simp only [hk]
  split
  · rename_i hne
    refine h.leave hlocked rfl (fun _ => rfl) hanswers (fun key hkey => ?_) (fun _ herror => ?_)
    · cases hkey
      exact ⟨hne, rfl⟩
    · cases herror
  · rename_i hempty
    rw [not_not] at hempty
    split
    · refine h.leave hlocked rfl (fun _ => rfl) hanswers (fun _ hkey => ?_) (fun e herror => ?_)
      · cases hkey
      · cases herror
        rfl
    · have henv := h.envKey_nil (k := k) (by simp [hk]) (by simp [hk])
      refine ⟨h.moves (k := k) (c := .ask) rfl hin hin rfl (fun _ => rfl) ?_, h.env, h.last,
        fun _ => hanswers⟩
      exact ⟨iff_of_true rfl hmu, fun hne => absurd henv hne, fun _ => hempty,
        fun _ hasked => (nomatch hasked), fun _ _ hkey => (nomatch hkey),
        fun _ herror => (nomatch herror)⟩

theorem Inv.ask (h : s.Inv) (hk : s.calls k = .ask) : (s.go k).Inv := by
  obtain ⟨hmu, hin⟩ := h.only (k := k) (by rw [hk]; rfl)
  have henv := h.envKey_nil (k := k) (by simp [hk]) (by simp [hk])
  have hempty := (h.calls k).missed (by rw [hk]; rfl)
  have hfirst : firstKey s.answers = none := by
    rw [h.cache (h.none_asked hin (by simp [hk])), if_pos hempty]
  rw [go]
  simp only [hk]
  refine ⟨h.moves (k := k) (c := .asked s.secret) rfl hin hin rfl (fun _ => rfl) ?_,
    fun hne => absurd henv hne, ?_, fun hnone => ?_⟩
  · refine ⟨iff_of_true rfl hmu, fun hne => absurd henv hne, fun _ => hempty, ?_,
      fun _ _ hkey => (nomatch hkey), fun _ herror => (nomatch herror)⟩
    rintro answer hanswer
    cases hanswer
    exact ⟨s.answers, rfl, hfirst⟩
  · show firstKey (s.answers ++ [s.secret]).dropLast = none
    rw [List.dropLast_concat]
    exact hfirst
  · exact absurd (Function.update_self k _ s.calls) (hnone k s.secret)

theorem Inv.asked (h : s.Inv) {answer : SecretAnswer} (hk : s.calls k = .asked answer) :
    (s.go k).Inv := by
  have hlocked : (s.calls k).locked = true := by rw [hk]; rfl
  have hempty := (h.calls k).missed (by rw [hk]; rfl)
  obtain ⟨before, hbefore, hfirst⟩ := (h.calls k).asked answer hk
  have hanswers : firstKey s.answers = answer.key := by
    rw [hbefore]
    exact firstKey_append hfirst answer
  rw [go]
  simp only [hk]
  unfold Client.readKey
  cases hkey : answer.key with
  | none =>
    refine h.leave hlocked rfl (fun _ => rfl) ?_ (fun _ heq => ?_) (fun e heq => ?_)
    · rw [hanswers, hkey, if_pos hempty]
    · cases heq
    · cases heq
      exact secretError_kind answer
  | some key =>
    have hne := key_ne_nil hkey
    refine h.leave hlocked rfl (fun hcache => absurd hempty hcache) ?_ (fun _ heq => ?_)
      (fun _ heq => ?_)
    · rw [hanswers, hkey, if_neg hne]
    · cases heq
      exact ⟨hne, rfl⟩
    · cases heq

/-- **Every step keeps the invariant.** -/
theorem Inv.step (h : s.Inv) (e : KeyEvent κ) : (s.step e).Inv := by
  cases e with
  | change secret => exact ⟨h.calls, h.env, h.last, h.cache⟩
  | go k =>
    show (s.go k).Inv
    cases hk : s.calls k with
    | unstarted => exact h.start hk
    | lock => exact h.lock hk
    | check => exact h.check hk
    | ask => exact h.ask hk
    | asked answer => exact h.asked hk
    | returned r =>
      rw [go]
      simp only [hk]
      exact h

/-! ## After the first key -/

/-- **Where there is a key the client stays as it is and nothing is read.** -/
theorem Inv.step_settled (h : s.Inv) (hkey : s.HasKey) (e : KeyEvent κ) :
    (s.step e).client = s.client ∧ (s.step e).answers = s.answers := by
  cases e with
  | change secret => exact ⟨rfl, rfl⟩
  | go k =>
    have hmissed := h.not_missed hkey k
    show (s.go k).client = _ ∧ (s.go k).answers = _
    rw [go]
    cases hk : s.calls k with
    | asked answer =>
      rw [hk] at hmissed
      cases hmissed
    | ask =>
      rw [hk] at hmissed
      cases hmissed
    | returned r => exact ⟨rfl, rfl⟩
    | unstarted =>
      dsimp only
      split <;> exact ⟨rfl, rfl⟩
    | lock =>
      dsimp only
      split <;> exact ⟨rfl, rfl⟩
    | check =>
      dsimp only
      split
      · exact ⟨rfl, rfl⟩
      · split <;> exact ⟨rfl, rfl⟩

theorem go_of_ne (s : Keyring κ) {l : κ} (hl : l ≠ k) : (s.go k).calls l = s.calls l := by
  rw [go]
  cases s.calls k with
  | unstarted =>
    dsimp only
    split <;> exact calls_set_of_ne s _ hl
  | lock =>
    dsimp only
    split
    · exact calls_set_of_ne s _ hl
    · rfl
  | check =>
    dsimp only
    split
    · exact calls_set_of_ne s _ hl
    · split <;> exact calls_set_of_ne s _ hl
  | ask => exact calls_set_of_ne s _ hl
  | asked answer => exact calls_set_of_ne s _ hl
  | returned r => rfl

/-- **Where there is a key no call fails any more.** -/
theorem Inv.no_new_error (h : s.Inv) (hkey : s.HasKey) (ev : KeyEvent κ) {l : κ} {e : Error}
    (herror : (s.step ev).calls l = .returned (.error e)) : s.calls l = .returned (.error e) := by
  cases ev with
  | change secret => exact herror
  | go k =>
    change (s.go k).calls l = _ at herror
    by_cases hl : l = k
    · subst hl
      have hmissed := h.not_missed hkey l
      have hfits := h.calls l
      rw [go] at herror
      cases hk : s.calls l with
      | unstarted =>
        rw [hk] at herror
        dsimp only at herror
        split at herror <;> simp [set] at herror
      | lock =>
        rw [hk] at herror
        dsimp only at herror
        split at herror
        · simp [set] at herror
        · rw [hk] at herror
          cases herror
      | check =>
        have hcache : s.client.cache ≠ [] := by
          refine hkey.resolve_left fun henv => ?_
          rcases hfits.env henv with hc | hc <;> rw [hk] at hc <;> cases hc
        rw [hk] at herror
        dsimp only at herror
        rw [if_pos hcache] at herror
        simp [Keyring.leave, set] at herror
      | ask =>
        rw [hk] at hmissed
        cases hmissed
      | asked answer =>
        rw [hk] at hmissed
        cases hmissed
      | returned r =>
        rw [hk] at herror
        rwa [← hk]
    · rwa [go_of_ne s hl] at herror

/-- What holds of every state after one with a key. -/
structure After (s t : Keyring κ) : Prop where
  inv : t.Inv
  client : t.client = s.client
  answers : t.answers = s.answers
  errors : ∀ l e, t.calls l = .returned (.error e) → s.calls l = .returned (.error e)

/-- **A step after the first key changes nothing of this.** -/
theorem After.step {t : Keyring κ} (hkey : s.HasKey) (h : After s t) (e : KeyEvent κ) :
    After s (t.step e) := by
  have hthere : t.HasKey := by
    unfold HasKey
    rw [h.client]
    exact hkey
  obtain ⟨hclient, hanswers⟩ := h.inv.step_settled hthere e
  exact ⟨h.inv.step e, hclient.trans h.client, hanswers.trans h.answers,
    fun l e' herror => h.errors l e' (h.inv.no_new_error hthere e herror)⟩

theorem step_envKey (s : Keyring κ) (e : KeyEvent κ) :
    (s.step e).client.envKey = s.client.envKey := by
  cases e with
  | change secret => rfl
  | go k =>
    show (s.go k).client.envKey = _
    rw [go]
    cases s.calls k with
    | asked answer =>
      show (s.client.readKey answer).2.envKey = _
      unfold Client.readKey
      cases answer.key <;> rfl
    | ask => rfl
    | returned r => rfl
    | unstarted =>
      dsimp only
      split <;> rfl
    | lock =>
      dsimp only
      split <;> rfl
    | check =>
      dsimp only
      split
      · rfl
      · split <;> rfl

theorem run_envKey (envKey : List UInt8) (hasKube : Bool) (secret : SecretAnswer)
    (es : List (KeyEvent κ)) :
    (Machine.run step (init κ envKey hasKube secret) es).client.envKey = envKey := by
  have hstep : ∀ (s : Keyring κ) e, s.client.envKey = envKey → (s.step e).client.envKey = envKey :=
    fun s e h => (step_envKey s e).trans h
  exact Machine.run_invariant hstep es _ rfl

theorem run_inv (envKey : List UInt8) (hasKube : Bool) (secret : SecretAnswer)
    (es : List (KeyEvent κ)) : (Machine.run step (init κ envKey hasKube secret) es).Inv :=
  Machine.run_invariant (fun _ e h => h.step e) es _ (inv_init envKey hasKube secret)

/-- **All calls that return a key return the same one**, in every order of their steps and whatever
happens to the Secret: the key of the environment, without a look at the cluster, or the key in the
first Secret that had one, which is what was stored there.  After that no call fails and no Secret
is read.  A call that runs alone does what the method does. -/
theorem one_master_key {envKey : List UInt8} {hasKube : Bool} {secret : SecretAnswer}
    {es : List (KeyEvent κ)} {key : List UInt8}
    (h : (Machine.run step (init κ envKey hasKube secret) es).calls k = .returned (.ok key))
    (es' : List (KeyEvent κ)) :
    let s := Machine.run step (init κ envKey hasKube secret) es
    let t := Machine.run step s es'
    (∀ l key', t.calls l = .returned (.ok key') → key' = key) ∧
      (∀ l e, t.calls l = .returned (.error e) →
        s.calls l = .returned (.error e) ∧ e.kind = .notConfigured) ∧
      t.answers = s.answers ∧
      (if envKey ≠ [] then key = envKey ∧ s.answers = []
      else ∃ before answer, s.answers = before ++ [answer] ∧ answer.key = some key ∧
        ∀ a ∈ before, a.key = none) ∧
      (∀ data stored, data.lookup "master-key" = some stored → stored ≠ [] →
        secretKey (storedSecret data) = some stored) ∧
      ∀ l, t.calls l = .unstarted → t.mu = none →
        let u := Machine.run step t [.go l, .go l, .go l, .go l, .go l]
        u.calls l = .returned (t.client.masterKey t.secret).1 ∧
          u.client = (t.client.masterKey t.secret).2 ∧ u.mu = none := by
  intro s t
  have hs : s.Inv := run_inv envKey hasKube secret es
  have hkey : s.HasKey := hs.hasKey h
  have hstep : ∀ t e, After s t → After s (step t e) := fun t e ht => ht.step hkey e
  have ht : After s t := Machine.run_invariant hstep es' s ⟨hs, rfl, rfl, fun _ _ herror => herror⟩
  have hreturned := hs.returned_key h
  have hanswered := hs.answered hkey
  have henvKey : s.client.envKey = envKey := run_envKey envKey hasKube secret es
  rw [henvKey] at hanswered hreturned
  refine ⟨fun l key' hl => ?_, fun l e hl => ⟨ht.errors l e hl, ((ht.inv.calls l).error e hl).2⟩,
    ht.answers, ?_, fun _ _ hdata hne => secretKey_stored hdata hne,
    fun _ hl hmu => run_masterKey hl hmu⟩
  · rw [ht.inv.returned_key hl, hreturned, ht.client, henvKey]
  · split at hreturned
    · rename_i henv
      rw [if_pos henv] at hanswered ⊢
      exact ⟨hreturned, hanswered⟩
    · rename_i henv
      rw [if_neg henv] at hanswered ⊢
      rwa [hreturned]

/-- A Secret with the key `sk-1`. -/
def masterSecret : Unstructured := storedSecret [("master-key", utf8 "sk-1".toList)]

/-- A first call finds no Secret, a second one reads it, and a third one gets its key after the
Secret was deleted. -/
theorem one_master_key_read :
    let s := Machine.run step (init (Fin 3) [] true (.error "not found"))
      [.go 0, .go 0, .go 1, .go 0, .go 0, .go 0, .change (.ok masterSecret), .go 1, .go 1, .go 1,
        .go 1]
    let t := Machine.run step s [.change (.error "not found"), .go 2, .go 2, .go 2]
    t.calls 2 = .returned (.ok (utf8 "sk-1".toList)) ∧
      ∀ key', t.calls 2 = .returned (.ok key') → key' = utf8 "sk-1".toList := by
  have h : (Machine.run step (init (Fin 3) [] true (.error "not found"))
      [.go 0, .go 0, .go 1, .go 0, .go 0, .go 0, .change (.ok masterSecret), .go 1, .go 1, .go 1,
        .go 1]).calls 1 = .returned (.ok (utf8 "sk-1".toList)) := by rfl
  exact ⟨rfl, (one_master_key h [.change (.error "not found"), .go 2, .go 2, .go 2]).1 2⟩

end Keyring

end Gateway
