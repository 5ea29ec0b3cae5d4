import SubstrateControl.Go.Strings
import SubstrateControl.Kit.Machine
import Mathlib.Logic.Function.Basic

/-!
# Projected tokens: the file cache and rotations under it

Model of `FileTokenProvider` (`internal/substrate/filetoken.go`).

* `FileTokenProvider.get`, `forceRefresh`, `readLocked` — the source's methods as functions of
  what their file operations give.
* `FileState.step` — the same calls one file operation at a time, with rotations of the file
  between any two of them.
* `RunsMethods` — from a state the operations of one call do what the method does on the answers
  they get.
* `Describes` — a cached pair of a token and an mtime belongs to one version of the file.
* `calm` — a second stat that succeeds finds the version that was read.
* `fresh_of_calm` — in every calm run the pair always describes one version and every `Get` that
  no rotation overlaps returns the current token; a second stat that then finds another version
  leaves a pair that describes none.
-/

set_option autoImplicit false

namespace Substrate

open Go Kit

/-- `FileTokenProvider`; mtimes are integers, in nanoseconds. -/
structure FileTokenProvider where
  path : String
  token : String
  mtime : ℤ
  deriving DecidableEq, Repr

namespace FileTokenProvider

/-- `NewFileTokenProvider`: nothing is cached yet. -/
def new (path : String) : FileTokenProvider := ⟨path, "", 0⟩

/-- The test `Get` makes on the mtime it has just read. -/
def cached (p : FileTokenProvider) (modTime : ℤ) : Bool :=
  p.token != "" && decide (modTime = p.mtime)

/-- `readLocked`, given what `os.ReadFile` and the `os.Stat` after it return. -/
def readLocked (p : FileTokenProvider) (read : Except String String)
    (restat : Except String ℤ) : Except String String × FileTokenProvider :=
  match read with
  | .error e => (.error e, p)
  | .ok b =>
    if trimSpace b = "" then (.error "token file is empty", p)
    else
      match restat with
      | .error e => (.error e, p)
      | .ok modTime => (.ok (trimSpace b), { p with token := trimSpace b, mtime := modTime })

/-- `Get`, given what its `os.Stat` and those of `readLocked` return. -/
def get (p : FileTokenProvider) (stat : Except String ℤ) (read : Except String String)
    (restat : Except String ℤ) : Except String String × FileTokenProvider :=
  match stat with
  | .error e => (.error e, p)
  | .ok modTime => if p.cached modTime then (.ok p.token, p) else p.readLocked read restat

/-- `ForceRefresh`. -/
def forceRefresh (p : FileTokenProvider) (read : Except String String)
    (restat : Except String ℤ) : Except String String × FileTokenProvider :=
  p.readLocked read restat

/-- All that reading can do: succeed with a non-empty token, which it caches with the second
mtime, or fail and leave the provider alone. -/
theorem readLocked_cases (p : FileTokenProvider) (read : Except String String)
    (restat : Except String ℤ) :
    (∃ tok modTime, tok ≠ "" ∧
      p.readLocked read restat = (.ok tok, { p with token := tok, mtime := modTime })) ∨
    ∃ e, p.readLocked read restat = (.error e, p) := by
  unfold readLocked
  split
  · exact Or.inr ⟨_, rfl⟩
  · split
    · exact Or.inr ⟨_, rfl⟩
    · rename_i hne
      split
      · exact Or.inr ⟨_, rfl⟩
      · exact Or.inl ⟨_, _, hne, rfl⟩

end FileTokenProvider

/-! ## One file operation at a time -/

/-- The versions of the token file: each rotation gives new content and a new mtime. -/
structure TokenFile where
  content : ℕ → String
  mtime : ℕ → ℤ
  mtime_injective : Function.Injective mtime

inductive CallKind where
  | get
  | forceRefresh
  deriving DecidableEq, Repr

/-- Where the call that holds the mutex stands; `start` is the version it started at and
`readAt` the one it has read. -/
inductive Pc where
  | idle
  | stat (start : ℕ)
  | read (kind : CallKind) (start : ℕ)
  | restat (kind : CallKind) (start readAt : ℕ) (tok : String)
  deriving DecidableEq, Repr

/-- A call that has returned, with the versions at its start and at its return. -/
structure Returned where
  kind : CallKind
  start : ℕ
  finish : ℕ
  result : Except String String

structure FileState where
  version : ℕ
  provider : FileTokenProvider
  pc : Pc
  returned : List Returned

def FileState.init (path : String) : FileState := ⟨0, FileTokenProvider.new path, .idle, []⟩

inductive FileEvent where
  /-- the kubelet replaces the file -/
  | rotate
  /-- a call takes the mutex -/
  | call (kind : CallKind)
  /-- the call's next file operation, which fails with `fault` if there is one -/
  | op (fault : Option String)
  deriving DecidableEq, Repr

/-- The call returns and releases the mutex. -/
def FileState.ret (s : FileState) (kind : CallKind) (start : ℕ) (r : Except String String) :
    FileState :=
  { s with pc := .idle, returned := ⟨kind, start, s.version, r⟩ :: s.returned }

/-- One event; a call waits while another holds the mutex. -/
def FileState.step (F : TokenFile) (s : FileState) : FileEvent → FileState
  | .rotate => { s with version := s.version + 1 }
  | .call kind =>
    match s.pc with
    | .idle =>
      match kind with
      | .get => { s with pc := .stat s.version }
      | .forceRefresh => { s with pc := .read .forceRefresh s.version }
    | _ => s
  | .op fault =>
    match s.pc with
    | .idle => s
    | .stat start =>
      match fault with
      | some e => s.ret .get start (.error e)
      | none =>
        if s.provider.cached (F.mtime s.version) then s.ret .get start (.ok s.provider.token)
        else { s with pc := .read .get start }
    | .read kind start =>
      match fault with
      | some e => s.ret kind start (.error e)
      | none =>
        if trimSpace (F.content s.version) = "" then
          s.ret kind start (.error "token file is empty")
        else { s with pc := .restat kind start s.version (trimSpace (F.content s.version)) }
    | .restat kind start _ tok =>
      match fault with
      | some e => s.ret kind start (.error e)
      | none =>
        { s with provider := { s.provider with token := tok, mtime := F.mtime s.version } }.ret
          kind start (.ok tok)

/-- What an operation returns that reads `x` unless it fails. -/
def answer {α : Type} (fault : Option String) (x : α) : Except String α :=
  match fault with
  | some e => .error e
  | none => .ok x

theorem run_rotations (F : TokenFile) (s : FileState) (n : ℕ) :
    Machine.run (FileState.step F) s (List.replicate n .rotate) =
      { s with version := s.version + n } := by
  induction n generalizing s with
  | zero => rfl
  | succ n ih =>
    rw [List.replicate_succ, Machine.run_cons, ih]
    simp [FileState.step, Nat.add_assoc, Nat.add_comm 1 n]

/-- From `s` to `t` one call has run: the mutex is free, `p` is the provider, and the call's
return with `r` has been logged. -/
structure Finished (s t : FileState) (kind : CallKind) (start : ℕ) (r : Except String String)
    (p : FileTokenProvider) : Prop where
  idle : t.pc = .idle
  provider : t.provider = p
  returned : ∃ finish, t.returned = ⟨kind, start, finish, r⟩ :: s.returned

/-- The events of `readLocked`: read and stat, with rotations before each. -/
def readEvents (b c : ℕ) (f₂ f₃ : Option String) : List FileEvent :=
  List.replicate b .rotate ++ [.op f₂] ++ List.replicate c .rotate ++ [.op f₃]

/-- Operations left over after a call has returned meet a free mutex and do nothing. -/
theorem run_leftover (F : TokenFile) {s : FileState} (hidle : s.pc = .idle) (b c : ℕ)
    (f₂ f₃ : Option String) :
    Machine.run (FileState.step F) s (readEvents b c f₂ f₃) =
      { s with version := s.version + b + c } := by
  simp [readEvents, Machine.run_append, run_rotations, FileState.step, hidle]

/-- The two operations of `readLocked`, with rotations around them, do what `readLocked` does on
what they return. -/
theorem run_readLocked (F : TokenFile) {s : FileState} {kind : CallKind} {start : ℕ}
    (hpc : s.pc = .read kind start) (b c : ℕ) (f₂ f₃ : Option String) :
    let r := s.provider.readLocked (answer f₂ (F.content (s.version + b)))
      (answer f₃ (F.mtime (s.version + b + c)))
    Finished s (Machine.run (FileState.step F) s (readEvents b c f₂ f₃)) kind start r.1 r.2 := by
  intro r
  simp only [r, readEvents, Machine.run_append, run_rotations, Machine.run_cons, Machine.run_nil]
  cases f₂ with
  | some e =>
    constructor <;>
      simp [FileState.step, hpc, FileState.ret, answer, FileTokenProvider.readLocked]
  | none =>
    by_cases hempty : trimSpace (F.content (s.version + b)) = ""
    · constructor <;>
        simp [FileState.step, hpc, FileState.ret, answer, FileTokenProvider.readLocked, hempty]
    · cases f₃ <;> constructor <;>
        simp [FileState.step, hpc, FileState.ret, answer, FileTokenProvider.readLocked, hempty]

/-- **The small steps of a `ForceRefresh` are `ForceRefresh`.** -/
theorem run_forceRefresh (F : TokenFile) {s : FileState} (hidle : s.pc = .idle) (b c : ℕ)
    (f₂ f₃ : Option String) :
    let r := s.provider.forceRefresh (answer f₂ (F.content (s.version + b)))
      (answer f₃ (F.mtime (s.version + b + c)))
    Finished s (Machine.run (FileState.step F) s
      (.call .forceRefresh :: readEvents b c f₂ f₃)) .forceRefresh s.version r.1 r.2 := by
  have hstep : s.step F (.call .forceRefresh) = { s with pc := .read .forceRefresh s.version } := by
    simp [FileState.step, hidle]
  rw [Machine.run_cons, hstep]
  obtain ⟨h1, h2, h3⟩ := run_readLocked F
    (s := { s with pc := .read .forceRefresh s.version }) rfl b c f₂ f₃
  exact ⟨h1, h2, h3⟩

/-- **The small steps of a `Get` are `Get`.** -/
theorem run_get (F : TokenFile) {s : FileState} (hidle : s.pc = .idle) (a b c : ℕ)
    (f₁ f₂ f₃ : Option String) :
    let r := s.provider.get (answer f₁ (F.mtime (s.version + a)))
      (answer f₂ (F.content (s.version + a + b))) (answer f₃ (F.mtime (s.version + a + b + c)))
    Finished s (Machine.run (FileState.step F) s
      (.call .get :: (List.replicate a .rotate ++ .op f₁ :: readEvents b c f₂ f₃)))
      .get s.version r.1 r.2 := by
  intro r
  have hcall : s.step F (.call .get) = { s with pc := .stat s.version } := by
    simp [FileState.step, hidle]
  rw [Machine.run_cons, hcall, Machine.run_append, run_rotations, Machine.run_cons]
  cases f₁ with
  | some e =>
    rw [run_leftover F rfl]
    exact ⟨rfl, rfl, _, rfl⟩
  | none =>
    cases hcache : s.provider.cached (F.mtime (s.version + a)) with
    | true =>
      have hr : r = (.ok s.provider.token, s.provider) := by
        simp [r, FileTokenProvider.get, answer, hcache]
      simp only [FileState.step, hcache, if_true]
      rw [run_leftover F rfl, hr]
      exact ⟨rfl, rfl, _, rfl⟩
    | false =>
      have hr : r = s.provider.readLocked (answer f₂ (F.content (s.version + a + b)))
          (answer f₃ (F.mtime (s.version + a + b + c))) := by
        simp [r, FileTokenProvider.get, answer, hcache]
      simp only [FileState.step, hcache, Bool.false_eq_true, if_false]
      obtain ⟨h1, h2, h3⟩ := run_readLocked F
        (s := { s with version := s.version + a, pc := .read .get s.version }) rfl b c f₂ f₃
      rw [hr]
      exact ⟨h1, h2, h3⟩

/-- From `s` the operations of a call, with any rotations between them, do what the method does on
the answers they get. -/
structure RunsMethods (F : TokenFile) (s : FileState) : Prop where
  get : ∀ (a b c : ℕ) (f₁ f₂ f₃ : Option String),
    let r := s.provider.get (answer f₁ (F.mtime (s.version + a)))
      (answer f₂ (F.content (s.version + a + b))) (answer f₃ (F.mtime (s.version + a + b + c)))
    Finished s (Machine.run (FileState.step F) s
      (.call .get :: (List.replicate a .rotate ++ .op f₁ :: readEvents b c f₂ f₃)))
      .get s.version r.1 r.2
  forceRefresh : ∀ (b c : ℕ) (f₂ f₃ : Option String),
    let r := s.provider.forceRefresh (answer f₂ (F.content (s.version + b)))
      (answer f₃ (F.mtime (s.version + b + c)))
    Finished s (Machine.run (FileState.step F) s
      (.call .forceRefresh :: readEvents b c f₂ f₃)) .forceRefresh s.version r.1 r.2

theorem runsMethods_of_idle (F : TokenFile) {s : FileState} (hidle : s.pc = .idle) :
    RunsMethods F s :=
  ⟨run_get F hidle, run_forceRefresh F hidle⟩

/-! ## Freshness -/

/-- The cached pair belongs to one version, seen at or before the current one. -/
def Describes (F : TokenFile) (version : ℕ) (p : FileTokenProvider) : Prop :=
  p.token ≠ "" → ∃ v, v ≤ version ∧ p.token = trimSpace (F.content v) ∧ p.mtime = F.mtime v

/-- A `Get` during which no rotation happened returned the current version's token. -/
def Returned.Fresh (F : TokenFile) (r : Returned) : Prop :=
  r.kind = .get → r.start = r.finish → ∀ tok, r.result = .ok tok →
    tok = trimSpace (F.content r.finish)

/-- A second stat that succeeds finds the version that was read: no rotation has come between. -/
def calm (s : FileState) (e : FileEvent) : Bool :=
  match s.pc, e with
  | .restat _ _ readAt _, .op none => readAt == s.version
  | _, _ => true

structure FileInv (F : TokenFile) (s : FileState) : Prop where
  describes : Describes F s.version s.provider
  read : ∀ kind start readAt tok, s.pc = .restat kind start readAt tok →
    tok ≠ "" ∧ tok = trimSpace (F.content readAt)
  fresh : ∀ r ∈ s.returned, r.Fresh F

theorem FileInv.init (F : TokenFile) (path : String) : FileInv F (FileState.init path) :=
  ⟨fun h => absurd rfl h, fun _ _ _ _ h => (by cases h), fun _ h => (by cases h)⟩

/-- Returning keeps the invariant when what is returned is fresh. -/
theorem FileInv.ret {F : TokenFile} {s : FileState} (hdesc : Describes F s.version s.provider)
    (hfresh : ∀ r ∈ s.returned, r.Fresh F) {kind : CallKind} {start : ℕ}
    {res : Except String String} (hres : (⟨kind, start, s.version, res⟩ : Returned).Fresh F) :
    FileInv F (s.ret kind start res) := by
  refine ⟨hdesc, fun _ _ _ _ h => (by cases h), fun r hr => ?_⟩
  rcases List.mem_cons.mp hr with rfl | hr
  · exact hres
  · exact hfresh r hr

/-- A failing call keeps the invariant. -/
theorem FileInv.fail {F : TokenFile} {s : FileState} (hinv : FileInv F s) (kind : CallKind)
    (start : ℕ) (e : String) : FileInv F (s.ret kind start (.error e)) :=
  FileInv.ret hinv.describes hinv.fresh fun _ _ tok h => by cases h

/-- A `Get` that finds the cached mtime: mtimes tell versions apart, so the cached token is the
current one. -/
theorem FileInv.ret_cached {F : TokenFile} {s : FileState} (hinv : FileInv F s) (start : ℕ)
    (hcache : s.provider.cached (F.mtime s.version) = true) :
    FileInv F (s.ret .get start (.ok s.provider.token)) := by
  have htest : s.provider.token ≠ "" ∧ F.mtime s.version = s.provider.mtime := by
    simpa [FileTokenProvider.cached] using hcache
  obtain ⟨v, _, htok, hmtime⟩ := hinv.describes htest.1
  have hver : s.version = v := F.mtime_injective (htest.2.trans hmtime)
  refine FileInv.ret hinv.describes hinv.fresh fun _ _ tok h => ?_
  cases h
  rw [htok, ← hver]

/-- A second stat that finds the version read stores a pair that describes it. -/
theorem FileInv.ret_read {F : TokenFile} {s : FileState} (hinv : FileInv F s) (kind : CallKind)
    (start : ℕ) {tok : String} (htok : tok = trimSpace (F.content s.version)) :
    FileInv F ({ s with
      provider := { s.provider with token := tok, mtime := F.mtime s.version } }.ret
        kind start (.ok tok)) := by
  refine FileInv.ret
    (s := { s with provider := { s.provider with token := tok, mtime := F.mtime s.version } })
    (fun _ => ⟨s.version, Nat.le_refl _, htok, rfl⟩) hinv.fresh ?_
  intro _ _ tok' h
  cases h
  exact htok

/-- **A calm step keeps the invariant.** -/
theorem file_step_inv (F : TokenFile) (s : FileState) (e : FileEvent) (hcalm : calm s e = true)
    (hinv : FileInv F s) : FileInv F (s.step F e) := by
  cases e with
  | rotate =>
    refine ⟨fun h => ?_, hinv.read, hinv.fresh⟩
    obtain ⟨v, hv, htok, hmtime⟩ := hinv.describes h
    exact ⟨v, Nat.le_succ_of_le hv, htok, hmtime⟩
  | call kind =>
    cases hpc : s.pc with
    | idle =>
      cases kind <;> simp only [FileState.step, hpc] <;>
        exact ⟨hinv.describes, fun _ _ _ _ h => (by cases h), hinv.fresh⟩
    | _ =>
      simp only [FileState.step, hpc]
      exact hinv
  | op fault =>
    cases hpc : s.pc with
    | idle =>
      simp only [FileState.step, hpc]
      exact hinv
    | stat start =>
      cases fault with
      | some e => simp only [FileState.step, hpc]; exact hinv.fail _ _ _
      | none =>
        simp only [FileState.step, hpc]
        split
        · rename_i hcache
          exact hinv.ret_cached start hcache
        · exact ⟨hinv.describes, fun _ _ _ _ h => (by cases h), hinv.fresh⟩
    | read kind start =>
      cases fault with
      | some e => simp only [FileState.step, hpc]; exact hinv.fail _ _ _
      | none =>
        simp only [FileState.step, hpc]
        split
        · exact hinv.fail _ _ _
        · rename_i hne
          refine ⟨hinv.describes, fun _ _ _ _ h => ?_, hinv.fresh⟩
          cases h
          exact ⟨hne, rfl⟩
    | restat kind start readAt tok =>
      cases fault with
      | some e => simp only [FileState.step, hpc]; exact hinv.fail _ _ _
      | none =>
        -- calm: the version read is the one whose mtime is cached with it
        have hver : readAt = s.version := by simpa [calm, hpc] using hcalm
        simp only [FileState.step, hpc]
        refine hinv.ret_read kind start ?_
        rw [(hinv.read _ _ _ _ hpc).2, hver]

/-- **The condition is needed**: when contents tell versions apart too, a second stat that finds a
version other than the one read leaves a pair that describes no version. -/
theorem torn_of_not_calm {F : TokenFile}
    (hcontent : Function.Injective fun v => trimSpace (F.content v)) {s : FileState}
    (hinv : FileInv F s) {e : FileEvent} (hcalm : calm s e = false) :
    ¬ Describes F (s.step F e).version (s.step F e).provider := by
  unfold calm at hcalm
  split at hcalm
  · rename_i kind start readAt tok hpc
    obtain ⟨hne, htok⟩ := hinv.read _ _ _ _ hpc
    have hver : readAt ≠ s.version := by simpa using hcalm
    intro hdesc
    simp only [FileState.step, hpc] at hdesc
    obtain ⟨v, _, hv, hmtime⟩ := hdesc hne
    have hsv : s.version = v := F.mtime_injective hmtime
    have hrv : readAt = v := hcontent (htok.symm.trans hv)
    exact hver (hrv.trans hsv.symm)
  · cases hcalm

/-- **Freshness.**  In every run in which no rotation falls between the read and the successful
second stat of a call, the cached pair describes one version and every `Get` that no rotation
overlaps returns the current token.  Where contents tell versions apart, the pair describes none
after a second stat that finds another version.  Between calls the steps are those of the source's
methods. -/
theorem fresh_of_calm (F : TokenFile) (path : String) (events : List FileEvent)
    (hcalm : Machine.Along (fun s e => calm s e = true) (FileState.step F) (FileState.init path)
      events) :
    let s := Machine.run (FileState.step F) (FileState.init path) events
    Describes F s.version s.provider ∧ (∀ r ∈ s.returned, r.Fresh F) ∧
      ((Function.Injective fun v => trimSpace (F.content v)) → ∀ e, calm s e = false →
        ¬ Describes F (s.step F e).version (s.step F e).provider) ∧
      (s.pc = .idle → RunsMethods F s) := by
  intro s
  have hinv : FileInv F s :=
    Machine.run_invariant_along (file_step_inv F) events _ hcalm (FileInv.init F path)
  exact ⟨hinv.describes, hinv.fresh, fun hcontent _ hnot => torn_of_not_calm hcontent hinv hnot,
    runsMethods_of_idle F⟩

/-- Version `v` of the file for concrete runs. -/
def numberedFile : TokenFile where
  content v := String.ofList (List.replicate (v + 1) 'x')
  mtime v := v
  mtime_injective := fun _ _ h => Int.ofNat.inj h

/-- A run with a rotation between two calls: both return what is current. -/
theorem fresh_of_calm_twoGets :
    let events := [.call .get, .op none, .op none, .op none, .rotate, .call .get, .op none,
      .op none, .op none]
    let s := Machine.run (FileState.step numberedFile) (FileState.init "token") events
    s.returned.length = 2 ∧ s.provider.token = "xx" ∧ ∀ r ∈ s.returned, r.Fresh numberedFile := by
  refine ⟨by decide, by decide, ?_⟩
  refine (fresh_of_calm numberedFile "token" _ ?_).2.1
  simp only [Machine.Along]
  decide

/-- A rotation between read and second stat: the next `Get`, which nothing overlaps, returns the
token of the version before. -/
theorem fresh_counterexample :
    let events := [.call .get, .op none, .op none, .rotate, .op none, .call .get, .op none]
    let s := Machine.run (FileState.step numberedFile) (FileState.init "token") events
    s.version = 1 ∧ ∃ r ∈ s.returned, r.kind = .get ∧ r.start = 1 ∧ r.finish = 1 ∧
      r.result = .ok "x" ∧ ¬ r.Fresh numberedFile := by
  refine ⟨by decide, ⟨.get, 1, 1, .ok "x"⟩, List.mem_cons_self, rfl, rfl, rfl, rfl, ?_⟩
  intro h
  exact absurd (h rfl rfl "x" rfl) (by decide)

end Substrate
