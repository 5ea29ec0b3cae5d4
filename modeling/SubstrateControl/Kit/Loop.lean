import Mathlib.Data.Finset.Card
import Mathlib.Data.Finset.Image
import Mathlib.Data.Fintype.Card

/-!
# Unbounded loops and the chains they follow

* `Loop.run body fuel s` — a loop `for { … }` as its body: `inl` goes round again, `inr` returns.
  Fuel counts executions of the body; `none` means the fuel ran out first.
* `Loop.Returns` — some fuel is enough.  `run_mono`: more fuel changes nothing.
* `Loop.reached body n s` — the state in which the `n`-th round begins; `reached_invariant`: what
  every round keeps holds there, whether or not the loop returns.
* `Loop.run_from_reached` — what a loop returns, it returns from such a state.
* `Loop.returns_iff_path` — a loop returns exactly when its body leads from the start, round by
  round, to a state it returns from.
* `Chain.nth f x n` — the `n`-th element met when following a partial successor function from `x`.
* `Chain.ends_iff_nodup` — over finitely many elements a chain ends exactly when it never meets an
  element twice; `Chain.ends_within`: it then ends within as many steps as there are elements.
* `Loop.Follows.ends_iff` — a loop whose rounds follow a chain returns exactly when the chain
  ends; `Loop.Follows.run_of_nth`: within that many rounds.
-/

set_option autoImplicit false

namespace Kit

namespace Loop

variable {σ ρ : Type}

/-- `for { s = body(s) }` with a bound on the number of rounds. -/
def run (body : σ → σ ⊕ ρ) : ℕ → σ → Option ρ
  | 0, _ => none
  | n + 1, s =>
    match body s with
    | .inl s' => run body n s'
    | .inr r => some r

/-- The loop returns `r` when started in `s`. -/
def Returns (body : σ → σ ⊕ ρ) (s : σ) (r : ρ) : Prop := ∃ n, run body n s = some r

variable {body : σ → σ ⊕ ρ} {s s' : σ} {r : ρ}

theorem run_next (h : body s = .inl s') (n : ℕ) : run body (n + 1) s = run body n s' := by
  simp [run, h]

theorem run_done (h : body s = .inr r) (n : ℕ) : run body (n + 1) s = some r := by
  simp [run, h]

theorem run_add {n : ℕ} (h : run body n s = some r) (k : ℕ) : run body (n + k) s = some r := by
  induction n generalizing s with
  | zero => cases h
  | succ n ih =>
    rw [Nat.add_right_comm]
    cases hb : body s with
    | inl s' =>
      rw [run_next hb] at h ⊢
      exact ih h
    | inr q =>
      rw [run_done hb] at h ⊢
      exact h

theorem run_mono {n m : ℕ} (hle : n ≤ m) (h : run body n s = some r) : run body m s = some r := by
  obtain ⟨k, rfl⟩ := Nat.exists_eq_add_of_le hle
  exact run_add h k

/-- The state in which the `n`-th round begins, if it does. -/
def reached (body : σ → σ ⊕ ρ) : ℕ → σ → Option σ
  | 0, s => some s
  | n + 1, s =>
    match body s with
    | .inl s' => reached body n s'
    | .inr _ => none

theorem reached_next (h : body s = .inl s') (n : ℕ) :
    reached body (n + 1) s = reached body n s' := by
  simp [reached, h]

/-- **What every round keeps holds at the start of every round.** -/
theorem reached_invariant {Inv : σ → Prop} (hnext : ∀ s s', Inv s → body s = .inl s' → Inv s') :
    ∀ n s s', Inv s → reached body n s = some s' → Inv s' := by
  intro n
  induction n with
  | zero =>
    intro s s' h hs
    cases hs
    exact h
  | succ n ih =>
    intro s s' h hs
    cases hb : body s with
    | inl t =>
      rw [reached_next hb] at hs
      exact ih t s' (hnext s t h hb) hs
    | inr q => simp [reached, hb] at hs

/-- A loop returns from a state in which a round has begun. -/
theorem run_from_reached :
    ∀ n s, run body n s = some r → ∃ k s', reached body k s = some s' ∧ body s' = .inr r := by
  intro n
  induction n with
  | zero => intro s h; cases h
  | succ n ih =>
    intro s h
    cases hb : body s with
    | inl t =>
      rw [run_next hb] at h
      obtain ⟨k, s', hs', hdone⟩ := ih t h
      exact ⟨k + 1, s', by rw [reached_next hb, hs'], hdone⟩
    | inr q =>
      rw [run_done hb] at h
      exact ⟨0, s, rfl, by rw [hb, Option.some.inj h]⟩

/-- Enough fuel gives `r`. -/
def Eventually (loop : ℕ → Option ρ) (r : ρ) : Prop := ∃ n, ∀ m, n ≤ m → loop m = some r

theorem Returns.eventually (h : Returns body s r) : Eventually (fun n => run body n s) r := by
  obtain ⟨n, hn⟩ := h
  exact ⟨n, fun m hm => run_mono hm hn⟩

/-- Rounds from `p 0` to `p k`, and a return from there. -/
theorem returns_of_path {p : ℕ → σ} :
    ∀ k, (∀ i, i < k → body (p i) = .inl (p (i + 1))) → body (p k) = .inr r →
      Returns body (p 0) r := by
  intro k
  induction k generalizing p with
  | zero => exact fun _ hdone => ⟨1, run_done hdone 0⟩
  | succ k ih =>
    intro hnext hdone
    obtain ⟨n, hn⟩ := ih (p := fun i => p (i + 1)) (fun i hi => hnext (i + 1) (by omega)) hdone
    exact ⟨n + 1, by rw [run_next (hnext 0 (by omega)), hn]⟩

/-- **A loop returns exactly along a path of rounds.** -/
theorem returns_iff_path : Returns body s r ↔ ∃ k, ∃ p : ℕ → σ, p 0 = s ∧
    (∀ i, i < k → body (p i) = .inl (p (i + 1))) ∧ body (p k) = .inr r := by
  constructor
  · rintro ⟨n, hn⟩
    induction n generalizing s with
    | zero => cases hn
    | succ n ih =>
      cases hb : body s with
      | inl s' =>
        rw [run_next hb] at hn
        obtain ⟨k, p, h0, hnext, hdone⟩ := ih hn
        refine ⟨k + 1, fun i => i.casesOn s p, rfl, fun i hi => ?_, hdone⟩
        cases i with
        | zero => rw [← h0] at hb; exact hb
        | succ i => exact hnext i (by omega)
      | inr q =>
        rw [run_done hb] at hn
        exact ⟨0, fun _ => s, rfl, fun i hi => absurd hi (by omega), by rw [hb, Option.some.inj hn]⟩
  · rintro ⟨k, p, rfl, hnext, hdone⟩
    exact returns_of_path k hnext hdone

end Loop

namespace Chain

variable {α : Type}

/-- The `n`-th element of the chain `x, f x, f (f x), …`, `none` once it has ended. -/
def nth (f : α → Option α) (x : α) : ℕ → Option α
  | 0 => some x
  | n + 1 => (nth f x n).bind f

/-- The chain from `x` comes to an end. -/
def Ends (f : α → Option α) (x : α) : Prop := ∃ n, nth f x n = none

/-- No element is met twice on the chain from `x`. -/
def Nodup (f : α → Option α) (x : α) : Prop :=
  ∀ i j y, nth f x i = some y → nth f x j = some y → i = j

variable {f : α → Option α} {x y : α}

theorem nth_succ (f : α → Option α) (x : α) (n : ℕ) :
    nth f x (n + 1) = (f x).bind fun y => nth f y n := by
  induction n with
  | zero => cases h : f x <;> simp [nth, h]
  | succ n ih =>
    rw [nth, ih]
    cases f x <;> rfl

theorem nth_succ_of_some (h : f x = some y) (n : ℕ) : nth f x (n + 1) = nth f y n := by
  rw [nth_succ, h]; rfl

theorem nth_none_of_le {n m : ℕ} (hle : n ≤ m) (h : nth f x n = none) : nth f x m = none := by
  induction hle with
  | refl => exact h
  | step _ ih => rw [nth, ih]; rfl

theorem nth_add {i : ℕ} (h : nth f x i = some y) (k : ℕ) : nth f x (i + k) = nth f y k := by
  induction k with
  | zero => exact h
  | succ k ih => rw [← Nat.add_assoc, nth, ih, nth]

/-- A chain that comes back to one of its elements goes round for ever. -/
theorem never_ends_of_repeat {i j : ℕ} (hij : i < j) (hi : nth f x i = some y)
    (hj : nth f x j = some y) : ∀ n, nth f x n ≠ none := by
  -- the positions `i + k·(j - i)` all hold `y`, and they pass every `n`
  have hround : ∀ k, nth f x (i + k * (j - i)) = some y := by
    intro k
    induction k with
    | zero => simpa using hi
    | succ k ih =>
      have hy : nth f y (j - i) = some y := by
        rw [← nth_add hi, Nat.add_sub_cancel' hij.le, hj]
      rw [Nat.succ_mul, ← Nat.add_assoc, nth_add ih, hy]
  intro n hn
  have hle : n ≤ i + n * (j - i) := by
    have : n * 1 ≤ n * (j - i) := Nat.mul_le_mul_left n (by omega)
    omega
  have hy := hround n
  rw [nth_none_of_le hle hn] at hy
  cases hy

theorem Ends.nodup (h : Ends f x) : Nodup f x := by
  obtain ⟨n, hn⟩ := h
  intro i j y hi hj
  rcases Nat.lt_trichotomy i j with hij | hij | hij
  · exact absurd hn (never_ends_of_repeat hij hi hj n)
  · exact hij
  · exact absurd hn (never_ends_of_repeat hij hj hi n)

theorem nth_mem {T : Finset α} (hx : x ∈ T) (hT : ∀ a ∈ T, ∀ b, f a = some b → b ∈ T) :
    ∀ n y, nth f x n = some y → y ∈ T := by
  intro n
  induction n with
  | zero => intro y h; cases h; exact hx
  | succ n ih =>
    intro y h
    rw [nth, Option.bind_eq_some_iff] at h
    obtain ⟨a, ha, hy⟩ := h
    exact hT a (ih a ha) y hy

/-- A chain through a finite set that meets nothing twice ends within as many steps as the set
has elements: past that the pigeonhole principle makes it repeat. -/
theorem ends_within [DecidableEq α] {T : Finset α} (hx : x ∈ T)
    (hT : ∀ a ∈ T, ∀ b, f a = some b → b ∈ T) (hnd : Nodup f x) : nth f x T.card = none := by
  by_contra hne
  have hsome : ∀ i : Fin (T.card + 1), ∃ y, nth f x i = some y := by
    intro i
    refine Option.ne_none_iff_exists'.mp fun hi => hne ?_
    exact nth_none_of_le (Nat.lt_succ_iff.mp i.isLt) hi
  choose g hg using hsome
  have hinj : Function.Injective g := by
    intro i j hij
    exact Fin.ext (hnd i j (g i) (hg i) (by rw [hij]; exact hg j))
  have hsub : Finset.univ.image g ⊆ T := by
    intro y hy
    obtain ⟨i, _, rfl⟩ := Finset.mem_image.mp hy
    exact nth_mem hx hT i (g i) (hg i)
  have hcard := Finset.card_le_card hsub
  rw [Finset.card_image_of_injective _ hinj, Finset.card_univ, Fintype.card_fin] at hcard
  omega

/-- **Over finitely many elements a chain ends exactly when it never repeats.** -/
theorem ends_iff_nodup [DecidableEq α] {T : Finset α} (hx : x ∈ T)
    (hT : ∀ a ∈ T, ∀ b, f a = some b → b ∈ T) : Ends f x ↔ Nodup f x :=
  ⟨Ends.nodup, fun h => ⟨T.card, ends_within hx hT h⟩⟩

end Chain

namespace Loop

variable {σ ρ α : Type} {body : σ → σ ⊕ ρ} {f : α → Option α}

/-- The rounds of the loop follow the chain of `f`: in a state standing at `x` it goes round to a
state standing at `f x`, and returns where the chain ends. -/
structure Follows (body : σ → σ ⊕ ρ) (f : α → Option α) (At : σ → α → Prop) : Prop where
  next : ∀ s x s', At s x → body s = .inl s' → ∃ y, f x = some y ∧ At s' y
  done : ∀ s x r, At s x → body s = .inr r → f x = none

variable {At : σ → α → Prop}

/-- A loop that returns within `n` rounds has followed its chain to the end in `n` steps. -/
theorem Follows.nth_of_run (h : Follows body f At) :
    ∀ n s x r, At s x → run body n s = some r → Chain.nth f x n = none := by
  intro n
  induction n with
  | zero => intro s x r _ hr; cases hr
  | succ n ih =>
    intro s x r hx hr
    cases hb : body s with
    | inl s' =>
      obtain ⟨y, hy, hat⟩ := h.next s x s' hx hb
      rw [run_next hb] at hr
      rw [Chain.nth_succ_of_some hy]
      exact ih s' y r hat hr
    | inr q => rw [Chain.nth_succ, h.done s x q hx hb]; rfl

theorem Follows.run_of_nth (h : Follows body f At) :
    ∀ n s x, At s x → Chain.nth f x n = none → ∃ r, run body n s = some r := by
  intro n
  induction n with
  | zero => intro s x _ hn; cases hn
  | succ n ih =>
    intro s x hx hn
    cases hb : body s with
    | inl s' =>
      obtain ⟨y, hy, hat⟩ := h.next s x s' hx hb
      rw [Chain.nth_succ_of_some hy] at hn
      obtain ⟨r, hr⟩ := ih s' y hat hn
      exact ⟨r, by rw [run_next hb, hr]⟩
    | inr q => exact ⟨q, run_done hb n⟩

/-- **A loop that follows a chain returns exactly when the chain ends.** -/
theorem Follows.ends_iff (h : Follows body f At) {s : σ} {x : α} (hx : At s x) :
    (∃ n r, run body n s = some r) ↔ Chain.Ends f x := by
  constructor
  · rintro ⟨n, r, hn⟩
    exact ⟨n, h.nth_of_run n s x r hx hn⟩
  · rintro ⟨n, hn⟩
    obtain ⟨r, hr⟩ := h.run_of_nth n s x hx hn
    exact ⟨n, r, hr⟩

end Loop

end Kit
