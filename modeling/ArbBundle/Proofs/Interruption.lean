import ArbBundle.Proofs.Timed

/-!
# Interruption — computations that a limit only cuts short

What a computation does must not hang on the limit that it stands under: it goes its own way, and
the limit decides only how far it gets.  Requests and pauses are of this kind, and so is whatever is
put together from computations that are.

- `Timed.OverBy`: what is over before a deadline cuts it off
- `Timed.Interruptible`: computations of this kind
- `interruptible_call`, `interruptible_sleep`: requests, however they are answered, and pauses
- `Interruptible.bind`, `Interruptible.focus`: how such computations are put together
- `Interruptible.within_passes`, `Interruptible.within_cut`: such computations under a deadline
-/

namespace ArbBundle
namespace Timed

variable {σ τ α β : Type} {x : Timed σ α} {f : α → Timed σ β} {limit : Option Nat}
  {m m' m₁ : Moment σ} {a : α} {deadline start between stop : Nat}

/-- What goes on from `start` to `stop` is over before a deadline cuts it off: it takes no time, or
the deadline has not passed. -/
def OverBy (deadline start stop : Nat) : Prop :=
  stop = start ∨ stop ≤ deadline

/-- What is over before the deadline has its first part over by then as well. -/
theorem OverBy.first (h : OverBy deadline start stop) (hle : start ≤ between)
    (hle' : between ≤ stop) : OverBy deadline start between := by
  unfold OverBy at *
  omega

theorem OverBy.second (h : OverBy deadline start stop) (hle : start ≤ between)
    (hle' : between ≤ stop) : OverBy deadline between stop := by
  unfold OverBy at *
  omega

/-- Two stretches of time that are over before the deadline are over as one. -/
theorem OverBy.trans (h : OverBy deadline start between) (h' : OverBy deadline between stop) :
    OverBy deadline start stop := by
  unfold OverBy at *
  omega

/-- Under a deadline the computation ends as it does without one, where it is over before the
deadline cuts it off; otherwise it is cut off at the deadline at the latest, or at its start. -/
structure Interruptible (x : Timed σ α) : Prop where
  start_le (limit : Option Nat) (m : Moment σ) : m.now ≤ (x limit m).2.now
  passes {m m' : Moment σ} {a : α} {deadline : Nat} : x none m = (some a, m') →
    OverBy deadline m.now m'.now → x (some deadline) m = (some a, m')
  cut (m : Moment σ) (deadline : Nat) :
    (∀ a m', x none m = (some a, m') → ¬ OverBy deadline m.now m'.now) →
    ∃ m', x (some deadline) m = (none, m') ∧ m'.now ≤ max m.now deadline

/-- Time does not run backwards. -/
theorem Interruptible.start_le_of (hx : Interruptible x) {result : Option α}
    (h : x limit m = (result, m')) : m.now ≤ m'.now := by
  have hle := hx.start_le limit m
  rw [h] at hle
  exact hle

/-! ## Elementary computations -/

/-- What takes no time and does not look at its limit is never cut off. -/
theorem interruptible_of_instant {g : Moment σ → α × Moment σ}
    (h : ∀ limit m, x limit m = (some (g m).1, (g m).2)) (hnow : ∀ m, (g m).2.now = m.now) :
    Interruptible x where
  start_le limit m := by
    rw [h]
    exact Nat.le_of_eq (hnow m).symm
  passes hx _ := by
    rw [h] at hx ⊢
    exact hx
  cut m _ hcut := absurd (Or.inl (hnow m)) (hcut _ _ (h none m))

theorem interruptible_pure (a : α) : Interruptible (pure a : Timed σ α) :=
  interruptible_of_instant (g := fun m => (a, m)) (fun _ _ => rfl) fun _ => rfl

theorem interruptible_now : Interruptible (now : Timed σ Nat) :=
  interruptible_of_instant (g := fun m => (m.now, m)) (fun _ _ => rfl) fun _ => rfl

theorem interruptible_update (f : σ → σ) : Interruptible (update f) :=
  interruptible_of_instant (g := fun m => ((), { m with state := f m.state })) (fun _ _ => rfl)
    fun _ => rfl

/-- What takes a delay arrives under a deadline just where it is over before the deadline cuts it
off. -/
theorem arrives_iff {delay : Nat} :
    Arrives (some deadline) start delay ↔ OverBy deadline start (start + delay) := by
  unfold Arrives OverBy
  rw [inTime_some]
  omega

theorem unlimited_arrives (start delay : Nat) : Arrives none start delay :=
  Or.inr nofun

theorem interruptible_sleep (delay : Nat) : Interruptible (sleep delay : Timed σ Unit) where
  start_le limit m := by
    by_cases h : Arrives limit m.now delay
    · rw [sleep_of_arrives h]
      exact Nat.le_add_right _ _
    · exact Nat.le_of_eq (by rw [sleep_of_not_arrives h])
  passes {m m' _ deadline} h hover := by
    rw [sleep_of_arrives (unlimited_arrives m.now delay)] at h
    cases h
    exact sleep_of_arrives (arrives_iff.2 hover)
  cut m deadline hcut := by
    have hlate := hcut () _ (sleep_of_arrives (unlimited_arrives m.now delay))
    exact ⟨m, sleep_of_not_arrives (mt arrives_iff.1 hlate), Nat.le_max_left _ _⟩

/-! ## Computations that are put together -/

/-- Interruptible computations may follow upon each other: the deadline cuts off the first, the
second, or none. -/
theorem Interruptible.bind (hx : Interruptible x) (hf : ∀ a, Interruptible (f a)) :
    Interruptible (x >>= f) where
  start_le limit m := by
    rcases h : x limit m with ⟨_ | a, m₁⟩
    · rw [bind_of_none h]
      exact hx.start_le_of h
    · rw [bind_of_some h]
      exact Nat.le_trans (hx.start_le_of h) ((hf a).start_le limit m₁)
  passes {m m' b deadline} h hover := by
    rcases h₁ : x none m with ⟨_ | a, m₁⟩
    · rw [bind_of_none h₁] at h
      cases h
    · rw [bind_of_some h₁] at h
      have hle := hx.start_le_of h₁
      have hle' := (hf a).start_le_of h
      rw [bind_of_some (hx.passes h₁ (hover.first hle hle'))]
      exact (hf a).passes h (hover.second hle hle')
  cut m deadline hcut := by
    -- The first part is cut off, or it passes and the second part is cut off.
    by_cases hfirst : ∃ a m₁, x none m = (some a, m₁) ∧ OverBy deadline m.now m₁.now
    · obtain ⟨a, m₁, h₁, hover⟩ := hfirst
      obtain ⟨m', h', hle⟩ := (hf a).cut m₁ deadline fun b m' h hover' =>
        hcut b m' ((bind_of_some h₁).trans h) (hover.trans hover')
      refine ⟨m', (bind_of_some (hx.passes h₁ hover)).trans h', Nat.le_trans hle ?_⟩
      unfold OverBy at hover
      omega
    · obtain ⟨m', h', hle⟩ := hx.cut m deadline fun a m₁ h₁ hover => hfirst ⟨a, m₁, h₁, hover⟩
      exact ⟨m', bind_of_none h', hle⟩

theorem interruptible_answer (delay : Nat) (a : α) :
    Interruptible (sleep delay >>= fun _ => pure a : Timed σ α) :=
  (interruptible_sleep delay).bind fun _ => interruptible_pure a

/-- A request is cut off where its answer never comes, or would come too late. -/
theorem interruptible_call (s : Service σ α) : Interruptible (call s) where
  start_le limit m := by
    rcases h : s m.now m.state with ⟨⟨delay, a⟩ | _, state⟩
    · rw [call_of_after h]
      exact (interruptible_answer delay a).start_le limit ⟨state, m.now⟩
    · exact Nat.le_of_eq (by rw [call_of_never h])
  passes {m m' a deadline} hx hover := by
    rcases h : s m.now m.state with ⟨⟨delay, b⟩ | _, state⟩
    · rw [call_of_after h] at hx ⊢
      exact (interruptible_answer delay b).passes hx hover
    · rw [call_of_never h] at hx
      cases hx
  cut m deadline hcut := by
    rcases h : s m.now m.state with ⟨⟨delay, b⟩ | _, state⟩
    · simp only [call_of_after h] at hcut ⊢
      exact (interruptible_answer delay b).cut _ _ hcut
    · exact ⟨_, call_of_never h, Nat.le_max_left _ _⟩

/-- What is interruptible on a part of a state is so on the whole. -/
theorem Interruptible.focus (hx : Interruptible x) (get : τ → σ) (set : σ → τ → τ) :
    Interruptible (x.focus get set) where
  start_le limit m := hx.start_le limit ⟨get m.state, m.now⟩
  passes {m m' a deadline} h hover := by
    rcases h₁ : x none ⟨get m.state, m.now⟩ with ⟨_ | b, m₁⟩
    · simp only [Timed.focus, h₁] at h
      cases h
    · simp only [Timed.focus, h₁] at h
      cases h
      simp only [Timed.focus, hx.passes h₁ hover]
  cut m deadline hcut := by
    obtain ⟨m₁, h₁, hle⟩ := hx.cut ⟨get m.state, m.now⟩ deadline fun a m₁ h₁ =>
      hcut a ⟨set m₁.state m.state, m₁.now⟩ (by simp only [Timed.focus, h₁])
    exact ⟨⟨set m₁.state m.state, m₁.now⟩, by simp only [Timed.focus, h₁], hle⟩

/-! ## Deadlines -/

/-- A computation that is over by the deadline ends under it as without. -/
theorem Interruptible.within_passes (hx : Interruptible x) (h : x none m = (some a, m'))
    (hover : OverBy deadline m.now m'.now) : within deadline x none m = (some (some a), m') :=
  within_of_some (hx.passes h hover)

/-- A computation that is not over by the deadline is given up there, or at its start if that is
later. -/
theorem Interruptible.within_cut (hx : Interruptible x)
    (hcut : ∀ a m', x none m = (some a, m') → ¬ OverBy deadline m.now m'.now) :
    ∃ m', within deadline x none m = (some none, m') ∧ m'.now = max m.now deadline := by
  obtain ⟨m₁, h, hle⟩ := hx.cut _ _ hcut
  have hstart := hx.start_le_of h
  unfold within
  simp only [Option.elim_none, h]
  split
  · refine ⟨_, rfl, ?_⟩
    show deadline = max m.now deadline
    omega
  · exact ⟨m₁, rfl, by omega⟩

end Timed
end ArbBundle
