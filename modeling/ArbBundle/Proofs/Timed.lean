import ArbBundle.Timed

/-!
# Timed — how computations in time come out

A request is either answered, at the time at which its answer arrives, or cut off: its answer never
comes, or comes behind the limit.  Everything else about a computation follows from this and from
the order of its parts.

- `Reply.delay?`: the time that a reply takes
- `Timed.Yields`: postconditions, for computations that end and those that do not
- `Timed.Arrives`: what takes a while is over before the limit
- `Timed.Comes`, `Timed.call_comes`: the two ways in which a request comes out
- `Timed.within_of_some`, `Timed.within_of_none`: the same for a computation under a deadline
-/

namespace ArbBundle

namespace Reply

variable {α : Type}

/-- The time that a reply takes, unless it never comes. -/
def delay? : Reply α → Option Nat
  | .after delay _ => some delay
  | .never => none

end Reply

namespace Timed

variable {σ τ α β : Type} {x : Timed σ α} {f : α → Timed σ β} {limit : Option Nat}
  {m m' : Moment σ} {a : α}

/-! ## One computation after the other -/

/-- A computation with a result goes on with the next one. -/
theorem bind_of_some (h : x limit m = (some a, m')) : (x >>= f) limit m = f a limit m' := by
  rw [bind_apply, h]

/-- A computation without a result takes the next one with it. -/
theorem bind_of_none (h : x limit m = (none, m')) : (x >>= f) limit m = (none, m') := by
  rw [bind_apply, h]

theorem map_apply (g : α → β) (x : Timed σ α) (limit : Option Nat) (m : Moment σ) :
    (g <$> x) limit m = ((x limit m).1.map g, (x limit m).2) := by
  rw [← bind_pure_comp, bind_apply]
  rcases x limit m with ⟨_ | a, m'⟩ <;> rfl

/-! ## What a computation comes to -/

/-- The result of a computation, if it has one, and the moment at which it stops are as `Q` says. -/
def Yields (x : Timed σ α) (limit : Option Nat) (m : Moment σ) (Q : Option α → Moment σ → Prop) :
    Prop :=
  Q (x limit m).1 (x limit m).2

theorem yields_pure {Q : Option α → Moment σ → Prop} (h : Q (some a) m) :
    Yields (pure a) limit m Q :=
  h

/-- What a computation yields may be said in weaker words. -/
theorem Yields.mono {Q Q' : Option α → Moment σ → Prop} (h : Yields x limit m Q)
    (hQ : ∀ r m', Q r m' → Q' r m') : Yields x limit m Q' :=
  hQ _ _ h

/-- Two computations in a row yield `Q` where the first yields `R`: an open end of it is one of the
whole, and every result of it leads to `Q`. -/
theorem Yields.bind {R : Option α → Moment σ → Prop} {Q : Option β → Moment σ → Prop}
    (hx : Yields x limit m R) (hopen : ∀ m', R none m' → Q none m')
    (h : ∀ a m', R (some a) m' → Yields (f a) limit m' Q) : Yields (x >>= f) limit m Q := by
  unfold Yields at hx ⊢
  rcases hr : x limit m with ⟨_ | a, m'⟩
  · rw [hr] at hx
    rw [bind_of_none hr]
    exact hopen m' hx
  · rw [hr] at hx
    rw [bind_of_some hr]
    exact h a m' hx

theorem yields_map {g : α → β} {Q : Option β → Moment σ → Prop}
    (h : Yields x limit m fun r m' => Q (r.map g) m') : Yields (g <$> x) limit m Q := by
  unfold Yields at h ⊢
  rw [map_apply]
  exact h

/-! ## Requests -/

/-- Whatever takes `delay` from `start` on is over before the limit cuts it off. -/
def Arrives (limit : Option Nat) (start delay : Nat) : Prop :=
  delay = 0 ∨ inTime limit (start + delay)

theorem inTime_some {deadline time : Nat} : inTime (some deadline) time ↔ time ≤ deadline := by
  simp [inTime]

/-- What begins by the deadline and arrives is there by the deadline. -/
theorem Arrives.le_of_le {deadline start delay : Nat} (h : Arrives (some deadline) start delay)
    (hs : start ≤ deadline) : start + delay ≤ deadline := by
  rcases h with rfl | h
  · simpa using hs
  · exact inTime_some.1 h

/-- A later deadline lets through all that an earlier one does. -/
theorem Arrives.mono {earlier later start delay : Nat} (h : Arrives (some earlier) start delay)
    (hle : earlier ≤ later) : Arrives (some later) start delay := by
  rcases h with h | h
  · exact .inl h
  · exact .inr (inTime_some.2 (Nat.le_trans (inTime_some.1 h) hle))

theorem arrives_of_le {deadline start delay : Nat} (h : start + delay ≤ deadline) :
    Arrives (some deadline) start delay :=
  Or.inr (inTime_some.2 h)

theorem sleep_of_arrives {delay : Nat} (h : Arrives limit m.now delay) :
    sleep delay limit m = (some (), { m with now := m.now + delay }) :=
  if_pos h

/-- Sleep that a limit cuts off comes to nothing, and takes no time. -/
theorem sleep_of_not_arrives {delay : Nat} (h : ¬ Arrives limit m.now delay) :
    sleep delay limit m = (none, m) :=
  if_neg h

/-- A request that is answered is a pause until its answer is there. -/
theorem call_of_after {s : Service σ α} {delay : Nat} {state : σ}
    (h : s m.now m.state = (.after delay a, state)) :
    call s limit m = (sleep delay >>= fun _ => pure a) limit ⟨state, m.now⟩ := by
  unfold call
  rw [h]

/-- The answer to a call is there after its delay. -/
theorem call_of_arrives {s : Service σ α} {delay : Nat} {state : σ}
    (h : s m.now m.state = (.after delay a, state)) (ha : Arrives limit m.now delay) :
    call s limit m = (some a, ⟨state, m.now + delay⟩) := by
  rw [call_of_after h, bind_of_some (sleep_of_arrives (m := ⟨state, m.now⟩) ha)]
  rfl

/-- A call that is never answered leaves its computation open. -/
theorem call_of_never {s : Service σ α} {state : σ} (h : s m.now m.state = (.never, state)) :
    call s limit m = (none, ⟨state, m.now⟩) := by
  unfold call
  rw [h]

/-- How a request that is made at `start` comes out: the answer that a limit lets through, and the
time at which it is there. -/
inductive Comes (limit : Option Nat) (start : Nat) : Reply α → Option α → Nat → Prop where
  | answered {delay stop : Nat} {a : α} :
      Arrives limit start delay → stop = start + delay →
      Comes limit start (.after delay a) (some a) stop
  | cut {stop : Nat} {reply : Reply α} :
      (∀ delay ∈ reply.delay?, ¬ Arrives limit start delay) → stop = start →
      Comes limit start reply none stop

/-- What comes of a call hangs on the reply of its service alone, and the service is left as the
reply leaves it. -/
theorem call_comes (s : Service σ α) (limit : Option Nat) (m : Moment σ) :
    Comes limit m.now (s m.now m.state).1 (call s limit m).1 (call s limit m).2.now ∧
      (call s limit m).2.state = (s m.now m.state).2 := by
  -- An answer comes in time or too late, and a reply that never comes is always too late.
  rcases hs : s m.now m.state with ⟨⟨delay, a⟩ | _, state⟩
  · by_cases h : Arrives limit m.now delay
    · rw [call_of_arrives hs h]
      exact ⟨.answered h rfl, rfl⟩
    · rw [call_of_after hs, bind_of_none (sleep_of_not_arrives (m := ⟨state, m.now⟩) h)]
      exact ⟨.cut (by simpa [Reply.delay?] using h) rfl, rfl⟩
  · rw [call_of_never hs]
    exact ⟨.cut (by simp [Reply.delay?]) rfl, rfl⟩

/-! ## Deadlines -/

/-- Under a deadline a computation leaves the same state behind as under its limit. -/
theorem within_state (deadline : Nat) (x : Timed σ α) (limit : Option Nat) (m : Moment σ) :
    (within deadline x limit m).2.state =
      (x (some (limit.elim deadline (min deadline))) m).2.state := by
  unfold within
  dsimp only
  split
  · rename_i hx
    rw [hx]
  · rename_i hx
    rw [hx]
    split
    · split <;> rfl
    · rfl

/-- A computation that ends under the deadline gives its result. -/
theorem within_of_some {deadline : Nat} (h : x (some deadline) m = (some a, m')) :
    within deadline x none m = (some (some a), m') := by
  simp [within, h]

/-- A computation that is cut off ends at the deadline, and its state is kept. -/
theorem within_of_none {deadline : Nat} (h : x (some deadline) m = (none, m'))
    (hm : m'.now ≤ deadline) :
    within deadline x none m = (some none, ⟨m'.state, deadline⟩) := by
  rcases m' with ⟨state, now⟩
  -- The clock is put forward to the deadline, unless it stands there already.
  rcases Nat.lt_or_eq_of_le hm with hlt | rfl
  · simp [within, h, hlt, inTime]
  · simp [within, h]

end Timed
end ArbBundle
