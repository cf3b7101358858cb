/-!
# Timed — computations that take time and may be cut short

A computation starts at a moment — the state of the services around it and the time on the clock —
and it may stand under a limit.  It ends with a result, or it is still under way when the limit
comes, or for ever, or it breaks off.

- `Service`: what answers a request, at once, later or never; `Service.focus` is a service in a
  larger state
- `Timed`: computations; `Timed.call`, `Timed.sleep`, `Timed.now` and `Timed.halt` are the elementary
  ones
- `Timed.clockEnd`: how far the clock goes
- `Timed.within`: a computation under a deadline
- `Timed.focus`: a computation on a part of a larger state

What is ready at once goes on even behind the limit, and what ends exactly at the limit has ended.
Times are in milliseconds.
-/

namespace ArbBundle

/-- The state of the services around a computation, and the time on the clock. -/
structure Moment (σ : Type) where
  state : σ
  now : Nat
  deriving DecidableEq

inductive Reply (α : Type)
  | after (delay : Nat) (answer : α)
  | never
  deriving DecidableEq

/-- What answers a request that is made at a time and in a state. -/
abbrev Service (σ α : Type) := Nat → σ → Reply α × σ

/-- A service whose reply hangs neither on the time nor on the state. -/
def Service.steady {σ α : Type} (reply : Reply α) : Service σ α := fun _ state => (reply, state)

/-- A service whose state is a part of a larger one. -/
def Service.focus {σ τ α : Type} (get : τ → σ) (set : σ → τ → τ) (s : Service σ α) :
    Service τ α := fun time t =>
  let (reply, state) := s time (get t)
  (reply, set state t)

/-- A computation in time; without a result where it is still under way at the limit, or broke
off. -/
def Timed (σ α : Type) := Option Nat → Moment σ → Option α × Moment σ

namespace Timed

variable {σ τ α β : Type}

def done (a : α) : Timed σ α := fun _ m => (some a, m)

def andThen (x : Timed σ α) (f : α → Timed σ β) : Timed σ β := fun limit m =>
  match x limit m with
  | (some a, m) => f a limit m
  | (none, m) => (none, m)

instance : Monad (Timed σ) where
  pure := done
  bind := andThen

@[simp] theorem pure_apply (a : α) (limit : Option Nat) (m : Moment σ) :
    (pure a : Timed σ α) limit m = (some a, m) := rfl

/-- The second computation begins where the first one stopped; where the first has no result,
neither has the whole. -/
theorem bind_apply (x : Timed σ α) (f : α → Timed σ β) (limit : Option Nat) (m : Moment σ) :
    (x >>= f) limit m = match x limit m with
      | (some a, m) => f a limit m
      | (none, m) => (none, m) := rfl

instance : LawfulMonad (Timed σ) :=
  LawfulMonad.mk' (Timed σ)
    (fun x => by
      funext limit m
      show andThen x done limit m = x limit m
      unfold andThen
      rcases x limit m with ⟨_ | a, m'⟩ <;> rfl)
    (fun _ _ => rfl)
    (fun x f g => by
      funext limit m
      show andThen (andThen x f) g limit m = andThen x (fun a => andThen (f a) g) limit m
      unfold andThen
      rcases x limit m with ⟨_ | a, m'⟩ <;> rfl)

/-- Whether a time is not behind the limit. -/
def inTime (limit : Option Nat) (time : Nat) : Prop :=
  ∀ l ∈ limit, time ≤ l

instance (limit : Option Nat) (time : Nat) : Decidable (inTime limit time) :=
  inferInstanceAs (Decidable (∀ l ∈ limit, time ≤ l))

def now : Timed σ Nat := fun _ m => (some m.now, m)

@[simp] theorem now_apply (limit : Option Nat) (m : Moment σ) :
    now limit m = (some m.now, m) := rfl

-- Irreducible, so that no comparison with it is carried out while terms are matched.
/-- The first time that the clock cannot show: it counts seconds in signed 64 bits. -/
@[irreducible] def clockEnd : Nat := 0x8000000000000000 * 1000

/-- The computation that breaks off: it comes to nothing, whatever time is left. -/
def halt : Timed σ α := fun _ m => (none, m)

@[simp] theorem halt_apply (limit : Option Nat) (m : Moment σ) :
    (halt : Timed σ α) limit m = (none, m) := rfl

def sleep (delay : Nat) : Timed σ Unit := fun limit m =>
  if delay = 0 ∨ inTime limit (m.now + delay) then (some (), { m with now := m.now + delay })
  else (none, m)

def update (f : σ → σ) : Timed σ Unit := fun _ m => (some (), { m with state := f m.state })

def call (s : Service σ α) : Timed σ α := fun limit m =>
  match s m.now m.state with
  | (.after delay a, state) => (do sleep delay; return a) limit { m with state }
  | (.never, state) => (none, { m with state })

/-- A computation under a deadline; without a result where the deadline came first. -/
def within (deadline : Nat) (x : Timed σ α) : Timed σ (Option α) := fun limit m =>
  let inner := limit.elim deadline (min deadline)
  match x (some inner) m with
  | (some a, m) => (some (some a), m)
  | (none, m) =>
    if m.now < deadline then
      if inTime limit deadline then (some none, { m with now := deadline }) else (none, m)
    else (some none, m)

/-- A computation on a part of a larger state. -/
def focus (get : τ → σ) (set : σ → τ → τ) (x : Timed σ α) : Timed τ α := fun limit m =>
  match x limit ⟨get m.state, m.now⟩ with
  | (a, m') => (a, ⟨set m'.state m.state, m'.now⟩)

/-- The result of a computation that stands under no limit. -/
def run (x : Timed σ α) (m : Moment σ) : Option α × Moment σ :=
  x none m

end Timed
end ArbBundle
