import ArbBundle.Timed
import ArbBundle.Transport

/-!
# Inclusion — the wait for a bundle to be mined

- `InclusionState`: how a wait stands
- `InclusionMonitor.deadline?`: when a wait ends; a wait past the end of the clock has no deadline
- `InclusionMonitor.watch`: follows a submission until it ends or its deadline comes

A submission that ends exactly at the deadline counts.  One that is cut short, or that ends without
having seen the bundle, leaves it timed out; one that fails leaves its fate unknown.
-/

namespace ArbBundle

/-- How the wait for a bundle stands. -/
inductive InclusionState
  | waiting
  | included
  /-- The bundle was not seen in time. -/
  | timedOut
  /-- The submission failed; whether the bundle was mined is unknown. -/
  | transportError
  deriving DecidableEq

def InclusionState.isTerminal : InclusionState → Bool
  | .waiting => false
  | _ => true

/-- Waits for bundles, one after the other. -/
structure InclusionMonitor where
  windowSecs : UInt64
  state : InclusionState
  deriving DecidableEq

namespace InclusionMonitor

def new (windowSecs : UInt64) : InclusionMonitor :=
  ⟨windowSecs, .waiting⟩

/-- The end of a wait that begins at a time, if the clock goes that far. -/
def deadline? (m : InclusionMonitor) (start : Nat) : Option Nat :=
  let stop := start + m.windowSecs.toNat * 1000
  if stop < Timed.clockEnd then some stop else none

/-- What a submission comes to; it has no result where the deadline came first. -/
def verdict : Option (Except TransportError Bool) → Except TransportError InclusionState
  | some (.ok true) => .ok .included
  | some (.ok false) => .ok .timedOut
  | some (.error e) => .error e
  | none => .ok .timedOut

/-- The monitor after a wait. -/
def settle (m : InclusionMonitor) : Except TransportError InclusionState → InclusionMonitor
  | .ok s => { m with state := s }
  | .error _ => { m with state := .transportError }

/-- Follows a submission until it ends or the deadline comes. -/
def watch {σ : Type} (m : InclusionMonitor) (deadline : Nat)
    (submission : Timed σ (Except TransportError Bool)) :
    Timed σ (Except TransportError InclusionState × InclusionMonitor) := do
  let result := verdict (← Timed.within deadline submission)
  return (result, m.settle result)

end InclusionMonitor
end ArbBundle
