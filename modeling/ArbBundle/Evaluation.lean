import ArbBundle.Bundle
import ArbBundle.Profit
import ArbBundle.Simulation

/-!
# Evaluation — the verdict on a simulated bundle

A bundle succeeds when the relay says so, when there is one outcome for each transaction, and when
every outcome is free of error.  The figures for the profit check are worked out beside it.
-/

namespace ArbBundle

structure TxFailure where
  index : Nat
  error : String
  revertHex : String
  deriving DecidableEq

/-- The verdict on a bundle and the figures of the profit check. -/
structure Evaluation where
  success : Bool
  failures : List TxFailure
  profit : Profit
  deriving DecidableEq

namespace Simulation

/-- The failures among outcomes that are counted from `start`. -/
def failuresFrom (start : Nat) : List TxOutcome → List TxFailure
  | [] => []
  | o :: rest =>
    if o.isOk then failuresFrom (start + 1) rest
    else ⟨start, o.error.getD "", o.revertHex⟩ :: failuresFrom (start + 1) rest

def failures (s : Simulation) : List TxFailure :=
  failuresFrom 0 s.results

end Simulation

def Bundle.profit (b : Bundle) (expected : Wei) : Profit :=
  ⟨expected, b.maxFee, b.last.maxFee⟩

/-- The evaluation of a bundle by its simulation and the relay's own verdict. -/
def Bundle.evaluate (b : Bundle) (s : Simulation) (relayVerdict : Bool) (expected : Wei) :
    Evaluation where
  success := relayVerdict && s.results.length == b.size && s.failures.isEmpty
  failures := s.failures
  profit := b.profit expected

end ArbBundle
