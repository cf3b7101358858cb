import ArbBundle.Bundle
import ArbBundle.Simulation
import ArbBundle.Timed
import ArbBundle.Transport

/-!
# Relay — what can be asked of a bundle relay
-/

namespace ArbBundle

structure Relay (σ : Type) where
  /-- Pays fee refunds to a new receiver from now on. -/
  updateFeeRefund : Address → Timed σ (Except TransportError Unit)
  /-- Runs a bundle in the block that is `offset` past the next one; beside the outcomes stands the
  relay's own verdict. -/
  simulate : (bundle : Bundle) → (offset : UInt64) →
    Timed σ (Except TransportError (Simulation × Bool))
  /-- Submits a targeted bundle for some blocks in a row and waits until it is mined, the blocks are
  over, or the deadline comes; says whether it was mined. -/
  sendAndAwait : (bundle : Bundle) → (rounds : UInt32) → (deadline : Nat) →
    Timed σ (Except TransportError Bool)

end ArbBundle
