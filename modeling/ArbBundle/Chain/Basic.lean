import ArbBundle.Bytes.Fixed
import ArbBundle.Timed
import ArbBundle.Transport

/-!
# Chain — what can be asked of a chain
-/

namespace ArbBundle

structure Chain (σ : Type) where
  networkId : Service σ (Except TransportError UInt64)
  /-- The newest block. -/
  blockNumber : Service σ (Except TransportError UInt64)
  /-- The block that holds a transaction, once it is mined. -/
  inclusionBlock : Digest → Service σ (Except TransportError (Option UInt64))

def Chain.focus {σ τ : Type} (get : τ → σ) (set : σ → τ → τ) (c : Chain σ) : Chain τ where
  networkId := c.networkId.focus get set
  blockNumber := c.blockNumber.focus get set
  inclusionBlock txHash := (c.inclusionBlock txHash).focus get set

end ArbBundle
