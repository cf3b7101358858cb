import ArbBundle.Execution.Run
import ArbBundle.Relay.Client

/-!
# Wired — a run over the wire

The services of a run whose relay is spoken to over the wire, and whose chain is the one that the
relay's client watches.
-/

namespace ArbBundle
namespace RelayClient

variable {κ : Type}

/-- A client's state around another state of the world. -/
def State.withWorld (world : κ) (s : State κ) : State κ :=
  { s with world }

/-- A computation on the world, beside which the client stands still. -/
def aside {α : Type} (x : Timed κ α) : Timed (State κ) α :=
  x.focus State.world State.withWorld

def watched (c : RelayClient κ) : Chain (State κ) :=
  c.chain.focus State.world State.withWorld

/-- The services of a run that speaks to its relay through a client. -/
def collaborators (c : RelayClient κ) (verify : Config → Timed κ (Except ValidationError Unit))
    (build : Config → Timed κ (Except BuildError BuiltBundle))
    (confirm : (bypass : Bool) → Timed κ (Except ConfirmationError Bool)) :
    Collaborators (State κ) where
  verify config := aside (verify config)
  build config := aside (build config)
  confirm bypass := aside (confirm bypass)
  relay := c.relay
  chain := c.watched

end RelayClient
end ArbBundle
