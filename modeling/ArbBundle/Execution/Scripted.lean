import ArbBundle.Execution.Journal

/-!
# Scripted — services whose answers are laid down

- `RunScript`: what the services of a run answer
- `RunScript.collaborators`: services that answer so; their state is what the operator has typed
-/

namespace ArbBundle

structure RunScript where
  build : Config → Except BuildError BuiltBundle
  refund : Except TransportError Unit
  simulation : Bundle → Except TransportError (Simulation × Bool)
  submission : Reply (Except TransportError Bool)
  networkId : Except TransportError UInt64
  head : Except TransportError UInt64
  /-- Where the operator is asked. -/
  terminal : Terminal

namespace RunScript

/-- The simulation in which every transaction of a bundle succeeds. -/
def flawless (bundleHash : Digest) (bundle : Bundle) : Simulation × Bool :=
  (⟨bundleHash, bundle.transactions.map fun tx => TxOutcome.success tx.hash 0⟩, true)

def relay {σ : Type} (s : RunScript) : Relay σ where
  updateFeeRefund _ := pure s.refund
  simulate bundle _ := pure (s.simulation bundle)
  sendAndAwait _ _ _ := Timed.call (.steady s.submission)

def chain {σ : Type} (s : RunScript) : Chain σ where
  networkId := .steady (.after 0 s.networkId)
  blockNumber := .steady (.after 0 s.head)
  inclusionBlock _ := .steady (.after 0 (.ok none))

def confirm (s : RunScript) (bypass : Bool) : Timed Bytes (Except ConfirmationError Bool) :=
  fun _ m =>
    let asked := Confirmation.confirm bypass s.terminal m.state
    (some asked.result, { m with state := asked.rest })

def collaborators (s : RunScript) : Collaborators Bytes where
  verify config := pure config.verify
  build config := pure (s.build config)
  confirm := s.confirm
  relay := s.relay
  chain := s.chain

end RunScript
end ArbBundle
