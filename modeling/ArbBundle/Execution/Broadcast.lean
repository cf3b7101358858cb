import ArbBundle.Execution.Journal
import ArbBundle.Inclusion

/-!
# Broadcast — sending a bundle on its way

`Broadcast.send` routes a bundle to every builder that the network knows and to the block after the
newest one, submits it, and watches the submission for as long as the settings say.  Whether the
clock reaches to the end of that wait is only asked once the departure is reported.

- `BroadcastError`: the step that failed, and why
- `BroadcastReport`: what was seen
-/

namespace ArbBundle

inductive BroadcastStep
  | networkId
  | blockNumber
  | inclusion
  deriving DecidableEq

def BroadcastStep.name : BroadcastStep → String
  | .networkId => "NetworkId"
  | .blockNumber => "BlockNumber"
  | .inclusion => "Inclusion"

structure BroadcastError where
  step : BroadcastStep
  source : TransportError
  deriving DecidableEq

def BroadcastError.message (e : BroadcastError) : String :=
  s!"{e.step.name}: {e.source.message}"

structure BroadcastReport where
  networkId : UInt64
  targetBlock : UInt64
  state : InclusionState
  deriving DecidableEq

namespace Broadcast

variable {σ : Type}

/-- The wait for a bundle that is on its way; it breaks off where the clock has no time for its
deadline. -/
def awaitInclusion (b : Broadcast) (relay : Relay σ) (bundle : Bundle) :
    Timed (Session σ) (Except TransportError InclusionState) := do
  let monitor := InclusionMonitor.new b.inclusionTimeoutSecs
  match monitor.deadline? (← Timed.now) with
  | none => Timed.halt
  | some deadline =>
    let submission := Session.perform (.sendAndAwait bundle b.retryRounds deadline)
      (relay.sendAndAwait bundle b.retryRounds deadline)
    return (← monitor.watch deadline submission).1

/-- Sends a bundle on its way and waits for it; beside the result stands the bundle as it was
routed so far. -/
def send (b : Broadcast) (relay : Relay σ) (chain : Chain σ) (bundle : Bundle)
    (bundleHash : Digest) :
    Timed (Session σ) (Except BroadcastError BroadcastReport × Bundle) := do
  match ← Session.perform .networkId (Timed.call chain.networkId) with
  | .error source => return (.error ⟨.networkId, source⟩, bundle)
  | .ok networkId =>
    let widened := bundle.withKnownBuilders networkId
    match ← Session.perform .blockNumber (Timed.call chain.blockNumber) with
    | .error source => return (.error ⟨.blockNumber, source⟩, widened)
    | .ok head =>
      let target := head + 1
      let routed := widened.withTarget target
      Session.report (.bundleSent bundleHash target routed.builders.length b.inclusionTimeoutSecs)
      match ← b.awaitInclusion relay routed with
      | .error source => return (.error ⟨.inclusion, source⟩, routed)
      | .ok state => return (.ok ⟨networkId, target, state⟩, routed)

end Broadcast
end ArbBundle
