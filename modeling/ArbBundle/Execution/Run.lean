import ArbBundle.Execution.Broadcast
import ArbBundle.Execution.Outcome

/-!
# Run — one bundle from its settings to the chain

`Execution.run` verifies the settings, installs the receiver of fee refunds, has the bundle built
and simulated, and reports the figures.  Only then, and only where the simulation went well, the
profit check admits the bundle and the operator agrees, it is broadcast.

Faults before the simulation and at the question stop the run; a relay or a chain that fails later
is an outcome like any other, since by then something may have been sent.
-/

namespace ArbBundle
namespace Execution

variable {σ : Type}

abbrev Result := Except ExecutionError Outcome

/-- The page of a transaction: below the chosen prefix, or else below the network's. -/
def explorerLink (config : Config) (networkId : UInt64) (txHash : Digest) : String :=
  config.explorerTxUrl.getD (Network.explorerPage networkId) ++ Hex.marked txHash.toList

/-- The stage to which a failed step of a broadcast belongs. -/
def stageOf : BroadcastStep → Stage
  | .networkId => .broadcast
  | .blockNumber => .broadcast
  | .inclusion => .inclusion

/-- Broadcasts a bundle that was admitted, and reports what became of it. -/
def settle (c : Collaborators σ) (config : Config) (bundle : Bundle) (simulation : Simulation) :
    Timed (Session σ) Outcome := do
  let (result, bundle) ←
    config.broadcast.send c.relay c.chain bundle simulation.bundleHash
  match result with
  | .error e => return .transportError (stageOf e.step) e.source
  | .ok report =>
    if report.state = .included then
      let txHash := simulation.settlementHash?.getD bundle.last.hash
      let link := explorerLink config report.networkId txHash
      Session.report (.included txHash link simulation.results.length)
      return .included txHash link
    else
      Session.report (.notIncluded config.broadcast.inclusionTimeoutSecs)
      return .notIncluded

/-- Asks the operator, and broadcasts the bundle if the operator agrees. -/
def proceed (c : Collaborators σ) (config : Config) (bundle : Bundle) (simulation : Simulation) :
    Timed (Session σ) Result := do
  let bypass := config.skipConfirmation
  match ← Session.perform (.confirm bypass) (c.confirm bypass) with
  | .error e => return .error (.confirmation e)
  | .ok false =>
    Session.report .userDeclined
    return .ok .userDeclined
  | .ok true => .ok <$> settle c config bundle simulation

def reportEvaluation (evaluation : Evaluation) : Timed (Session σ) Unit := do
  evaluation.failures.forM fun failure => Session.report (.simulationTxFailed failure)
  Session.report (.simulationSummary evaluation.success evaluation.profit)

def decide (c : Collaborators σ) (config : Config) (built : BuiltBundle) (simulation : Simulation)
    (verdict : Bool) : Timed (Session σ) Result := do
  let evaluation := built.bundle.evaluate simulation verdict built.expectedProfit
  reportEvaluation evaluation
  if config.dryRun then
    Session.report (.dryRun config.nodeAddress built.bundle)
    return .ok (.dryRunReported evaluation.success)
  else if !evaluation.success then
    return .ok (.simulationFailed evaluation.failures.length)
  else if !config.profitCheck.admits evaluation.profit then
    Session.report (.profitRejected config.profitCheck evaluation.profit)
    return .ok (.profitTooLow config.profitCheck evaluation.profit.expected
      ((config.profitCheck.threshold? evaluation.profit).getD 0))
  else
    proceed c config built.bundle simulation

def execute (c : Collaborators σ) (config : Config) : Timed (Session σ) Result := do
  match ← Session.perform .build (c.build config) with
  | .error e => return .error (.build e)
  | .ok built =>
    let offset := config.simulationBlockOffset
    let simulated := c.relay.simulate built.bundle offset
    match ← Session.perform (.simulate built.bundle offset) simulated with
    | .error source => return .ok (.transportError .simulate source)
    | .ok (simulation, verdict) => decide c config built simulation verdict

/-- Installs the receiver of fee refunds, if there is one to install. -/
def preflight (c : Collaborators σ) (config : Config) :
    Timed (Session σ) (Except TransportError Unit) := do
  match config.refundTarget? with
  | none => return .ok ()
  | some target =>
    let receiver := target.address
    match ← Session.perform (.updateFeeRefund receiver) (c.relay.updateFeeRefund receiver) with
    | .error e => return .error e
    | .ok () =>
      Session.report (.refundRecipientUpdated target)
      return .ok ()

def run (c : Collaborators σ) (config : Config) : Timed (Session σ) Result := do
  match ← Session.perform .verify (c.verify config) with
  | .error e => return .error (.validation e)
  | .ok () =>
    match ← preflight c config with
    | .error e => return .error (.preflight e)
    | .ok () => execute c config

end Execution
end ArbBundle
