import ArbBundle.Builder.Output
import ArbBundle.Confirmation
import ArbBundle.Profit
import ArbBundle.Transport
import ArbBundle.Verification

/-!
# Outcome — how a run ends

- `Stage`: the stages of a run
- `ExecutionError`: what stops a run without an outcome
- `Outcome`: all other ends; `Outcome.isSuccess` says which ones are what the operator wanted
-/

namespace ArbBundle

inductive Stage
  | verify
  | preflight
  | build
  | simulate
  | confirm
  | broadcast
  | inclusion
  deriving DecidableEq

def Stage.name : Stage → String
  | .verify => "verify"
  | .preflight => "preflight"
  | .build => "build"
  | .simulate => "simulate"
  | .confirm => "confirm"
  | .broadcast => "broadcast"
  | .inclusion => "inclusion"

/-- What stops a run without an outcome. -/
inductive ExecutionError
  | validation (e : ValidationError)
  | preflight (e : TransportError)
  | build (e : BuildError)
  | confirmation (e : ConfirmationError)
  deriving DecidableEq

namespace ExecutionError

def stage : ExecutionError → Stage
  | .validation _ => .verify
  | .preflight _ => .preflight
  | .build _ => .build
  | .confirmation _ => .confirm

/-- The text of the error, where it is not left to other programs. -/
def message? : ExecutionError → Option String
  | .validation e => some s!"verify: invalid input: {e.message}"
  | .preflight e => some s!"preflight: failed to update relay fee refund recipient: {e.message}"
  | .build e => e.message?.map fun m => s!"build: failed to build bundle: {m}"
  | .confirmation e => some s!"confirm: {e.message}"

end ExecutionError

inductive Outcome
  | dryRunReported (simulationSuccess : Bool)
  | simulationFailed (failedTransactions : Nat)
  | profitTooLow (check : ProfitCheck) (expected required : Wei)
  | userDeclined
  | included (txHash : Digest) (explorerLink : String)
  | notIncluded
  | transportError (stage : Stage) (source : TransportError)
  deriving DecidableEq

namespace Outcome

/-- Whether the run did what the operator wanted. -/
def isSuccess : Outcome → Bool
  | .dryRunReported _ => true
  | .included _ _ => true
  | _ => false

def message : Outcome → String
  | .dryRunReported _ => "dry run reported"
  | .simulationFailed n => s!"bundle simulation failed ({n} failing transactions)"
  | .profitTooLow .ignoreDistributeCost _ _ => "expected profit is less than max arbitrage fees"
  | .profitTooLow _ _ _ => "expected profit is less than max bundle fees"
  | .userDeclined => "user did not confirm to proceed"
  | .included _ link => s!"bundle included: {link}"
  | .notIncluded => "bundle was not included before the deadline"
  | .transportError stage source => s!"{stage.name}: {source.message}"

end Outcome
end ArbBundle
