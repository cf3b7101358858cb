import ArbBundle.Config
import ArbBundle.Evaluation

/-!
# Event — what an operator is told during a run
-/

namespace ArbBundle

/-- Something that an operator is told. -/
inductive Event
  /-- The relay pays fee refunds to a new receiver. -/
  | refundRecipientUpdated (target : RefundTarget)
  | simulationTxFailed (failure : TxFailure)
  | simulationSummary (success : Bool) (profit : Profit)
  /-- Nothing is sent; this is what would have been. -/
  | dryRun (sender : Address) (bundle : Bundle)
  | profitRejected (check : ProfitCheck) (profit : Profit)
  | userDeclined
  | bundleSent (bundleHash : Digest) (targetBlock : UInt64) (builders : Nat) (windowSecs : UInt64)
  | included (txHash : Digest) (link : String) (transactions : Nat)
  | notIncluded (windowSecs : UInt64)
  deriving DecidableEq

end ArbBundle
