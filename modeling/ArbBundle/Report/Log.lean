import ArbBundle.Report.Event

/-!
# Log — events as structured records

Each event is one record with a level, a message and named fields; a dry run is one record for each
transaction.
-/

namespace ArbBundle

inductive LogLevel
  | info
  | warn
  deriving DecidableEq

structure LogRecord where
  level : LogLevel
  message : String
  fields : List (String × String)
  deriving DecidableEq

namespace Log

def recipientField : Option Address → String
  | some a => s!"Some({a.lower})"
  | none => "None"

def dryRunRecord (sender : Address) (index : Nat) (tx : Transaction) : LogRecord where
  level := .info
  message := "dry run transaction"
  fields := [
    ("stage", "dry-run"),
    ("index", toString index),
    ("from", sender.checksum),
    ("to", recipientField tx.recipient),
    ("value", toString tx.value.toNat),
    ("gas_limit", toString tx.gasLimit.toNat),
    ("max_fee_per_gas", toString tx.maxFeePerGas.toNat),
    ("max_priority_fee_per_gas", toString tx.maxPriorityFeePerGas.toNat),
    ("nonce", toString tx.nonce.toNat),
    ("data", String.ofList (Hex.encode tx.input))]

/-- The records of the transactions whose first one has the place `index`. -/
def dryRunRecords (sender : Address) (index : Nat) : List Transaction → List LogRecord
  | [] => []
  | tx :: rest => dryRunRecord sender index tx :: dryRunRecords sender (index + 1) rest

def profitFields (p : Profit) : List (String × String) :=
  [("expected_profit", toString p.expected.toNat), ("max_bundle_fee", toString p.bundleFee.toNat),
    ("max_arbitrage_fee", toString p.arbitrageFee.toNat)]

def records : Event → List LogRecord
  | .refundRecipientUpdated target =>
    [⟨.info, "refund recipient updated",
      [("stage", "preflight"), ("recipient", target.address.checksum)]⟩]
  | .simulationTxFailed f =>
    [⟨.warn, "simulated transaction failed",
      [("stage", "simulate"), ("index", toString f.index), ("error", f.error),
        ("revert", f.revertHex)]⟩]
  | .simulationSummary success p =>
    [⟨.info, "bundle simulated",
      [("stage", "evaluate"), ("success", toString success)] ++ profitFields p⟩]
  | .dryRun sender b => dryRunRecords sender 0 b.transactions
  | .profitRejected check p =>
    [⟨.warn, "profit below threshold",
      [("stage", "profit-check"), ("mode", check.name)] ++ profitFields p⟩]
  | .userDeclined => [⟨.info, "declined by operator", [("stage", "confirm")]⟩]
  | .bundleSent bundleHash targetBlock builders windowSecs =>
    [⟨.info, "bundle sent",
      [("stage", "broadcast"), ("bundle_hash", Hex.marked bundleHash.toList),
        ("target_block", toString targetBlock.toNat), ("builders", toString builders),
        ("window_secs", toString windowSecs.toNat)]⟩]
  | .included txHash link transactions =>
    [⟨.info, "bundle included",
      [("stage", "inclusion"), ("tx_hash", Hex.marked txHash.toList), ("link", link),
        ("transactions", toString transactions)]⟩]
  | .notIncluded windowSecs =>
    [⟨.warn, "bundle not included",
      [("stage", "inclusion"), ("window_secs", toString windowSecs.toNat)]⟩]

end Log
end ArbBundle
