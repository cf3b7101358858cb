import ArbBundle.Report.Event

/-!
# Console — events as lines for people

- `Console.render`: the text of an event
- `Console.dryRunText`: the text of a bundle that is not sent, transaction by transaction

Amounts are shown in ether with six places; the fee cap and the tip cap of a transaction exactly,
and in gwei beside it.
-/

namespace ArbBundle
namespace Console

inductive Colour
  | green
  | red

def Colour.code : Colour → String
  | .green => "\x1b[32m"
  | .red => "\x1b[31m"

/-- A text in a colour, or as it is where colours are off. -/
def paint (colours : Bool) (c : Colour) (text : String) : String :=
  if colours then c.code ++ text ++ "\x1b[0m" else text

def ether (amount : Wei) : String :=
  (Wei.ether amount).fixed 6

def gwei (places : Nat) (rate : FeeRate) : String :=
  (Wei.gwei (rate.setWidth 256)).fixed places

def recipientText : Option Address → String
  | some a => a.checksum
  | none => "contract creation"

/-- The lines about one transaction; `index` counts from zero. -/
def transactionText (sender : Address) (index : Nat) (tx : Transaction) : String :=
  s!"Transaction {index + 1}:\n" ++
  s!"    From: {sender.checksum}\n" ++
  s!"    To: {recipientText tx.recipient}\n" ++
  s!"    Value: {tx.value.toNat}\n" ++
  s!"    Gas Limit: {tx.gasLimit.toNat}\n" ++
  s!"    Base Fee: {tx.maxFeePerGas.toNat} ({gwei 2 tx.maxFeePerGas} Gwei)\n" ++
  s!"    Priority Fee: {tx.maxPriorityFeePerGas.toNat} ({gwei 4 tx.maxPriorityFeePerGas} Gwei)\n" ++
  s!"    Nonce: {tx.nonce.toNat}\n" ++
  s!"    Data: {String.ofList (Hex.encode tx.input)}\n"

/-- The lines about the transactions whose first one has the place `index`. -/
def transactionsText (sender : Address) (index : Nat) : List Transaction → String
  | [] => ""
  | tx :: rest => transactionText sender index tx ++ transactionsText sender (index + 1) rest

def dryRunText (sender : Address) (b : Bundle) : String :=
  "Dry run. Would have sent the following bundle:\n" ++ transactionsText sender 0 b.transactions

def rejectedFee (check : ProfitCheck) (p : Profit) : Wei :=
  match check with
  | .ignoreDistributeCost => p.arbitrageFee
  | _ => p.bundleFee

def summaryText (colours success : Bool) (p : Profit) : String :=
  let verdict := if success then paint colours .green "success" else paint colours .red "failed"
  s!"Simulated bundle ({verdict}):\n" ++
  s!"    Expected profit after fees: {p.netAfterBundleFee.fixed 6}, " ++
  s!"with a tx fee of {ether p.bundleFee}\n" ++
  s!"    Expected profit after arbitrage fees: {p.netAfterArbitrageFee.fixed 6}, " ++
  s!"with a tx fee of {ether p.arbitrageFee} (relevant if distributing regardless)\n\n"

/-- The text of an event. `deadline` is the time of day at which a wait that begins now ends. -/
def render (colours : Bool) (deadline : String) : Event → String
  | .refundRecipientUpdated (.supplied a) =>
    s!"Updated relay fee refund recipient to supplied recipient ({a.checksum})\n"
  | .refundRecipientUpdated (.node a) =>
    s!"Updated relay fee refund recipient to node address ({a.checksum})\n"
  | .simulationTxFailed f =>
    s!"    Transaction {f.index + 1} failed: {f.error} (revert: 0x{f.revertHex})\n"
  | .simulationSummary success p => summaryText colours success p
  | .dryRun sender b => dryRunText sender b
  | .profitRejected check p =>
    let head := paint colours .red "Aborting:"
    s!"{head} expected profit {ether p.expected} " ++
    s!"is less than the max fee {ether (rejectedFee check p)} ({check.name})\n"
  | .userDeclined => "Not confirmed, bundle was not sent.\n"
  | .bundleSent bundleHash targetBlock builders _ =>
    s!"\nSent bundle with hash: {Hex.marked bundleHash.toList} " ++
    s!"(target block {targetBlock.toNat}, {builders} builders). " ++
    s!"Waiting until {deadline} to see if it is included...\n\n"
  | .included txHash link transactions =>
    let what := if transactions = 2 then "Distributed minipool!" else "Distributed minipools!"
    s!"{paint colours .green what} Arbitrage tx: {link}\n    ({Hex.marked txHash.toList})\n"
  | .notIncluded windowSecs =>
    let head := paint colours .red "Not included:"
    s!"{head} bundle was not included within {windowSecs.toNat}s\n"

end Console
end ArbBundle
