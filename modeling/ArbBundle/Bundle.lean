import ArbBundle.Network
import ArbBundle.Transaction

/-!
# Bundle — transactions that are submitted together

A bundle holds at least one transaction, in the order of execution.  The last one settles the
arbitrage.  Where it goes — the target block and the builders — is set on the way to the relay.

- `Bundle.ofTransactions`: a bundle without destination
- `Bundle.ofJson?`, `Bundle.toJson`: the stored form
-/

namespace ArbBundle

/-- Why a bundle could not be put together. -/
inductive BundleError
  | empty
  | decode (index : Nat) (reason : String)
  deriving DecidableEq

def BundleError.message : BundleError → String
  | .empty => "bundle has no transactions"
  | .decode index reason => s!"transaction {index} could not be decoded: {reason}"

/-- An ordered, non-empty list of transactions that are submitted together. -/
structure Bundle where
  transactions : List Transaction
  nonempty : transactions ≠ []
  targetBlock : Option UInt64
  builders : List String
  deriving DecidableEq

instance : Inhabited Bundle := ⟨⟨[default], List.cons_ne_nil _ _, none, []⟩⟩

namespace Bundle

/-- The bundle of some transactions, without target block and builders. -/
def ofTransactions (txs : List Transaction) : Except BundleError Bundle :=
  if h : txs = [] then .error .empty else .ok ⟨txs, h, none, []⟩

def size (b : Bundle) : Nat :=
  b.transactions.length

/-- The transaction that settles the arbitrage. -/
def last (b : Bundle) : Transaction :=
  b.transactions.getLast b.nonempty

def withTarget (b : Bundle) (block : UInt64) : Bundle :=
  { b with targetBlock := some block }

/-- The bundle on its way to every builder that a network knows. -/
def withKnownBuilders (b : Bundle) (chainId : UInt64) : Bundle :=
  { b with builders := Network.knownBuilders chainId }

def maxFee (b : Bundle) : Wei :=
  b.transactions.foldl (fun sum tx => sum + tx.maxFee) 0

/-- The encodings of the transactions, in the order of execution. -/
def encodings (b : Bundle) : List Bytes :=
  b.transactions.map Transaction.raw

def fieldNames : List String :=
  ["transactions", "target_block", "builders"]

def ofJson? (j : Json) : Option Bundle := do
  let r ← Json.Record.ofJson? fieldNames j
  let txs ← (r.slot "transactions").required (Json.list? Transaction.ofJson?)
  let target ← (r.slot "target_block").withDefault none (Json.nullable? Json.uint64?)
  let builders ← (r.slot "builders").withDefault [] (Json.list? Json.text?)
  if h : txs = [] then none else some ⟨txs, h, target, builders⟩

def toJson (b : Bundle) : Json :=
  Json.object [
    ("transactions", .arr (b.transactions.map Transaction.toJson)),
    ("target_block", Json.ofOption (fun n => Json.ofNat n.toNat) b.targetBlock),
    ("builders", .arr (b.builders.map Json.text))]

@[simp] theorem transactions_withTarget (b : Bundle) (block : UInt64) :
    (b.withTarget block).transactions = b.transactions := rfl

@[simp] theorem transactions_withKnownBuilders (b : Bundle) (chainId : UInt64) :
    (b.withKnownBuilders chainId).transactions = b.transactions := rfl

@[simp] theorem last_withTarget (b : Bundle) (block : UInt64) :
    (b.withTarget block).last = b.last := rfl

@[simp] theorem last_withKnownBuilders (b : Bundle) (chainId : UInt64) :
    (b.withKnownBuilders chainId).last = b.last := rfl

@[simp] theorem encodings_withTarget (b : Bundle) (block : UInt64) :
    (b.withTarget block).encodings = b.encodings := rfl

@[simp] theorem encodings_withKnownBuilders (b : Bundle) (chainId : UInt64) :
    (b.withKnownBuilders chainId).encodings = b.encodings := rfl

end Bundle
end ArbBundle
