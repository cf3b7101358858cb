import ArbBundle.Address
import ArbBundle.Json.Record

/-!
# Transaction — signed transactions as a bundle holds them

- `Transaction`: the fields that matter for fees and display, and the encoding that is sent
- `Transaction.maxFee`, `Transaction.maxCost`: the worst case for gas, and for the sender
- `Transaction.ofJson?`, `Transaction.toJson`: the stored form
-/

namespace ArbBundle

/-- A signed transaction as it will be submitted inside a bundle. -/
structure Transaction where
  hash : Digest
  sender : Address
  /-- The receiver; absent where the transaction creates a contract. -/
  recipient : Option Address
  value : Wei
  gasLimit : UInt64
  maxFeePerGas : FeeRate
  maxPriorityFeePerGas : FeeRate
  nonce : UInt64
  input : Bytes
  /-- The signed encoding that relays receive. -/
  raw : Bytes
  deriving DecidableEq, Inhabited

namespace Transaction

/-- The fee when all gas is used at the fee cap. -/
def maxFee (tx : Transaction) : Wei :=
  BitVec.ofNat 256 tx.gasLimit.toNat * tx.maxFeePerGas.setWidth 256

/-- The balance that the sender needs in the worst case. -/
def maxCost (tx : Transaction) : Wei :=
  tx.maxFee + tx.value

def fieldNames : List String :=
  ["hash", "from", "to", "value", "gas_limit", "max_fee_per_gas", "max_priority_fee_per_gas",
    "nonce", "input", "raw"]

def ofJson? (j : Json) : Option Transaction := do
  let r ← Json.Record.ofJson? fieldNames j
  return {
    hash := ← (r.slot "hash").required Json.fixed?
    sender := ← (r.slot "from").required Json.fixed?
    recipient := ← (r.slot "to").optional Json.fixed?
    value := ← (r.slot "value").required Json.wei?
    gasLimit := ← (r.slot "gas_limit").required Json.uint64?
    maxFeePerGas := ← (r.slot "max_fee_per_gas").required Json.feeRate?
    maxPriorityFeePerGas := ← (r.slot "max_priority_fee_per_gas").required Json.feeRate?
    nonce := ← (r.slot "nonce").required Json.uint64?
    input := ← (r.slot "input").required Json.bytes?
    raw := ← (r.slot "raw").required Json.bytes? }

def toJson (tx : Transaction) : Json :=
  Json.object [
    ("hash", Json.ofBytes tx.hash.toList),
    ("from", Json.ofBytes tx.sender.toList),
    ("to", Json.ofOption (fun a => Json.ofBytes a.toList) tx.recipient),
    ("value", Json.ofWei tx.value),
    ("gas_limit", Json.ofNat tx.gasLimit.toNat),
    ("max_fee_per_gas", Json.ofNat tx.maxFeePerGas.toNat),
    ("max_priority_fee_per_gas", Json.ofNat tx.maxPriorityFeePerGas.toNat),
    ("nonce", Json.ofNat tx.nonce.toNat),
    ("input", Json.ofBytes tx.input),
    ("raw", Json.ofBytes tx.raw)]

end Transaction
end ArbBundle
