import ArbBundle.Address
import ArbBundle.Json.Record

/-!
# Simulation — what a relay answers about a bundle that was not sent

- `TxOutcome`: one simulated transaction
- `Simulation`: the outcomes in the order of the bundle
- `Simulation.ofJson?`, `Simulation.toJson`: the stored form
-/

namespace ArbBundle

structure TxOutcome where
  txHash : Digest
  gasUsed : UInt64
  error : Option String
  revert : Bytes
  deriving DecidableEq

namespace TxOutcome

def success (txHash : Digest) (gasUsed : UInt64) : TxOutcome :=
  ⟨txHash, gasUsed, none, []⟩

def failure (txHash : Digest) (error : String) (revert : Bytes) : TxOutcome :=
  ⟨txHash, 0, some error, revert⟩

/-- Whether the transaction went through: its error is absent or empty. -/
def isOk (o : TxOutcome) : Bool :=
  match o.error with
  | none => true
  | some e => e.isEmpty

/-- The revert data in hexadecimal, without a mark. -/
def revertHex (o : TxOutcome) : String :=
  String.ofList (Hex.encode o.revert)

def fieldNames : List String :=
  ["tx_hash", "gas_used", "error", "revert"]

def ofJson? (j : Json) : Option TxOutcome := do
  let r ← Json.Record.ofJson? fieldNames j
  return {
    txHash := ← (r.slot "tx_hash").required Json.fixed?
    gasUsed := ← (r.slot "gas_used").required Json.uint64?
    error := ← (r.slot "error").optional Json.text?
    revert := ← (r.slot "revert").required Json.bytes? }

def toJson (o : TxOutcome) : Json :=
  Json.object [
    ("tx_hash", Json.ofBytes o.txHash.toList),
    ("gas_used", Json.ofNat o.gasUsed.toNat),
    ("error", Json.ofOption Json.text o.error),
    ("revert", Json.ofBytes o.revert)]

end TxOutcome

structure Simulation where
  bundleHash : Digest
  results : List TxOutcome
  deriving DecidableEq

namespace Simulation

def allOk (s : Simulation) : Bool :=
  s.results.all TxOutcome.isOk

/-- The hash of the last transaction, the one that settles. -/
def settlementHash? (s : Simulation) : Option Digest :=
  s.results.getLast?.map TxOutcome.txHash

def fieldNames : List String :=
  ["bundle_hash", "results"]

def ofJson? (j : Json) : Option Simulation := do
  let r ← Json.Record.ofJson? fieldNames j
  return {
    bundleHash := ← (r.slot "bundle_hash").required Json.fixed?
    results := ← (r.slot "results").required (Json.list? TxOutcome.ofJson?) }

def toJson (s : Simulation) : Json :=
  Json.object [
    ("bundle_hash", Json.ofBytes s.bundleHash.toList),
    ("results", .arr (s.results.map TxOutcome.toJson))]

end Simulation
end ArbBundle
