import ArbBundle.Bundle
import ArbBundle.Rlp.Reader
import ArbBundle.Transaction.Envelope

/-!
# Decode — signed transactions from their encoding

- `Envelope.decode`: the transaction at the front of a byte string; bytes behind it are passed over
- `Transaction.decode`: the same as a transaction of a bundle, sent from a given account

A first byte below `0x80` tells the type; any other byte string is read as the first type.
-/

namespace ArbBundle

inductive EnvelopeError
  /-- The fields of the announced type cannot be read. -/
  | encoding (e : Rlp.Error)
  /-- There is no such type. -/
  | unknownType
  /-- There is no type byte, and the fields of the first type cannot be read. -/
  | notLegacy
  deriving DecidableEq

def EnvelopeError.message : EnvelopeError → String
  | .encoding e => e.message
  | .unknownType => "unexpected tx type"
  | .notLegacy => "Unexpected type flag. Got 0."

namespace Envelope

open Rlp
open Rlp.Reader

/-! ## Fields -/

/-- Reads a receiver; the empty string stands for none. -/
def receiver : Reader (Option Address) := fun input =>
  match input with
  | [] => .error .tooShort
  | b :: rest =>
    if b = 0x80 then .ok (none, rest)
    else (some <$> fixed 20) (b :: rest)

def accessEntry : Reader AccessItem :=
  closed do
    return ⟨← fixed 20, ← listOf (fixed 32)⟩

def authorization : Reader Authorization :=
  closed do
    return ⟨← word, ← fixed 20, ← uint64, UInt8.ofNat (← uint 1), ← word, ← word⟩

/-- Reads the chain and the fees of the types that set a tip and a cap, around the nonce. -/
def marketFees : Reader (MarketFees × UInt64) := do
  let chainId ← uint64
  let nonce ← uint64
  let tipCap ← feeRate
  let feeCap ← feeRate
  return (⟨chainId, tipCap, feeCap⟩, nonce)

/-- The chain and the parity in the number of the first type. -/
def legacyParity? (v : Nat) : Option (Option UInt64 × Bool) :=
  if v = 27 then some (none, false)
  else if v = 28 then some (none, true)
  else if v < 35 then none
  else if UInt64.size ≤ (v - 35) / 2 then none
  else some (some (UInt64.ofNat ((v - 35) / 2)), (v - 35) % 2 == 1)

/-! ## Types -/

def legacy : Reader Envelope :=
  spanning do
    let nonce ← uint64
    let gasPrice ← feeRate
    let gasLimit ← uint64
    let recipient ← receiver
    let value ← word
    let input ← string
    match legacyParity? (← uint 16) with
    | none => throw .parity
    | some (chainId, yParity) =>
      return {
        payload := .legacy chainId gasPrice recipient
        nonce, gasLimit, value, input, yParity
        r := ← word
        s := ← word }

def withAccessList : Reader Envelope :=
  spanning do
    let chainId ← uint64
    let nonce ← uint64
    let gasPrice ← feeRate
    let gasLimit ← uint64
    let recipient ← receiver
    let value ← word
    let input ← string
    let access ← listOf accessEntry
    return {
      payload := .accessList chainId gasPrice recipient access
      nonce, gasLimit, value, input
      yParity := ← flag
      r := ← word
      s := ← word }

def withDynamicFee : Reader Envelope :=
  spanning do
    let (fees, nonce) ← marketFees
    let gasLimit ← uint64
    let recipient ← receiver
    let value ← word
    let input ← string
    let access ← listOf accessEntry
    return {
      payload := .dynamicFee fees recipient access
      nonce, gasLimit, value, input
      yParity := ← flag
      r := ← word
      s := ← word }

def withBlobHashes : Reader Envelope :=
  spanning do
    let (fees, nonce) ← marketFees
    let gasLimit ← uint64
    let recipient ← fixed 20
    let value ← word
    let input ← string
    let access ← listOf accessEntry
    let blobFee ← feeRate
    let hashes ← listOf (fixed 32)
    return {
      payload := .blob fees recipient access blobFee hashes
      nonce, gasLimit, value, input
      yParity := ← flag
      r := ← word
      s := ← word }

/-- Reads blobs with their commitments and proofs, in the form that a leading byte one announces or
in the older one. -/
def sidecar : Reader Unit := do
  if (← get).head? = some 1 then
    if (← uint 1) ≠ 1 then throw .wrapper
  discard (listOf (fixed 131072))
  discard (listOf (fixed 48))
  discard (listOf (fixed 48))

def withBlobs : Reader Envelope :=
  spanning do
    let e ← withBlobHashes
    sidecar
    return e

/-- Whether the first item of the list at the front of the input is a list. -/
def beginsWithList (input : Bytes) : Bool :=
  match header input with
  | .error _ => false
  | .ok (_, rest) =>
    match header rest with
    | .error _ => false
    | .ok (h, _) => h.isList

/-- Reads a transaction of type 3 behind its type byte: with its blobs where the fields are a list
of their own, and otherwise, or where that fails, without. -/
def withOptionalBlobs : Reader Envelope := fun input =>
  if beginsWithList input then
    match withBlobs input with
    | .ok found => .ok found
    | .error _ => withBlobHashes input
  else withBlobHashes input

def withAuthorizations : Reader Envelope :=
  spanning do
    let (fees, nonce) ← marketFees
    let gasLimit ← uint64
    let recipient ← fixed 20
    let value ← word
    let input ← string
    let access ← listOf accessEntry
    let authorizations ← listOf authorization
    return {
      payload := .setCode fees recipient access authorizations
      nonce, gasLimit, value, input
      yParity := ← flag
      r := ← word
      s := ← word }

def ofType? : UInt8 → Option (Reader Envelope)
  | 0 => some legacy
  | 1 => some withAccessList
  | 2 => some withDynamicFee
  | 3 => some withOptionalBlobs
  | 4 => some withAuthorizations
  | _ => none

def decode (raw : Bytes) : Except EnvelopeError Envelope :=
  match raw with
  | [] => .error .notLegacy
  | b :: rest =>
    if b < 0x80 then
      match ofType? b with
      | none => .error .unknownType
      | some read => (read rest).mapError .encoding |>.map Prod.fst
    else (legacy (b :: rest)).mapError (fun _ => .notLegacy) |>.map Prod.fst

end Envelope

namespace Transaction

def ofEnvelope (e : Envelope) (sender : Address) (raw : Bytes) : Transaction where
  hash := e.hash
  sender := sender
  recipient := e.payload.recipient
  value := e.value
  gasLimit := e.gasLimit
  maxFeePerGas := e.payload.maxFeePerGas
  maxPriorityFeePerGas := e.payload.maxPriorityFeePerGas
  nonce := e.nonce
  input := e.input
  raw := raw

/-- The transaction that a byte string encodes, sent from `sender`; `index` is its place in the
bundle. -/
def decode (index : Nat) (raw : Bytes) (sender : Address) : Except BundleError Transaction :=
  match Envelope.decode raw with
  | .error e => .error (.decode index e.message)
  | .ok e => .ok (ofEnvelope e sender raw)

end Transaction
end ArbBundle
