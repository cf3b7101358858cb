import ArbBundle.Address
import ArbBundle.Rlp.Item

/-!
# Envelope — signed transactions as the chain encodes them

- `Payload`: the five types of transaction, each with the fields of its own
- `Envelope`: a payload with the fields that all types share, and the signature
- `Envelope.encode`: the canonical encoding, of which `Envelope.hash` is the digest
-/

namespace ArbBundle

structure AccessItem where
  address : Address
  keys : List Digest
  deriving DecidableEq

/-- A signed permission to run the code of an address in the signer's account. -/
structure Authorization where
  chainId : Wei
  address : Address
  nonce : UInt64
  yParity : UInt8
  r : Wei
  s : Wei
  deriving DecidableEq

structure MarketFees where
  chainId : UInt64
  tipCap : FeeRate
  feeCap : FeeRate
  deriving DecidableEq

/-- What the types of transaction differ in. -/
inductive Payload
  /-- The first type, with or without the chain in its signature. -/
  | legacy (chainId : Option UInt64) (gasPrice : FeeRate) (recipient : Option Address)
  /-- Type 1: announces storage. -/
  | accessList (chainId : UInt64) (gasPrice : FeeRate) (recipient : Option Address)
      (access : List AccessItem)
  /-- Type 2: sets a tip and a cap. -/
  | dynamicFee (fees : MarketFees) (recipient : Option Address) (access : List AccessItem)
  /-- Type 3: carries blobs. -/
  | blob (fees : MarketFees) (recipient : Address) (access : List AccessItem)
      (maxFeePerBlobGas : FeeRate) (blobHashes : List Digest)
  /-- Type 4: sets the code of accounts. -/
  | setCode (fees : MarketFees) (recipient : Address) (access : List AccessItem)
      (authorizations : List Authorization)
  deriving DecidableEq

structure Envelope where
  payload : Payload
  nonce : UInt64
  gasLimit : UInt64
  value : Wei
  input : Bytes
  yParity : Bool
  r : Wei
  s : Wei
  deriving DecidableEq

/-! ## Fields -/

namespace Payload

/-- The byte in front of the encoding; the first type has none. -/
def typeByte? : Payload → Option UInt8
  | .legacy .. => none
  | .accessList .. => some 1
  | .dynamicFee .. => some 2
  | .blob .. => some 3
  | .setCode .. => some 4

/-- The receiver; absent where a contract is created. -/
def recipient : Payload → Option Address
  | .legacy _ _ recipient => recipient
  | .accessList _ _ recipient _ => recipient
  | .dynamicFee _ recipient _ => recipient
  | .blob _ recipient _ _ _ => some recipient
  | .setCode _ recipient _ _ => some recipient

/-- The fee cap; the gas price for the types that have no cap. -/
def maxFeePerGas : Payload → FeeRate
  | .legacy _ price _ => price
  | .accessList _ price _ _ => price
  | .dynamicFee fees _ _ => fees.feeCap
  | .blob fees _ _ _ _ => fees.feeCap
  | .setCode fees _ _ _ => fees.feeCap

/-- The tip cap; the gas price for the types that have no tip. -/
def maxPriorityFeePerGas : Payload → FeeRate
  | .legacy _ price _ => price
  | .accessList _ price _ _ => price
  | .dynamicFee fees _ _ => fees.tipCap
  | .blob fees _ _ _ _ => fees.tipCap
  | .setCode fees _ _ _ => fees.tipCap

end Payload

/-! ## Encoding -/

open Rlp

/-- A receiver, or an empty string where a contract is created. -/
def receiverItem : Option Address → Item
  | some a => .ofFixed a
  | none => .str []

def AccessItem.item (a : AccessItem) : Item :=
  .list [.ofFixed a.address, .list (a.keys.map .ofFixed)]

def accessItem (access : List AccessItem) : Item :=
  .list (access.map AccessItem.item)

def Authorization.item (a : Authorization) : Item :=
  .list [.ofNat a.chainId.toNat, .ofFixed a.address, .ofNat a.nonce.toNat, .ofNat a.yParity.toNat,
    .ofNat a.r.toNat, .ofNat a.s.toNat]

namespace Envelope

def marketItems (fees : MarketFees) (e : Envelope) (recipient : Option Address)
    (access : List AccessItem) : List Item :=
  [.ofNat fees.chainId.toNat, .ofNat e.nonce.toNat, .ofNat fees.tipCap.toNat,
    .ofNat fees.feeCap.toNat, .ofNat e.gasLimit.toNat, receiverItem recipient, .ofNat e.value.toNat,
    .str e.input, accessItem access]

def fieldItems (e : Envelope) : List Item :=
  match e.payload with
  | .legacy _ price recipient =>
    [.ofNat e.nonce.toNat, .ofNat price.toNat, .ofNat e.gasLimit.toNat, receiverItem recipient,
      .ofNat e.value.toNat, .str e.input]
  | .accessList chainId price recipient access =>
    [.ofNat chainId.toNat, .ofNat e.nonce.toNat, .ofNat price.toNat, .ofNat e.gasLimit.toNat,
      receiverItem recipient, .ofNat e.value.toNat, .str e.input, accessItem access]
  | .dynamicFee fees recipient access => marketItems fees e recipient access
  | .blob fees recipient access blobFee hashes =>
    marketItems fees e (some recipient) access ++
      [.ofNat blobFee.toNat, .list (hashes.map .ofFixed)]
  | .setCode fees recipient access authorizations =>
    marketItems fees e (some recipient) access ++ [.list (authorizations.map Authorization.item)]

/-- The number that carries the parity of the signature, and for the first type the chain. -/
def parityNumber (e : Envelope) : Nat :=
  match e.payload with
  | .legacy none _ _ => 27 + e.yParity.toNat
  | .legacy (some chainId) _ _ => 35 + 2 * chainId.toNat + e.yParity.toNat
  | _ => e.yParity.toNat

def signatureItems (e : Envelope) : List Item :=
  [.ofNat e.parityNumber, .ofNat e.r.toNat, .ofNat e.s.toNat]

def item (e : Envelope) : Item :=
  .list (e.fieldItems ++ e.signatureItems)

def encode (e : Envelope) : Bytes :=
  e.payload.typeByte?.toList ++ e.item.encode

def hash (e : Envelope) : Digest :=
  Keccak.hash e.encode

end Envelope
end ArbBundle
