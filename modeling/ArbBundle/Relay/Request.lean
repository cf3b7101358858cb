import ArbBundle.Address
import ArbBundle.Curve.Signature
import ArbBundle.Json.Record

/-!
# Request — what is put on the wire to a relay

- `RelayRequest`: the requests a relay knows, with their methods and parameters
- `RelayRequest.body`: the text of a request with its number
- `SignedRequest`: a text with the header that authenticates it

The header names the address of the key and signs the digest of the text, so a relay can tell who
sent what.
-/

namespace ArbBundle

inductive RelayRequest
  /-- From now on, pays the fee refunds of `signer` to `receiver`. -/
  | setFeeRefundRecipient (signer receiver : Address)
  /-- Runs transactions in a block. -/
  | callBundle (transactions : List Bytes) (block : UInt64)
  /-- Takes transactions for a block and passes them on to builders. -/
  | sendBundle (transactions : List Bytes) (block : UInt64) (builders : List String)
  deriving DecidableEq

namespace RelayRequest

def method : RelayRequest → String
  | .setFeeRefundRecipient _ _ => "flashbots_setFeeRefundRecipient"
  | .callBundle _ _ => "eth_callBundle"
  | .sendBundle _ _ _ => "eth_sendBundle"

def blockText (block : UInt64) : Json :=
  Json.text (Hex.quantity block.toNat)

def transactionTexts (transactions : List Bytes) : Json :=
  .arr (transactions.map Json.ofBytes)

def params : RelayRequest → Json
  | .setFeeRefundRecipient signer receiver =>
    .arr [Json.ofBytes signer.toList, Json.ofBytes receiver.toList]
  | .callBundle transactions block => .arr [Json.object [
      ("txs", transactionTexts transactions),
      ("blockNumber", blockText block),
      ("stateBlockNumber", Json.text "latest")]]
  | .sendBundle transactions block builders =>
    let routing := if builders.isEmpty then [] else [("builders", .arr (builders.map Json.text))]
    .arr [Json.object ([
      ("txs", transactionTexts transactions),
      ("blockNumber", blockText block)] ++ routing)]

def toJson (r : RelayRequest) (id : Nat) : Json :=
  Json.object [
    ("jsonrpc", Json.text "2.0"),
    ("id", Json.ofNat id),
    ("method", Json.text r.method),
    ("params", r.params)]

def body (r : RelayRequest) (id : Nat) : String :=
  (r.toJson id).render

end RelayRequest

/-- A text with the header that authenticates it. -/
structure SignedRequest where
  body : String
  signature : String
  deriving DecidableEq

/-- The text of the digest that is signed for a body. -/
def SignedRequest.digestText (body : String) : String :=
  Hex.marked (Keccak.hash (Text.utf8 body.toList)).toList

def SignedRequest.sign? (key : Curve.SigningKey) (body : String) : Option SignedRequest :=
  (key.signMessage? (digestText body).toList).map fun s =>
    ⟨body, s!"{Address.checksum key.address}:{Hex.marked s.toBytes}"⟩

end ArbBundle
