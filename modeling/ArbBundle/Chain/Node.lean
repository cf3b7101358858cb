import ArbBundle.Address
import ArbBundle.Chain.Basic
import ArbBundle.Http
import ArbBundle.Json.Parser
import ArbBundle.Json.Record
import ArbBundle.Json.Spelling

/-!
# Node — asking a chain's node

- `NodeRequest`: the requests, with their methods and parameters
- `NodeFault`: why a node gives no answer; `NodeFault.message` words it
- `Receipt.block?`: the block of a transaction's receipt
- `Node.read`: what a node's answer means
- `Node.chain`: a node as a chain

An answer whose status is not one of success counts as no answer.  A receipt has to be complete even
though only its block is looked at.
-/

namespace ArbBundle

inductive NodeRequest
  | chainId
  | blockNumber
  | transactionReceipt (txHash : Digest)
  deriving DecidableEq

namespace NodeRequest

def method : NodeRequest → String
  | .chainId => "eth_chainId"
  | .blockNumber => "eth_blockNumber"
  | .transactionReceipt _ => "eth_getTransactionReceipt"

def params? : NodeRequest → Option Json
  | .chainId => none
  | .blockNumber => none
  | .transactionReceipt txHash => some (.arr [Json.ofBytes txHash.toList])

def toJson (r : NodeRequest) (id : Nat) : Json :=
  Json.object ([("method", Json.text r.method)] ++
    (r.params?.map fun p => ("params", p)).toList ++
    [("id", Json.ofNat id), ("jsonrpc", Json.text "2.0")])

end NodeRequest

inductive NodeFault
  /-- The request did not get through, or the web server refused it. -/
  | unreachable
  /-- The answer makes no sense. -/
  | unreadable
  /-- The node reports an error; its data stands as the node wrote it. -/
  | refused (code : Int) (message : String) (data : Option String)
  deriving DecidableEq

def NodeFault.message : NodeFault → String
  | .unreachable => "the node gave no answer"
  | .unreadable => "the node's answer makes no sense"
  | .refused code message data =>
    let detail := (data.map fun d => s!", data: {d}").getD ""
    s!"server returned an error response: error code {code}: {message}{detail}"

def NodeFault.toTransportError (f : NodeFault) : TransportError :=
  .rpc f.message

/-! ## Results -/

namespace Json

/-- A quantity below a power of two: a whole number, or a numeral in a string. -/
def quantity? (width : Nat) : Json → Option Nat
  | .str t => t.bind fun s => (Numeral.nat? s.toList).bind fun n =>
    if n < Nat.pow 2 width then some n else none
  | j => j.uint64?.bind fun n => if n.toNat < Nat.pow 2 width then some n.toNat else none

def quantity64? (j : Json) : Option UInt64 :=
  (j.quantity? 64).bind Word.uint64?

end Json

namespace Receipt

def fieldNames : List String :=
  ["type", "cumulativeGasUsed", "logs", "logsBloom", "transactionHash", "transactionIndex",
    "blockHash", "blockNumber", "gasUsed", "effectiveGasPrice", "blobGasUsed", "blobGasPrice",
    "from", "to", "contractAddress"]

def kinds : List String :=
  ["0x0", "0x00", "0x1", "0x01", "0x2", "0x02", "0x3", "0x03", "0x4", "0x04"]

def kind? (j : Json) : Option String :=
  j.text?.bind fun t => if kinds.contains t then some t else none

def log? (j : Json) : Option (Address × List Digest × Bytes) := do
  let r ← Json.Record.ofJson? ["address", "topics", "data"] j
  return (← (r.slot "address").required Json.fixed?,
    ← (r.slot "topics").required (Json.list? Json.fixed?),
    ← (r.slot "data").required Json.bytes?)

/-- Whether the members of a receipt tell how the transaction ended: a status, or the root of the
state behind it. -/
def hasVerdict (members : List (Option String × Json)) : Bool :=
  match members.lookup (some "status"), members.lookup (some "root") with
  | some status, _ => ((status.quantity? 1).isSome || (Json.bool? status).isSome)
  | none, some root => (Json.fixed? root : Option Digest).isSome
  | none, none => false

/-- The block of a receipt, where it names one; `none` for what is no complete receipt. -/
def block? : Json → Option (Option UInt64)
  | .obj members => do
    let r ← Json.Record.ofJson? fieldNames (.obj members)
    let _ ← (r.slot "type").required kind?
    let _ ← if hasVerdict members then some () else none
    let _ ← (r.slot "cumulativeGasUsed").required Json.quantity64?
    let _ ← (r.slot "logs").required (Json.list? log?)
    let _ : FixedBytes 256 ← (r.slot "logsBloom").required Json.fixed?
    let _ : Digest ← (r.slot "transactionHash").required Json.fixed?
    let _ ← (r.slot "transactionIndex").withDefault none (Json.nullable? Json.quantity64?)
    let _ : Option Digest ← (r.slot "blockHash").withDefault none (Json.nullable? Json.fixed?)
    let _ ← (r.slot "gasUsed").required Json.quantity64?
    let _ ← (r.slot "effectiveGasPrice").required (Json.quantity? 128)
    let _ ← (r.slot "blobGasUsed").withDefault none (Json.nullable? Json.quantity64?)
    let _ ← (r.slot "blobGasPrice").withDefault none (Json.nullable? (Json.quantity? 128))
    let _ : Address ← (r.slot "from").required Json.fixed?
    let _ : Option Address ← (r.slot "to").withDefault none (Json.nullable? Json.fixed?)
    let _ : Option Address ←
      (r.slot "contractAddress").withDefault none (Json.nullable? Json.fixed?)
    (r.slot "blockNumber").withDefault none (Json.nullable? Json.quantity64?)
  | _ => none

end Receipt

/-! ## Answers -/

namespace Node

variable {κ α : Type}

/-- The fault of an answer's error member; `data` is the text of its data. -/
def fault? (error : Json) (data : Option String) : Option NodeFault :=
  match error with
  | .obj members => do
    let r ← Json.Record.ofJson? ["code", "message", "data"] (.obj members)
    let code ← (r.slot "code").required Json.int64?
    let message ← (r.slot "message").withDefault "" Json.text?
    return .refused code message data
  | _ => none

def dataText? (text : List Text.Symbol) : Option String := do
  let words ← Json.Spelling.words? [] text
  let error ← Json.Spelling.member? "error" words
  (Json.Spelling.member? "data" error).map Json.Spelling.text

/-- Whether a value can be the number of an answer. -/
def isId : Json → Bool
  | .null => true
  | .str t => t.isSome
  | j => j.uint64?.isSome

def readText (read : Json → Option α) (text : List Text.Symbol) : Except NodeFault α :=
  match Json.parse? text with
  | some (.obj members) =>
    match Json.Record.ofJson? ["result", "error", "id"] (.obj members) with
    | none => .error .unreadable
    | some r =>
      if !((r.slot "id").withDefault true fun id => some (isId id)).getD false then
        .error .unreadable
      else
        match r.slot "result", r.slot "error" with
        | .given result, .omitted =>
          match read result with
          | some a => .ok a
          | none => .error .unreadable
        | .omitted, .given error => .error ((fault? error (dataText? text)).getD .unreadable)
        | _, _ => .error .unreadable
  | _ => .error .unreadable

def read (read : Json → Option α) : Except String HttpResponse → Except NodeFault α
  | .error _ => .error .unreachable
  | .ok response =>
    if HttpStatus.isSuccess response.status then readText read (Text.symbols response.body)
    else .error .unreachable

/-- How a node stands: the state of the wire, and the number of the next request. -/
structure State (κ : Type) where
  world : κ
  nextId : Nat

/-- Asks the node, over a wire that carries the text of a request. -/
def ask (post : String → Service κ (Except String HttpResponse)) (request : NodeRequest)
    (readResult : Json → Option α) : Service (State κ) (Except NodeFault α) := fun time s =>
  let (reply, world) := post (request.toJson s.nextId).render time s.world
  let answer := match reply with
    | .after delay response => .after delay (read readResult response)
    | .never => .never
  (answer, ⟨world, s.nextId + 1⟩)

def asCall (s : Service (State κ) (Except NodeFault α)) :
    Service (State κ) (Except TransportError α) := fun time st =>
  match s time st with
  | (.after delay answer, st) => (.after delay (answer.mapError NodeFault.toTransportError), st)
  | (.never, st) => (.never, st)

def networkId (post : String → Service κ (Except String HttpResponse)) :
    Service (State κ) (Except NodeFault UInt64) :=
  ask post .chainId Json.quantity64?

def blockNumber (post : String → Service κ (Except String HttpResponse)) :
    Service (State κ) (Except NodeFault UInt64) :=
  ask post .blockNumber Json.quantity64?

def inclusionBlock (post : String → Service κ (Except String HttpResponse)) (txHash : Digest) :
    Service (State κ) (Except NodeFault (Option UInt64)) :=
  ask post (.transactionReceipt txHash) fun j =>
    (Json.nullable? Receipt.block? j).map Option.join

def chain (post : String → Service κ (Except String HttpResponse)) : Chain (State κ) where
  networkId := asCall (networkId post)
  blockNumber := asCall (blockNumber post)
  inclusionBlock txHash := asCall (inclusionBlock post txHash)

end Node
end ArbBundle
