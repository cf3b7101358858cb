import ArbBundle.Chain.Node

/-!
# Scripted — a chain whose answers are laid down

- `ChainScript`: the answers that are still to come; of a list of answers the last one repeats
- `ChainScript.chain`: the chain that gives them
- `ChainScript.serve`: a node of that chain, which gives them to the requests of a node's client
-/

namespace ArbBundle

/-- The answers of a chain that are still to come. -/
structure ChainScript where
  networkId : Except TransportError UInt64
  /-- The newest blocks. -/
  heads : List (Except TransportError UInt64)
  /-- The block of the transaction that is asked for, whichever it is. -/
  inclusions : List (Except TransportError (Option UInt64))

namespace ChainScript

/-- The next of some answers and those behind it; the last one repeats, and stands for `fallback`
where there is none. -/
def next {α : Type} (fallback : α) : List α → α × List α
  | [] => (fallback, [])
  | [a] => (a, [a])
  | a :: rest => (a, rest)

def nextHead (s : ChainScript) : Except TransportError UInt64 × ChainScript :=
  let (head, heads) := next (.ok 0) s.heads
  (head, { s with heads })

def nextInclusion (s : ChainScript) : Except TransportError (Option UInt64) × ChainScript :=
  let (block, inclusions) := next (.ok none) s.inclusions
  (block, { s with inclusions })

/-- The chain that gives the answers, at once. -/
def chain : Chain ChainScript where
  networkId _ s := (.after 0 s.networkId, s)
  blockNumber _ s := (.after 0 s.nextHead.1, s.nextHead.2)
  inclusionBlock _ _ s := (.after 0 s.nextInclusion.1, s.nextInclusion.2)

/-! ## A node of the chain -/

def quantity (n : UInt64) : Json :=
  Json.text (Hex.quantity n.toNat)

/-- The receipt of a transaction in a block, with nothing else of note in it. -/
def receipt (txHash : Json) (block : UInt64) : Json :=
  let zeros (n : Nat) : Json := Json.ofBytes (List.replicate n 0)
  Json.object [
    ("type", Json.text "0x2"),
    ("status", Json.text "0x1"),
    ("cumulativeGasUsed", quantity 0),
    ("logs", .arr []),
    ("logsBloom", zeros 256),
    ("transactionHash", txHash),
    ("blockHash", zeros 32),
    ("blockNumber", quantity block),
    ("gasUsed", quantity 0),
    ("effectiveGasPrice", quantity 0),
    ("from", zeros 20)]

def response (id : Json) (result : Except TransportError Json) : HttpResponse :=
  let content := match result with
    | .ok j => ("result", j)
    | .error e =>
      ("error", Json.object [("code", .num "-32000".toList), ("message", Json.text e.message)])
  let answer := Json.object [("jsonrpc", Json.text "2.0"), ("id", id), content]
  ⟨200, Text.utf8 answer.render.toList⟩

def serve (body : String) (s : ChainScript) : HttpResponse × ChainScript :=
  let members := match Json.ofText? body with
    | some (.obj members) => members
    | _ => []
  let member (name : String) : Json := (members.lookup (some name)).getD .null
  match (member "method").text? with
  | some "eth_chainId" => (response (member "id") (s.networkId.map quantity), s)
  | some "eth_blockNumber" =>
    let (head, s) := s.nextHead
    (response (member "id") (head.map quantity), s)
  | _ =>
    let (block, s) := s.nextInclusion
    let txHash := match member "params" with
      | .arr (h :: _) => h
      | _ => .null
    (response (member "id") (block.map fun b => b.elim .null (receipt txHash)), s)

end ChainScript
end ArbBundle
