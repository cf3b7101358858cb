import ArbBundle.Chain.Basic
import ArbBundle.Relay.Basic
import ArbBundle.Relay.Request
import ArbBundle.Relay.Response

/-!
# Client — speaking to a relay over the wire

- `RelayClient`: the key, the wire, the chain that is watched, and how often it is looked at
- `RelayClient.State`: the state of wire and chain, the number of the next request, and all
  exchanges so far
- `RelayClient.call`: one numbered, signed request and what its answer means
- `RelayClient.awaitBlock`: looks at the chain again and again until the transaction is mined, a
  block is reached, or the deadline has come
- `RelayClient.sendRounds`: submits for one block after the other, and looks once more at the end,
  since the last block may have been mined between the look at the receipt and the look at the head
- `RelayClient.relay`: the client as a relay

A pause is at least a millisecond and never goes past the deadline, so a wait ends whatever the
chain answers.
-/

namespace ArbBundle

/-- Something that the client did, and how it was answered. -/
inductive Exchange
  | posted (request : RelayRequest) (id : Nat) (signed : SignedRequest)
    (reply : Reply (Except String HttpResponse))
  /-- The request could not be signed, and nothing was put on the wire. -/
  | unsigned (request : RelayRequest) (id : Nat)
  | askedHead (reply : Reply (Except TransportError UInt64))
  | askedReceipt (txHash : Digest) (reply : Reply (Except TransportError (Option UInt64)))
  | paused (delay : Nat)

structure RelayClient (κ : Type) where
  key : Curve.SigningKey
  /-- Sends a request; the error is the reason why it did not get through. -/
  post : SignedRequest → Service κ (Except String HttpResponse)
  chain : Chain κ
  pollIntervalMs : Nat

namespace RelayClient

variable {κ α : Type}

structure State (κ : Type) where
  world : κ
  nextId : Nat
  /-- What was done and when, the last one first. -/
  exchanges : List (Nat × Exchange)

def State.new (world : κ) : State κ :=
  ⟨world, 1, []⟩

def State.noting (s : State κ) (time : Nat) (e : Exchange) (world : κ) : State κ :=
  { s with world, exchanges := (time, e) :: s.exchanges }

/-- What was put on the wire, in order. -/
def State.wire (s : State κ) : List SignedRequest :=
  s.exchanges.reverse.filterMap fun (_, e) => match e with
    | .posted _ _ signed _ => some signed
    | _ => none

/-! ## Elementary exchanges -/

/-- Sends a request under the next number. -/
def send (c : RelayClient κ) (request : RelayRequest) (signed : SignedRequest) :
    Service (State κ) (Except String HttpResponse) := fun time s =>
  let (reply, world) := c.post signed time s.world
  let noted := s.noting time (.posted request s.nextId signed reply) world
  (reply, { noted with nextId := s.nextId + 1 })

/-- Uses up the number of a request without sending anything. -/
def drop (request : RelayRequest) : Timed (State κ) Unit := do
  let time ← Timed.now
  Timed.update fun s =>
    { s.noting time (.unsigned request s.nextId) s.world with nextId := s.nextId + 1 }

def nextId : Timed (State κ) Nat := fun _ m => (some m.state.nextId, m)

def head (c : RelayClient κ) : Service (State κ) (Except TransportError UInt64) := fun time s =>
  let (reply, world) := c.chain.blockNumber time s.world
  (reply, s.noting time (.askedHead reply) world)

def receipt (c : RelayClient κ) (txHash : Digest) :
    Service (State κ) (Except TransportError (Option UInt64)) := fun time s =>
  let (reply, world) := c.chain.inclusionBlock txHash time s.world
  (reply, s.noting time (.askedReceipt txHash reply) world)

def pause (delay : Nat) : Timed (State κ) Unit := do
  let time ← Timed.now
  Timed.update fun s => s.noting time (.paused delay) s.world
  Timed.sleep delay

/-! ## Requests -/

def call (c : RelayClient κ) (request : RelayRequest) (read : Json → Option α) :
    Timed (State κ) (Except TransportError α) := do
  match SignedRequest.sign? c.key (request.body (← nextId)) with
  | none =>
    drop request
    return .error (.signing "no signature")
  | some signed =>
    match ← Timed.call (c.send request signed) with
    | .error reason => return .error (.http reason)
    | .ok response => return RelayResponse.decide request.method read response

def updateFeeRefund (c : RelayClient κ) (receiver : Address) :
    Timed (State κ) (Except TransportError Unit) :=
  c.call (.setFeeRefundRecipient c.key.address receiver) acknowledgement?

/-- What the results of a simulation mean for a bundle: there has to be one for each transaction. -/
def judge (bundle : Bundle) (simulation : Simulation) :
    Except TransportError (Simulation × Bool) :=
  let n := simulation.results.length
  if n = bundle.size then .ok (simulation, simulation.allOk)
  else .error (.malformedResponse
    s!"eth_callBundle returned {n} results for {bundle.size} transactions")

/-- Has a bundle run in the block that is `offset` past the next one. -/
def simulate (c : RelayClient κ) (bundle : Bundle) (offset : UInt64) :
    Timed (State κ) (Except TransportError (Simulation × Bool)) := do
  match ← Timed.call c.head with
  | .error e => return .error e
  | .ok head =>
    let request := .callBundle bundle.encodings (head + 1 + offset)
    match ← c.call request Simulation.ofResult? with
    | .error e => return .error e
    | .ok simulation => return judge bundle simulation

def submit (c : RelayClient κ) (bundle : Bundle) (block : UInt64) :
    Timed (State κ) (Except TransportError Digest) :=
  c.call (.sendBundle bundle.encodings block bundle.builders) submissionHash?

/-! ## Waiting -/

/-- The length of a pause, with `left` until the deadline.  An interval of zero counts as one
millisecond: taken at its word it would have the client look again and again without a pause, in no
time at all.  Settings that pass their checks have none. -/
def pauseLength (c : RelayClient κ) (left : Nat) : Nat :=
  max 1 (min c.pollIntervalMs left)

/-- A pause takes time. -/
theorem pauseLength_pos (c : RelayClient κ) (left : Nat) : 0 < c.pauseLength left := by
  unfold pauseLength; omega

/-- No pause outlasts the deadline. -/
theorem pauseLength_le (c : RelayClient κ) {left : Nat} (h : left ≠ 0) :
    c.pauseLength left ≤ left := by
  unfold pauseLength; omega

/-- Waits until a transaction is mined or the chain has reached a block, and says whether the
transaction was mined. `left` is at least the time until the deadline. -/
def awaitBlock (c : RelayClient κ) (block : UInt64) (txHash : Digest) (deadline left : Nat) :
    Timed (State κ) (Except TransportError Bool) := do
  match ← Timed.call (c.receipt txHash) with
  | .error e => return .error e
  | .ok (some _) => return .ok true
  | .ok none =>
    match ← Timed.call c.head with
    | .error e => return .error e
    | .ok head =>
      if block ≤ head then return .ok false
      else
        let now ← Timed.now
        let remaining := min left (deadline - now)
        if _h : remaining = 0 then return .ok false
        else
          pause (c.pauseLength remaining)
          awaitBlock c block txHash deadline (remaining - c.pauseLength remaining)
termination_by left
decreasing_by
  have := c.pauseLength_pos (min left (deadline - now))
  omega

def lastLook (c : RelayClient κ) (txHash : Digest) :
    Timed (State κ) (Except TransportError Bool) := do
  match ← Timed.call (c.receipt txHash) with
  | .error e => return .error e
  | .ok block => return .ok block.isSome

/-- Submits a bundle for `rounds` blocks in a row, as long as there is time, and waits for each. -/
def sendRounds (c : RelayClient κ) (bundle : Bundle) (deadline : Nat) : (rounds : Nat) →
    (block : UInt64) → Timed (State κ) (Except TransportError Bool)
  | 0, _ => c.lastLook bundle.last.hash
  | rounds + 1, block => do
    let now ← Timed.now
    if deadline ≤ now then c.lastLook bundle.last.hash
    else
      match ← c.submit bundle block with
      | .error e => return .error e
      | .ok _ =>
        let now ← Timed.now
        match ← c.awaitBlock block bundle.last.hash deadline (deadline - now) with
        | .error e => return .error e
        | .ok true => return .ok true
        | .ok false => sendRounds c bundle deadline rounds (block + 1)

def sendAndAwait (c : RelayClient κ) (bundle : Bundle) (rounds : UInt32) (deadline : Nat) :
    Timed (State κ) (Except TransportError Bool) :=
  match bundle.targetBlock with
  | none => return .error (.invalidRequest "bundle has no target block")
  | some first => c.sendRounds bundle deadline rounds.toNat first

def relay (c : RelayClient κ) : Relay (State κ) where
  updateFeeRefund := c.updateFeeRefund
  simulate := c.simulate
  sendAndAwait := c.sendAndAwait

end RelayClient
end ArbBundle
