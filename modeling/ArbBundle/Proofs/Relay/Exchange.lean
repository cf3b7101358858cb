import ArbBundle.Proofs.Timed
import ArbBundle.Relay.Client

/-!
# Exchange — what a single exchange with relay or chain comes to

- `Exchange.delay?`, `Exchange.failure?`, `Exchange.posting?`, `Exchange.Sights`: how long it takes,
  the error it ends with, the request it sends, and whether it finds a transaction mined
- `Exchange.verdict?`: what it decides about a wait, if it decides anything
- `Exchange.Passes`, `Exchange.Stops`: under a limit, the wait goes on behind it, or ends with it
- `RelayClient.Extends`: the log that a computation leaves behind
- one lemma for each elementary exchange of a client, which puts it into these terms
-/

namespace ArbBundle

open Timed

/-- The error of a result, where it is one. -/
def TransportError.ofResult? {α : Type} : Except TransportError α → Option TransportError
  | .error e => some e
  | .ok _ => none

/-- The error in an answer to a request, as the result of the request is read. -/
def RelayRequest.fault? (request : RelayRequest) (response : HttpResponse) :
    Option TransportError :=
  match request with
  | .setFeeRefundRecipient _ _ =>
    TransportError.ofResult? (RelayResponse.decide request.method acknowledgement? response)
  | .callBundle _ _ =>
    TransportError.ofResult? (RelayResponse.decide request.method Simulation.ofResult? response)
  | .sendBundle _ _ _ =>
    TransportError.ofResult? (RelayResponse.decide request.method submissionHash? response)

namespace Exchange

variable {κ : Type}

def delay? : Exchange → Option Nat
  | .posted _ _ _ reply => reply.delay?
  | .unsigned _ _ => some 0
  | .askedHead reply => reply.delay?
  | .askedReceipt _ reply => reply.delay?
  | .paused delay => some delay

def failure? : Exchange → Option TransportError
  | .posted _ _ _ (.after _ (.error reason)) => some (.http reason)
  | .posted request _ _ (.after _ (.ok response)) => request.fault? response
  | .unsigned _ _ => some (.signing "no signature")
  | .askedHead (.after _ (.error e)) => some e
  | .askedReceipt _ (.after _ (.error e)) => some e
  | _ => none

/-- The request that an exchange puts on the wire, and its number. -/
def posting? : Exchange → Option (RelayRequest × Nat)
  | .posted request id _ _ => some (request, id)
  | _ => none

/-- The exchange finds a transaction mined. -/
def Sights (txHash : Digest) (e : Exchange) : Prop :=
  ∃ delay block, e = .askedReceipt txHash (.after delay (.ok (some block)))

/-- What an exchange that has ended decides about the wait that it belongs to. -/
def verdict? : Exchange → Option (Except TransportError Bool)
  | .askedReceipt _ (.after _ (.ok (some _))) => some (.ok true)
  | e => e.failure?.map .error

/-- An exchange decides for an error just where it ends with it. -/
theorem verdict?_eq_error_iff {e : Exchange} {error : TransportError} :
    e.verdict? = some (.error error) ↔ e.failure? = some error := by
  unfold verdict?
  split
  · simp [failure?]
  · simp

/-- No single exchange decides that a transaction stays out: this takes the last look of a
course. -/
theorem verdict?_ne_false (e : Exchange) : e.verdict? ≠ some (.ok false) := by
  unfold verdict?
  split <;> simp

/-- The exchange is what comes of it when a client turns to its services at a moment: the reply is
the one that they give then, and they are left in the state `world`. -/
inductive Happens (c : RelayClient κ) (m : Moment κ) : Exchange → κ → Prop where
  | posted {request : RelayRequest} {id : Nat} {signed : SignedRequest}
      {reply : Reply (Except String HttpResponse)} {world : κ} :
      SignedRequest.sign? c.key (request.body id) = some signed →
      c.post signed m.now m.state = (reply, world) →
      Happens c m (.posted request id signed reply) world
  | unsigned {request : RelayRequest} {id : Nat} {world : κ} :
      SignedRequest.sign? c.key (request.body id) = none → world = m.state →
      Happens c m (.unsigned request id) world
  | askedHead {reply : Reply (Except TransportError UInt64)} {world : κ} :
      c.chain.blockNumber m.now m.state = (reply, world) → Happens c m (.askedHead reply) world
  | askedReceipt {txHash : Digest} {reply : Reply (Except TransportError (Option UInt64))}
      {world : κ} :
      c.chain.inclusionBlock txHash m.now m.state = (reply, world) →
      Happens c m (.askedReceipt txHash reply) world
  | paused {delay : Nat} {world : κ} : world = m.state → Happens c m (.paused delay) world

/-- The exchange ends in time, and the wait goes on behind it. -/
structure Passes (c : RelayClient κ) (limit : Option Nat) (start : Moment κ) (e : Exchange)
    (stop : Moment κ) : Prop where
  happens : e.Happens c start stop.state
  in_time : ∃ delay, e.delay? = some delay ∧ Arrives limit start.now delay ∧
    stop.now = start.now + delay
  undecided : e.verdict? = none

theorem Passes.start_le {c : RelayClient κ} {limit : Option Nat} {start stop : Moment κ}
    {e : Exchange} (h : Passes c limit start e stop) : start.now ≤ stop.now := by
  obtain ⟨delay, -, -, hstop⟩ := h.in_time
  omega

/-- The wait ends with the exchange: it decides the wait in time, or it is cut off. -/
inductive Stops (c : RelayClient κ) (limit : Option Nat) (start : Moment κ) (e : Exchange) :
    Option (Except TransportError Bool) → Moment κ → Prop where
  | decided {delay : Nat} {stop : Moment κ} {result : Except TransportError Bool} :
      e.Happens c start stop.state → e.delay? = some delay → Arrives limit start.now delay →
      e.verdict? = some result → stop.now = start.now + delay →
      Stops c limit start e (some result) stop
  | cut {stop : Moment κ} : e.Happens c start stop.state →
      (∀ delay ∈ e.delay?, ¬ Arrives limit start.now delay) → stop.now = start.now →
      Stops c limit start e none stop

theorem Stops.happens {c : RelayClient κ} {limit : Option Nat} {start stop : Moment κ}
    {e : Exchange} {result : Option (Except TransportError Bool)}
    (h : Stops c limit start e result stop) : e.Happens c start stop.state := by
  cases h with
  | decided hh _ _ _ _ =>
      exact hh
  | cut hh _ _ =>
      exact hh

theorem Stops.ne_missed {c : RelayClient κ} {limit : Option Nat} {start stop : Moment κ}
    {e : Exchange} {result : Option (Except TransportError Bool)}
    (h : Stops c limit start e result stop) : result ≠ some (.ok false) := by
  rintro rfl
  cases h with
  | decided _ _ _ hv _ =>
      exact verdict?_ne_false e hv

end Exchange

namespace RelayClient

variable {κ α : Type} {c : RelayClient κ} {limit : Option Nat} {m m₁ m₂ : Moment (State κ)}

/-! ## Logs -/

/-- Exchanges and the moments at which they began, the first one first. -/
abbrev Log (κ : Type) := List (Moment κ × Exchange)

/-- What a client notes of a log. -/
def Log.noted (log : Log κ) : List (Nat × Exchange) :=
  log.map fun x => (x.1.now, x.2)

/-- A moment of the services around a client. -/
def around (m : Moment (State κ)) : Moment κ :=
  ⟨m.state.world, m.now⟩

/-- A computation added a log to what was done before, and used up the numbers of some requests. -/
structure Extends (m m' : Moment (State κ)) (log : Log κ) (requests : Nat) : Prop where
  exchanges : m'.state.exchanges = log.noted.reverse ++ m.state.exchanges
  nextId : m'.state.nextId = m.state.nextId + requests

/-- What two steps have added, they have added as one. -/
theorem Extends.trans {log log' : Log κ} {n n' : Nat} (h : Extends m m₁ log n)
    (h' : Extends m₁ m₂ log' n') : Extends m m₂ (log ++ log') (n + n') := by
  refine ⟨?_, ?_⟩
  · rw [h'.exchanges, h.exchanges, ← List.append_assoc, ← List.reverse_append, Log.noted, Log.noted,
      ← List.map_append, Log.noted]
  · rw [h'.nextId, h.nextId, Nat.add_assoc]

/-! ## Elementary exchanges -/

/-- A question to the services around a client is one exchange: it is answered as they answer it,
and leaves them as they are left by it. -/
theorem exchange_comes {service : Service (State κ) α} (base : Service κ α)
    (mk : Reply α → Exchange) (requests : Nat) {result : Option α}
    (hservice : service m.now m.state = ((base m.now m.state.world).1,
      { m.state.noting m.now (mk (base m.now m.state.world).1) (base m.now m.state.world).2 with
        nextId := m.state.nextId + requests }))
    (h : Timed.call service limit m = (result, m₁)) :
    ∃ reply, base m.now m.state.world = (reply, m₁.state.world) ∧
      Extends m m₁ [(around m, mk reply)] requests ∧ Comes limit m.now reply result m₁.now := by
  obtain ⟨hcomes, hstate⟩ := call_comes service limit m
  rw [h, hservice] at hcomes hstate
  refine ⟨_, ?_, ⟨?_, ?_⟩, hcomes⟩
  · rw [hstate]
    rfl
  · rw [hstate]
    rfl
  · rw [hstate]

/-- A look at a receipt is one exchange, and comes out as the chain replies to it. -/
theorem receipt_comes {txHash : Digest} {result : Option (Except TransportError (Option UInt64))}
    (h : Timed.call (c.receipt txHash) limit m = (result, m₁)) :
    ∃ reply, Exchange.Happens c (around m) (.askedReceipt txHash reply) m₁.state.world ∧
      Extends m m₁ [(around m, .askedReceipt txHash reply)] 0 ∧
      Comes limit m.now reply result m₁.now := by
  obtain ⟨reply, hbase, hrest⟩ :=
    exchange_comes (c.chain.inclusionBlock txHash) (.askedReceipt txHash) 0 rfl h
  exact ⟨reply, .askedReceipt hbase, hrest⟩

/-- A look at the newest block is one exchange, and comes out as the chain replies to it. -/
theorem head_comes {result : Option (Except TransportError UInt64)}
    (h : Timed.call c.head limit m = (result, m₁)) :
    ∃ reply, Exchange.Happens c (around m) (.askedHead reply) m₁.state.world ∧
      Extends m m₁ [(around m, .askedHead reply)] 0 ∧ Comes limit m.now reply result m₁.now := by
  obtain ⟨reply, hbase, hrest⟩ := exchange_comes c.chain.blockNumber .askedHead 0 rfl h
  exact ⟨reply, .askedHead hbase, hrest⟩

/-- A pause that ends in time is one exchange. -/
theorem pause_of_arrives {delay : Nat} (h : Arrives limit m.now delay) :
    ∃ m₁, pause delay limit m = (some (), m₁) ∧ m₁.now = m.now + delay ∧
      Exchange.Happens c (around m) (.paused delay) m₁.state.world ∧
      Extends m m₁ [(around m, .paused delay)] 0 :=
  ⟨_, sleep_of_arrives (m := ⟨m.state.noting m.now (.paused delay) m.state.world, m.now⟩) h, rfl,
    .paused rfl, rfl, rfl⟩

/-- A pause that is cut off is an exchange as well, and takes no time. -/
theorem pause_of_not_arrives {delay : Nat} (h : ¬ Arrives limit m.now delay) :
    ∃ m₁, pause delay limit m = (none, m₁) ∧ m₁.now = m.now ∧
      Exchange.Happens c (around m) (.paused delay) m₁.state.world ∧
      Extends m m₁ [(around m, .paused delay)] 0 :=
  ⟨_, sleep_of_not_arrives
    (m := ⟨m.state.noting m.now (.paused delay) m.state.world, m.now⟩) h, rfl, .paused rfl, rfl,
    rfl⟩

/-! ## Requests -/

/-- The exchange is an attempt to make a request under a number. -/
inductive Attempts (request : RelayRequest) (id : Nat) : Exchange → Prop where
  | posted (signed : SignedRequest) (reply : Reply (Except String HttpResponse)) :
      Attempts request id (.posted request id signed reply)
  | unsigned : Attempts request id (.unsigned request id)

/-- How a request comes out, given the exchange that it is. -/
inductive Concludes (c : RelayClient κ) (limit : Option Nat) (start : Moment κ) (e : Exchange)
    (stop : Moment κ) : Option (Except TransportError α) → Prop where
  | read (a : α) : e.Passes c limit start stop → Concludes c limit start e stop (some (.ok a))
  | failed {error : TransportError} : e.Stops c limit start (some (.error error)) stop →
      Concludes c limit start e stop (some (.error error))
  | cut : e.Stops c limit start none stop → Concludes c limit start e stop none

theorem Concludes.happens {start stop : Moment κ} {e : Exchange}
    {result : Option (Except TransportError α)} (h : Concludes c limit start e stop result) :
    e.Happens c start stop.state := by
  cases h with
  | read _ hpass =>
      exact hpass.happens
  | failed hstop =>
      exact hstop.happens
  | cut hstop =>
      exact hstop.happens

/-- A signed request is one exchange under the next number, and comes out as the relay replies to
it. -/
theorem send_comes {request : RelayRequest} {signed : SignedRequest}
    {result : Option (Except String HttpResponse)}
    (hs : SignedRequest.sign? c.key (request.body m.state.nextId) = some signed)
    (h : Timed.call (c.send request signed) limit m = (result, m₁)) :
    ∃ reply, Exchange.Happens c (around m) (.posted request m.state.nextId signed reply)
        m₁.state.world ∧
      Extends m m₁ [(around m, .posted request m.state.nextId signed reply)] 1 ∧
      Comes limit m.now reply result m₁.now := by
  obtain ⟨reply, hbase, hrest⟩ :=
    exchange_comes (c.post signed) (.posted request m.state.nextId signed) 1 rfl h
  exact ⟨reply, .posted hs hbase, hrest⟩

/-- A request is one exchange under the next number, and its result is what the exchange comes
to. -/
theorem call_concludes {request : RelayRequest} {read : Json → Option α}
    {result : Option (Except TransportError α)}
    (h : c.call request read limit m = (result, m₂))
    (hread : ∀ response, request.fault? response =
      TransportError.ofResult? (RelayResponse.decide request.method read response)) :
    ∃ e, Attempts request m.state.nextId e ∧ Extends m m₂ [(around m, e)] 1 ∧
      Concludes c limit (around m) e (around m₂) result := by
  unfold call at h
  rw [bind_of_some (rfl : nextId limit m = (some m.state.nextId, m))] at h
  cases hs : SignedRequest.sign? c.key (request.body m.state.nextId) with
  | none =>
      -- Nothing is sent, but the number is used up, and the request has failed at once.
      simp only [hs] at h
      cases h
      exact ⟨.unsigned request m.state.nextId, .unsigned, ⟨rfl, rfl⟩,
        .failed (.decided (.unsigned hs rfl) rfl (Or.inl rfl) rfl rfl)⟩
  | some signed =>
      simp only [hs] at h
      rcases hr : Timed.call (c.send request signed) limit m with ⟨answer, m₁⟩
      obtain ⟨reply, hg, hx, hc⟩ := send_comes hs hr
      refine ⟨.posted request m.state.nextId signed reply, .posted signed reply, ?_⟩
      cases hc with
      | cut hcut hnow =>
          rw [bind_of_none hr] at h
          cases h
          exact ⟨hx, .cut (.cut hg hcut hnow)⟩
      | answered ha hnow =>
          rename_i delay answer
          rw [bind_of_some hr] at h
          rcases answer with reason | response
          · cases h
            exact ⟨hx, .failed (.decided hg rfl ha rfl hnow)⟩
          · -- The answer fails the request exactly where it is read as an error.
            have hf := hread response
            cases h
            refine ⟨hx, ?_⟩
            cases hd : RelayResponse.decide request.method read response with
            | error e =>
                rw [hd] at hf
                exact .failed (.decided hg rfl ha (Exchange.verdict?_eq_error_iff.2 hf) hnow)
            | ok a =>
                rw [hd] at hf
                exact .read a ⟨hg, ⟨delay, rfl, ha, hnow⟩, congrArg (Option.map Except.error) hf⟩

end RelayClient
end ArbBundle
