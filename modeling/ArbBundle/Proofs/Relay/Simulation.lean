import ArbBundle.Proofs.Evaluation
import ArbBundle.Proofs.Execution.Calls
import ArbBundle.Proofs.Relay.Submissions

/-!
# Simulation — what becomes of a relay's answer to a simulation

A relay answers with one result for each transaction that it was given, and each result becomes the
outcome of the transaction at its place.  An answer with more or fewer results is refused, and the
verdict of an answer that is not refused is the one that its outcomes give.

- `CallResult`, `CallReply`: the answer as the relay gives it
- `CallReply.Says`: a simulation and a verdict are what an answer says, place by place
- `RelayResponse.decide_map`: results may be made into something before or after they are read
- `Inquiry.ofText?`: what a text on the wire asks a relay to run
- `RelayClient.simulate_judged`: a simulation comes to what the judge says of the reply
- `RelayClient.simulates_in_place`: simulations, the verdicts on them, and the runs that they end
-/

namespace ArbBundle

open Timed

/-! ## Answers -/

/-- What a relay says of one transaction that it has run. -/
structure CallResult where
  txHash : Digest
  gasUsed : UInt64
  error : Option String
  revert : Option String
  deriving DecidableEq

namespace CallResult

def ofJson? (j : Json) : Option CallResult := do
  let r ← Json.Record.ofJson? ["txHash", "gasUsed", "error", "revert"] j
  return {
    txHash := ← (r.slot "txHash").required Json.fixed?
    gasUsed := ← (r.slot "gasUsed").withDefault 0 Json.uint64?
    error := ← (r.slot "error").withDefault none (Json.nullable? Json.text?)
    revert := ← (r.slot "revert").withDefault none (Json.nullable? Json.text?) }

def outcome (r : CallResult) : TxOutcome :=
  ⟨r.txHash, r.gasUsed, r.error, (r.revert.map fun t => Text.utf8 t.toList).getD []⟩

/-- A result is read as its outcome. -/
theorem ofResult?_eq (j : Json) : TxOutcome.ofResult? j = (ofJson? j).map outcome := by
  unfold TxOutcome.ofResult? ofJson?
  cases Json.Record.ofJson? ["txHash", "gasUsed", "error", "revert"] j with
  | none =>
      rfl
  | some r =>
      -- In whatever order the fields are read, the result is there if and only if all of them are.
      dsimp only [Option.bind_eq_bind, Option.bind_some]
      cases (r.slot "txHash").required (Json.fixed? (n := 32)) <;>
        cases (r.slot "gasUsed").withDefault 0 Json.uint64? <;>
        cases (r.slot "error").withDefault none (Json.nullable? Json.text?) <;>
        cases (r.slot "revert").withDefault none (Json.nullable? Json.text?) <;> rfl

end CallResult

structure CallReply where
  bundleHash : Digest
  results : List CallResult
  deriving DecidableEq

namespace CallReply

def ofJson? (j : Json) : Option CallReply := do
  let r ← Json.Record.ofJson? ["bundleHash", "results"] j
  return {
    bundleHash := ← (r.slot "bundleHash").required Json.fixed?
    results := ← (r.slot "results").required (Json.list? CallResult.ofJson?) }

def simulation (r : CallReply) : Simulation :=
  ⟨r.bundleHash, r.results.map CallResult.outcome⟩

/-- A list may be read as it stands, and its elements be made into something later. -/
theorem list?_map {α β : Type} (read : Json → Option α) (f : α → β) (j : Json) :
    Json.list? (fun j => (read j).map f) j = (Json.list? read j).map (List.map f) := by
  unfold Json.list?
  cases j with
  | arr es =>
      induction es with
      | nil =>
          rfl
      | cons e es ih =>
          simp only [List.mapM_cons] at ih ⊢
          rw [ih]
          cases read e <;> cases es.mapM read <;> rfl
  | _ => rfl

/-- An answer is read as the simulation that it tells of. -/
theorem ofResult?_eq (j : Json) : Simulation.ofResult? j = (ofJson? j).map simulation := by
  have hresults : TxOutcome.ofResult? = fun j => (CallResult.ofJson? j).map CallResult.outcome :=
    funext CallResult.ofResult?_eq
  unfold Simulation.ofResult? ofJson?
  cases Json.Record.ofJson? ["bundleHash", "results"] j with
  | none =>
      rfl
  | some r =>
      have hlist : (r.slot "results").required (Json.list? TxOutcome.ofResult?) =
          ((r.slot "results").required (Json.list? CallResult.ofJson?)).map
            (List.map CallResult.outcome) := by
        cases r.slot "results" with
        | given v =>
            exact hresults ▸ list?_map CallResult.ofJson? CallResult.outcome v
        | omitted =>
            rfl
        | cut =>
            rfl
      dsimp only [Option.bind_eq_bind, Option.bind_some]
      rw [hlist]
      cases (r.slot "bundleHash").required (Json.fixed? (n := 32)) <;>
        cases (r.slot "results").required (Json.list? CallResult.ofJson?) <;> rfl

/-- The simulation and the verdict are what the reply says: each result is the outcome at its place,
its revert text taken by its bytes, and the verdict is that no result has an error. -/
structure Says (r : CallReply) (s : Simulation) (verdict : Bool) : Prop where
  bundleHash : s.bundleHash = r.bundleHash
  length : s.results.length = r.results.length
  outcome (i : Nat) (row : CallResult) : r.results[i]? = some row →
    ∃ o : TxOutcome, s.results[i]? = some o ∧
      o.txHash = row.txHash ∧ o.gasUsed = row.gasUsed ∧ o.error = row.error ∧
      o.revert = (row.revert.map fun t => Text.utf8 t.toList).getD []
  verdict : verdict = true ↔ ∀ row ∈ r.results, ∀ e ∈ row.error, e = ""

theorem says_simulation (r : CallReply) : r.Says r.simulation r.simulation.allOk where
  bundleHash := rfl
  length := List.length_map CallResult.outcome
  outcome i row hrow := by
    refine ⟨row.outcome, ?_, rfl, rfl, rfl, rfl⟩
    rw [simulation, List.getElem?_map, hrow, Option.map_some]
  verdict := by
    rw [Simulation.allOk_iff]
    exact List.forall_mem_map

/-- How a reply is refused that has more or fewer results than a bundle has transactions. -/
def refusal (r : CallReply) (bundle : Bundle) : TransportError :=
  .malformedResponse
    s!"eth_callBundle returned {r.results.length} results for {bundle.size} transactions"

end CallReply

theorem optional_map {α β : Type} (read : Json → Option α) (f : α → β) (slot : Json.Slot) :
    slot.optional (fun j => (read j).map f) = (slot.optional read).map (Option.map f) := by
  cases slot with
  | given v =>
      cases v with
      | null =>
          rfl
      | _ =>
          simp only [Json.Slot.optional, Option.map_map]
          rfl
  | omitted =>
      rfl
  | cut =>
      rfl

/-- It makes no difference whether something is made of a result before or after its envelope is
opened. -/
theorem RelayResponse.decide_map {α β : Type} (method : String) (read : Json → Option α) (f : α → β)
    (response : HttpResponse) :
    decide method (fun j => (read j).map f) response = (decide method read response).map f := by
  have henvelope (j : Json) : ofJson? (fun j => (read j).map f) j =
      (ofJson? read j).map fun r => ⟨r.result.map f, r.error⟩ := by
    unfold ofJson?
    cases Json.Record.ofJson? ["result", "error"] j with
    | none =>
        rfl
    | some r =>
        dsimp only [Option.bind_eq_bind, Option.bind_some]
        rw [optional_map]
        cases (r.slot "result").optional read <;>
          cases (r.slot "error").optional RelayFault.ofJson? <;> rfl
  unfold decide
  cases Json.ofText? (String.ofList (Text.lossy response.body)) with
  | none =>
      rfl
  | some j =>
      -- What the envelope holds decides in the same way about the result and what is made of it.
      rw [Option.bind_some, Option.bind_some, henvelope]
      rcases ofJson? read j with _ | ⟨_ | a, _ | fault⟩ <;> rfl

/-- A simulation is what its answer tells of. -/
theorem decide_ofResult?_eq_ok_iff {method : String} {response : HttpResponse} {s : Simulation} :
    RelayResponse.decide method Simulation.ofResult? response = .ok s ↔
      ∃ reply, RelayResponse.decide method CallReply.ofJson? response = .ok reply ∧
        reply.simulation = s := by
  rw [funext CallReply.ofResult?_eq, RelayResponse.decide_map]
  cases RelayResponse.decide method CallReply.ofJson? response with
  | error e =>
      exact ⟨nofun, nofun⟩
  | ok reply =>
      simp [Except.map]

/-! ## Questions on the wire -/

/-- What a relay is asked to run, and where. -/
structure Inquiry where
  transactions : List Bytes
  block : String
  deriving DecidableEq

namespace Inquiry

def ofParams? (params : Json) : Option Inquiry := do
  let [p] ← params.elements? | none
  let transactions ← (p.member? "txs").bind (Json.list? Json.bytes?)
  let block ← (p.member? "blockNumber").bind Json.text?
  return ⟨transactions, block⟩

/-- The inquiry that a text makes, if it makes one. -/
def ofText? (s : String) : Option Inquiry := do
  let request ← Json.ofText? s
  let method ← (request.member? "method").bind Json.text?
  if method = "eth_callBundle" then (request.member? "params").bind ofParams? else none

end Inquiry

namespace RelayRequest

variable {transactions : List Bytes} {block : UInt64}

/-- The parameters of a request to run transactions are data. -/
theorem written_callBundle : Json.Written (callBundle transactions block).params := by
  have htxs : Json.Written (transactionTexts transactions) :=
    Json.restores_bytes.list.written transactions
  refine .arr (List.forall_mem_singleton.2 (.object ?_))
  simp [htxs, written_blockText, Json.Written.text]

/-- The parameters of a simulation are read back. -/
theorem inquiry_of_params :
    Inquiry.ofParams? (callBundle transactions block).params =
      some ⟨transactions, Hex.quantity block.toNat⟩ := by
  have htxs : Json.list? Json.bytes? (transactionTexts transactions) = some transactions :=
    Json.restores_bytes.list.read transactions
  simp [params, Inquiry.ofParams?, Json.elements?, Json.member?, Json.object, List.lookup_cons,
    htxs, text?_blockText]

/-- The text of a request to run transactions is read as the inquiry. -/
theorem inquiry_of_body (id : Nat) :
    Inquiry.ofText? ((callBundle transactions block).body id) =
      some ⟨transactions, Hex.quantity block.toNat⟩ := by
  rw [Inquiry.ofText?, ofText?_body written_callBundle]
  simp [method, inquiry_of_params, Json.text, Json.text?]

end RelayRequest

/-- The exchange has some transactions run, and its answer is read as the reply. -/
def Exchange.Replies (transactions : List Bytes) (reply : CallReply) (e : Exchange) : Prop :=
  ∃ block id signed delay response,
    e = .posted (.callBundle transactions block) id signed (.after delay (.ok response)) ∧
    RelayResponse.decide "eth_callBundle" CallReply.ofJson? response = .ok reply

namespace RelayClient

variable {κ α : Type} {c : RelayClient κ} {limit : Option Nat} {m m' : Moment (State κ)}

/-! ## Simulations -/

/-- The last thing that was done was to have some transactions run, and the reply came in time. -/
def Replied (limit : Option Nat) (transactions : List Bytes) (reply : CallReply)
    (stop : Moment (State κ)) : Prop :=
  ∃ time e before, stop.state.exchanges = (time, e) :: before ∧
    e.Replies transactions reply ∧ e.Ends limit time

variable {bundle : Bundle} {offset head : UInt64} {m₁ : Moment (State κ)} {reply : CallReply}

/-- A chain that answers in time is asked once, and the clock is put forward to its answer. -/
theorem call_head_of_arrives {delay : Nat} {answer : Except TransportError UInt64} {world : κ}
    (hchain : c.chain.blockNumber m.now m.state.world = (.after delay answer, world))
    (harrives : Arrives limit m.now delay) :
    Timed.call c.head limit m = (some answer,
      ⟨m.state.noting m.now (.askedHead (.after delay answer)) world, m.now + delay⟩) := by
  have hserved : c.head m.now m.state =
      (.after delay answer, m.state.noting m.now (.askedHead (.after delay answer)) world) := by
    rw [RelayClient.head, hchain]
  exact call_of_arrives hserved harrives

/-- The block that is asked for lies the offset past the one behind the head. -/
theorem simulate_asks {delay : Nat} {world : κ}
    (hchain : c.chain.blockNumber m.now m.state.world = (.after delay (.ok head), world))
    (harrives : Arrives limit m.now delay)
    (hblock : head.toNat + 1 + offset.toNat < UInt64.size) :
    ∃ e block, (c.simulate bundle offset limit m).2.state.exchanges =
        (m.now + delay, e) :: (m.now, .askedHead (.after delay (.ok head))) :: m.state.exchanges ∧
      Attempts (.callBundle bundle.encodings block) m.state.nextId e ∧
      block.toNat = head.toNat + 1 + offset.toNat ∧
      ∀ signed ∈ e.signed?, ∃ text,
        Inquiry.ofText? signed.body = some ⟨bundle.encodings, text⟩ ∧
        Hex.Minimal text block.toNat := by
  have hh := call_head_of_arrives hchain harrives
  rcases hc : c.call (.callBundle bundle.encodings (head + 1 + offset)) Simulation.ofResult? limit
    ⟨m.state.noting m.now (.askedHead (.after delay (.ok head))) world, m.now + delay⟩
    with ⟨called, m'⟩
  obtain ⟨e, hx, hattempt, hhonest, -⟩ := call_answer hc
  rw [simulate_of_head hh hc]
  refine ⟨e, head + 1 + offset, hx, hattempt, ?_, fun signed hsigned => ?_⟩
  · -- Neither sum wraps around.
    have hnext : head.toNat + (0 + 1) < UInt64.size := by omega
    rw [UInt64.toNat_add, toNat_next hnext]
    exact Nat.mod_eq_of_lt hblock
  · -- What is on the wire is the text of the request, and no other one.
    cases hattempt with
    | posted signed' reply =>
        obtain rfl := Option.some.inj hsigned
        have hbody : signed'.body = RelayRequest.body _ _ := Option.some.inj hhonest
        rw [hbody]
        exact ⟨_, RelayRequest.inquiry_of_body _, Hex.minimal_quantity _⟩
    | unsigned =>
        cases hsigned

/-- A simulation comes to what the judge says of the reply, where there is one in time. -/
theorem simulate_judged {result : Option (Except TransportError (Simulation × Bool))}
    (h : c.simulate bundle offset limit m = (result, m')) :
    (∀ v, result = some (.ok v) → ∃ reply, Replied limit bundle.encodings reply m' ∧
      judge bundle reply.simulation = .ok v) ∧
    ∀ reply, Replied limit bundle.encodings reply m' →
      result = some (judge bundle reply.simulation) := by
  -- Nothing has been replied as long as the head was only asked for.
  have hhead {m₁ : Moment (State κ)} {answer : Option (Except TransportError UInt64)}
      (hh : Timed.call c.head limit m = (answer, m₁)) (reply : CallReply) :
      ¬ Replied limit bundle.encodings reply m₁ := by
    rintro ⟨time, e, before, hx, ⟨_, _, _, _, _, rfl, -⟩, -⟩
    obtain ⟨asked, -, hextends, -⟩ := head_comes hh
    cases hextends.exchanges.symm.trans hx
  rcases hh : Timed.call c.head limit m with ⟨_ | e | head, m₁⟩
  · rw [simulate, bind_of_none hh] at h
    cases h
    refine ⟨fun v hv => ?_, fun reply hreplied => absurd hreplied (hhead hh reply)⟩
    cases hv
  · rw [simulate, bind_of_some hh] at h
    cases h
    refine ⟨fun v hv => ?_, fun reply hreplied => absurd hreplied (hhead hh reply)⟩
    cases hv
  -- The head is known, and what is read of the answer to the request goes to the judge.
  rcases hc : c.call (.callBundle bundle.encodings (head + 1 + offset)) Simulation.ofResult?
    limit m₁ with ⟨called, m₂⟩
  rw [simulate_of_head hh hc] at h
  obtain ⟨rfl, rfl⟩ := Prod.mk.inj h
  obtain ⟨e, hx, hattempt, -, hread⟩ := call_answer hc
  constructor
  · intro v hv
    rcases called with _ | _ | simulation
    · cases hv
    · cases hv
    · obtain ⟨hends, signed, delay, response, rfl, hd⟩ := (hread simulation).1 rfl
      obtain ⟨reply, hreply, rfl⟩ := decide_ofResult?_eq_ok_iff.1 hd
      exact ⟨reply, ⟨_, _, _, hx, ⟨_, _, signed, delay, response, rfl, hreply⟩, hends⟩,
        Option.some.inj hv⟩
  · rintro reply ⟨time, e', before, hlast, ⟨block, id, signed, delay, response, rfl, hreply⟩, hends⟩
    obtain ⟨hsame, -⟩ := List.cons.inj (hx.symm.trans hlast)
    cases hsame
    -- What was put on the wire is the request that was made.
    cases hattempt
    rw [(hread reply.simulation).2 ⟨hends, _, _, _, rfl,
      decide_ofResult?_eq_ok_iff.2 ⟨reply, hreply, rfl⟩⟩]
    rfl

/-- The judge lets a reply with one result for each transaction pass, and refuses any other one. -/
theorem judge_of_aligned (h : reply.results.length = bundle.size) :
    judge bundle reply.simulation = .ok (reply.simulation, reply.simulation.allOk) :=
  if_pos (reply.says_simulation.length.trans h)

/-- A simulation with too many or too few results is refused. -/
theorem judge_of_misaligned (h : reply.results.length ≠ bundle.size) :
    judge bundle reply.simulation = .error (reply.refusal bundle) := by
  have hlength := reply.says_simulation.length
  rw [judge, hlength]
  exact if_neg h

/-- A simulation asks the relay for the block that lies the offset past the one behind the head.
It comes to a result only where the reply has one result for each transaction; then the outcomes and
the verdict are what the reply says, and an evaluation of them is a success where the verdict is,
where there are no failures, and where all outcomes are well.  A reply with more or fewer results is
an error, and a run that gets one calls nothing more and comes to a transport error of the
simulation. -/
theorem simulates_in_place (c : RelayClient κ) (limit : Option Nat) :
    (∀ (bundle : Bundle) (offset : UInt64) (m : Moment (State κ)),
      let asked := c.simulate bundle offset limit m
      (∀ delay head world,
        c.chain.blockNumber m.now m.state.world = (.after delay (.ok head), world) →
        Arrives limit m.now delay → head.toNat + 1 + offset.toNat < UInt64.size →
        ∃ e block, asked.2.state.exchanges =
            (m.now + delay, e) :: (m.now, .askedHead (.after delay (.ok head))) ::
              m.state.exchanges ∧
          Attempts (.callBundle bundle.encodings block) m.state.nextId e ∧
          block.toNat = head.toNat + 1 + offset.toNat ∧
          ∀ signed ∈ e.signed?, ∃ text,
            Inquiry.ofText? signed.body = some ⟨bundle.encodings, text⟩ ∧
            Hex.Minimal text block.toNat) ∧
      (∀ simulation verdict, asked.1 = some (.ok (simulation, verdict)) →
        (∃ reply, Replied limit bundle.encodings reply asked.2 ∧
          reply.results.length = bundle.size ∧ reply.Says simulation verdict) ∧
        ∀ expected, let evaluation := bundle.evaluate simulation verdict expected
          (evaluation.success = true ↔ verdict = true) ∧
          (evaluation.success = true ↔ evaluation.failures = []) ∧
          (evaluation.success = true ↔ simulation.allOk = true)) ∧
      ∀ reply, Replied limit bundle.encodings reply asked.2 →
        (reply.results.length = bundle.size →
          ∃ simulation verdict, asked.1 = some (.ok (simulation, verdict))) ∧
        (reply.results.length ≠ bundle.size →
          asked.1 = some (.error (reply.refusal bundle)))) ∧
    ∀ (verify : Config → Timed κ (Except ValidationError Unit))
      (build : Config → Timed κ (Except BuildError BuiltBundle))
      (confirm : Bool → Timed κ (Except ConfirmationError Bool)) (config : Config)
      (start : Moment (State κ)),
      let services := c.collaborators verify build confirm
      let ending := Execution.run services config limit ⟨Session.new start.state, start.now⟩
      ∃ (log : Execution.CallLog (State κ)) (found : Findings),
        ending.2.state.journal.timedCalls = log.noted ∧
        Execution.Chained services config limit found start log ∧
        ∀ before m bundle offset after reply,
          log = before ++ (m, .simulate bundle offset) :: after →
          Replied limit bundle.encodings reply (c.simulate bundle offset limit m).2 →
          reply.results.length ≠ bundle.size →
          after = [] ∧
            ending.1 = some (.ok (.transportError .simulate (reply.refusal bundle))) := by
  have hmisaligned {bundle : Bundle} {offset : UInt64} {m : Moment (State κ)} {reply : CallReply}
      (hreplied : Replied limit bundle.encodings reply (c.simulate bundle offset limit m).2)
      (hne : reply.results.length ≠ bundle.size) :
      (c.simulate bundle offset limit m).1 = some (.error (reply.refusal bundle)) := by
    rw [(simulate_judged (Prod.eta _).symm).2 reply hreplied, judge_of_misaligned hne]
  refine ⟨fun bundle offset m => ⟨?_, ?_, ?_⟩, fun verify build confirm config start => ?_⟩
  · exact fun delay head world => simulate_asks
  · intro simulation verdict hasked
    obtain ⟨reply, hreplied, hjudged⟩ := (simulate_judged (Prod.ext hasked rfl)).1 _ rfl
    -- The judge would have refused a reply with another number of results.
    by_cases hsize : reply.results.length = bundle.size
    · rw [judge_of_aligned hsize] at hjudged
      cases hjudged
      refine ⟨⟨reply, hreplied, hsize, reply.says_simulation⟩, fun expected => ?_⟩
      obtain ⟨hsuccess, hfailures⟩ :=
        Bundle.evaluate_of_aligned (reply.says_simulation.length.trans hsize) expected
      exact ⟨hsuccess, hfailures, hsuccess⟩
    · rw [judge_of_misaligned hsize] at hjudged
      cases hjudged
  · intro reply hreplied
    refine ⟨fun hsize => ?_, hmisaligned hreplied⟩
    rw [(simulate_judged (Prod.eta _).symm).2 reply hreplied, judge_of_aligned hsize]
    exact ⟨_, _, rfl⟩
  · intro services ending
    obtain ⟨log, hnoted, found, hfollows⟩ : Execution.Makes (Execution.run services config) limit
      ⟨Session.new start.state, start.now⟩ _ := Execution.makes_run
    refine ⟨log, found, hnoted, hfollows.chained, ?_⟩
    intro before m bundle offset after reply hlog hreplied hne
    -- The run asks its relay through the client, so its call has failed as the simulation has.
    have hanswer : services.answer config limit (.simulate bundle offset) m =
        (some (.error (reply.refusal bundle)), (c.simulate bundle offset limit m).2) :=
      Prod.ext (hmisaligned hreplied hne) rfl
    exact hfollows.result_of_failed hlog hanswer

end RelayClient
end ArbBundle
