import ArbBundle.Execution.Wired
import ArbBundle.Proofs.Json.Rendering
import ArbBundle.Proofs.Relay.Course

/-!
# Requests — what a client puts on the wire

- `Exchange.signed?`: the text that an exchange puts on the wire
- `State.Posts`: the requests that a client makes from one state to another, numbered without gaps
- `call_answer`, `call_of_response`, `simulate_of_head`: what the answer to a request is read as
- `decide_of_written`, `call_of_steady`: a value that a server writes into all its answers
- `updateFeeRefund_posts`, `simulate_posts`, `sendAndAwait_posts`: the requests of each operation
- `Bundle.Resends`: submissions of one and the same list of transactions
-/

namespace ArbBundle

open Timed

namespace Exchange

def signed? : Exchange → Option SignedRequest
  | .posted _ _ signed _ => some signed
  | _ => none

/-- The text on the wire is that of the request that is noted. -/
def Honest (e : Exchange) : Prop :=
  e.signed?.map SignedRequest.body = e.posting?.map fun p => p.1.body p.2

/-- What a client puts on the wire is the text of the request that it notes. -/
theorem Happens.honest {κ : Type} {c : RelayClient κ} {m : Moment κ} {e : Exchange} {world : κ}
    (h : e.Happens c m world) : e.Honest := by
  cases h with
  | posted hs _ =>
      obtain ⟨s, -, rfl⟩ := Option.map_eq_some_iff.1 hs
      rfl
  | unsigned _ _ => rfl
  | askedHead _ => rfl
  | askedReceipt _ => rfl
  | paused _ => rfl

end Exchange

namespace Bundle

/-- Submissions of the transactions of a bundle, of which there are not more than `rounds`. -/
structure Resends (bundle : Bundle) (rounds : Nat) (requests : List RelayRequest) : Prop where
  length_le : requests.length ≤ rounds
  same : ∀ r ∈ requests, ∃ block builders, r = .sendBundle bundle.encodings block builders

theorem Resends.mono {bundle : Bundle} {rounds rounds' : Nat} {requests : List RelayRequest}
    (h : bundle.Resends rounds requests) (hle : rounds ≤ rounds') :
    bundle.Resends rounds' requests :=
  ⟨Nat.le_trans h.length_le hle, h.same⟩

def submissions (bundle : Bundle) : (block : UInt64) → (rounds : Nat) → List RelayRequest
  | _, 0 => []
  | block, rounds + 1 =>
    .sendBundle bundle.encodings block bundle.builders :: bundle.submissions (block + 1) rounds

/-- Submissions for some blocks in a row are of the one bundle, one a round. -/
theorem resends_submissions (bundle : Bundle) (block : UInt64) (rounds : Nat) :
    bundle.Resends rounds (bundle.submissions block rounds) := by
  induction rounds generalizing block with
  | zero =>
      exact ⟨Nat.le_refl 0, fun r hr => absurd hr List.not_mem_nil⟩
  | succ rounds ih =>
      have hrest := ih (block + 1)
      exact ⟨Nat.succ_le_succ hrest.length_le, List.forall_mem_cons.2 ⟨⟨_, _, rfl⟩, hrest.same⟩⟩

end Bundle

namespace RelayClient

variable {κ α : Type} {c : RelayClient κ} {limit : Option Nat} {deadline : Nat} {txHash : Digest}
  {bundle : Bundle} {start stop : Moment κ} {log : Log κ} {m m₁ m₂ : Moment (State κ)}
  {result : Option (Except TransportError Bool)}

/-! ## What is put on the wire -/

def Log.postings (log : Log κ) : List (RelayRequest × Nat) :=
  log.filterMap fun x => x.2.posting?

/-- From one state to another a client puts some requests on the wire, under consecutive numbers,
and uses up `n` numbers. -/
structure State.Posts (s s' : State κ) (requests : List RelayRequest) (n : Nat) : Prop where
  wire : s'.wire.map SignedRequest.body =
    s.wire.map SignedRequest.body ++ (requests.zipIdx s.nextId).map fun p => p.1.body p.2
  nextId : s'.nextId = s.nextId + n

namespace State

variable {s s' s'' : State κ} {requests requests' : List RelayRequest} {n : Nat}

theorem wire_eq (s : State κ) : s.wire = s.exchanges.reverse.filterMap fun x => x.2.signed? := by
  unfold wire
  congr 1

theorem Posts.of_same (hx : s'.exchanges = s.exchanges) (hn : s'.nextId = s.nextId) :
    Posts s s' [] 0 := by
  refine ⟨?_, hn⟩
  rw [wire_eq, wire_eq, hx]
  exact (List.append_nil _).symm

theorem Posts.trans (h : Posts s s' requests requests.length) (h' : Posts s' s'' requests' n) :
    Posts s s'' (requests ++ requests') (requests.length + n) := by
  refine ⟨?_, ?_⟩
  · rw [h'.wire, h.wire, h.nextId, List.append_assoc, ← List.map_append, ← List.zipIdx_append]
  · rw [h'.nextId, h.nextId, Nat.add_assoc]

theorem Posts.after (h : Posts s s' [] 0) (h' : Posts s' s'' requests n) :
    Posts s s'' requests n := by
  simpa using h.trans h'

end State

/-- The bodies on the wire are the texts of the requests of the log, under their numbers. -/
theorem Log.body_postings (h : ∀ x ∈ log, x.2.Honest) :
    (log.noted.filterMap fun x => x.2.signed?).map SignedRequest.body =
      log.postings.map fun p => p.1.body p.2 := by
  simp only [noted, postings, List.filterMap_map, List.map_filterMap, Function.comp_apply]
  induction log with
  | nil =>
      rfl
  | cons x log ih =>
      obtain ⟨hx, hlog⟩ := List.forall_mem_cons.1 h
      have hx' : x.2.signed?.map SignedRequest.body = x.2.posting?.map fun p => p.1.body p.2 := hx
      simp only [List.filterMap_cons, hx', ih hlog]

/-- A log of numbered requests is what a client puts on the wire. -/
theorem Extends.posts {requests : List RelayRequest} {n : Nat} (hx : Extends m m₁ log n)
    (hlog : log.postings = requests.zipIdx m.state.nextId) (h : ∀ x ∈ log, x.2.Honest) :
    m.state.Posts m₁.state requests n := by
  refine ⟨?_, hx.nextId⟩
  rw [State.wire_eq, State.wire_eq, hx.exchanges, List.reverse_append, List.reverse_reverse,
    List.filterMap_append, List.map_append, Log.body_postings h, hlog]

/-! ## Beside the relay -/

/-- What is done aside puts nothing on the wire. -/
theorem aside_posts {x : Timed κ α} {r : Option α} {m m' : Moment (State κ)}
    (h : aside x limit m = (r, m')) : m.state.Posts m'.state [] 0 := by
  cases h
  exact .of_same rfl rfl

/-- Whatever is asked of the chain beside the client leaves no trace in what the client notes. -/
theorem call_aside (s : Service κ α) {answer : Option α} {m m' : Moment (State κ)}
    (h : Timed.call (s.focus State.world State.withWorld) limit m = (answer, m')) :
    m'.state.exchanges = m.state.exchanges ∧ m.state.Posts m'.state [] 0 := by
  have hs := (call_comes (s.focus State.world State.withWorld) limit m).2
  rw [h] at hs
  rw [hs]
  exact ⟨rfl, .of_same rfl rfl⟩

/-! ## Single requests -/

/-- A request is one exchange, and comes to what its answer is read as, where this is in time. -/
theorem call_answer {request : RelayRequest} {read : Json → Option α}
    {result : Option (Except TransportError α)}
    (h : c.call request read limit m = (result, m₂)) :
    ∃ e, m₂.state.exchanges = (m.now, e) :: m.state.exchanges ∧
      Attempts request m.state.nextId e ∧ e.Honest ∧
      ∀ a, result = some (.ok a) ↔ e.Ends limit m.now ∧ ∃ signed delay response,
        e = .posted request m.state.nextId signed (.after delay (.ok response)) ∧
        RelayResponse.decide request.method read response = .ok a := by
  unfold call at h
  rw [bind_of_some (rfl : nextId limit m = (some m.state.nextId, m))] at h
  cases hs : SignedRequest.sign? c.key (request.body m.state.nextId) with
  | none =>
      -- Nothing is on the wire, so there is nothing to answer.
      simp only [hs] at h
      cases h
      refine ⟨.unsigned request m.state.nextId, rfl, .unsigned, rfl, fun a => ⟨nofun, ?_⟩⟩
      rintro ⟨-, _, _, _, he, -⟩
      cases he
  | some signed =>
      simp only [hs] at h
      rcases hr : Timed.call (c.send request signed) limit m with ⟨answer, m₁⟩
      obtain ⟨reply, hg, hx, hc⟩ := send_comes hs hr
      cases hc with
      | cut hcut _ =>
          rw [bind_of_none hr] at h
          cases h
          refine ⟨_, hx.exchanges, .posted signed reply, hg.honest, fun a => ⟨nofun, ?_⟩⟩
          rintro ⟨⟨delay, hdelay, harrives⟩, -⟩
          exact absurd harrives (hcut delay hdelay)
      | @answered delay _ answer harrives _ =>
          rw [bind_of_some hr] at h
          rcases answer with reason | response
          · cases h
            refine ⟨_, hx.exchanges, .posted signed _, hg.honest, fun a => ⟨nofun, ?_⟩⟩
            rintro ⟨-, _, _, _, he, -⟩
            cases he
          · -- A response was there in time, and the request comes to what is read of it.
            obtain ⟨rfl, rfl⟩ := Prod.mk.inj h
            refine ⟨_, hx.exchanges, .posted signed _, hg.honest, fun a => ⟨fun hd => ?_, ?_⟩⟩
            · exact ⟨⟨delay, rfl, harrives⟩, signed, delay, response, rfl, Option.some.inj hd⟩
            · rintro ⟨-, _, _, _, he, hd⟩
              cases he
              exact congrArg some hd

/-- A request that is signed, and gets a response in time, comes to what the response means. -/
theorem call_of_response {request : RelayRequest} {signed : SignedRequest} {delay : Nat}
    {response : HttpResponse} {world : κ}
    (hs : SignedRequest.sign? c.key (request.body m.state.nextId) = some signed)
    (hp : c.post signed m.now m.state.world = (.after delay (.ok response), world))
    (ha : Arrives limit m.now delay) (read : Json → Option α) :
    c.call request read limit m = (some (RelayResponse.decide request.method read response),
      ⟨⟨world, m.state.nextId + 1, (m.now, .posted request m.state.nextId signed
        (.after delay (.ok response))) :: m.state.exchanges⟩, m.now + delay⟩) := by
  have hsend : c.send request signed m.now m.state = (.after delay (.ok response),
      ⟨world, m.state.nextId + 1, (m.now, .posted request m.state.nextId signed
        (.after delay (.ok response))) :: m.state.exchanges⟩) := by
    unfold send
    rw [hp]
    rfl
  unfold call
  rw [bind_of_some (rfl : nextId limit m = (some m.state.nextId, m))]
  simp only [hs]
  rw [bind_of_some (call_of_arrives hsend ha)]
  rfl

/-- A value that is written out in a response, and tells a result without a fault, means that
result. -/
theorem decide_of_written {method : String} {read : Json → Option α} {j : Json} {a : α}
    (hj : j.Written) (hlossy : Text.lossy (Text.utf8 j.chars) = j.chars)
    (ha : RelayResponse.ofJson? read j = some ⟨some a, none⟩) :
    RelayResponse.decide method read ⟨200, Text.utf8 j.chars⟩ = .ok a := by
  have hread : Json.ofText? (String.ofList j.chars) = some j := Json.ofText?_render hj
  rw [RelayResponse.decide, hlossy, hread, Option.bind_some, ha]

/-- Whether a text can be signed hangs on the digits of its hash alone. -/
theorem sign?_isSome (key : Curve.SigningKey) (cs : List Char) :
    (SignedRequest.sign? key (String.ofList cs)).isSome =
      (key.signMessage?
        ('0' :: 'x' :: Hex.encode (Keccak.hash (Text.utf8 cs)).toList)).isSome := by
  simp [SignedRequest.sign?, SignedRequest.digestText, Hex.marked]

/-- A request that can be signed comes to what a server means that gives the same answer, at once,
to whatever it is sent. -/
theorem call_of_steady {request : RelayRequest} {read : Json → Option α} {a : α}
    {response : HttpResponse}
    (hpost : ∀ signed, c.post signed = .steady (.after 0 (.ok response)))
    (hsign : (SignedRequest.sign? c.key (request.body m.state.nextId)).isSome = true)
    (hdecide : RelayResponse.decide request.method read response = .ok a) :
    ∃ signed, c.call request read limit m = (some (.ok a),
      ⟨⟨m.state.world, m.state.nextId + 1, (m.now, .posted request m.state.nextId signed
        (.after 0 (.ok response))) :: m.state.exchanges⟩, m.now⟩) := by
  obtain ⟨signed, hsigned⟩ := Option.isSome_iff_exists.1 hsign
  have hreply : c.post signed m.now m.state.world =
      (.after 0 (.ok response), m.state.world) := by
    rw [hpost]
    rfl
  refine ⟨signed, ?_⟩
  rw [call_of_response hsigned hreply (.inl rfl) read, hdecide]
  rfl

/-- A request is put on the wire, unless it cannot be signed; then it fails. -/
theorem call_posts {request : RelayRequest} {read : Json → Option α}
    {result : Option (Except TransportError α)}
    (h : c.call request read limit m = (result, m₂))
    (hread : ∀ response, request.fault? response =
      TransportError.ofResult? (RelayResponse.decide request.method read response)) :
    m.state.Posts m₂.state [request] 1 ∨
      (m.state.Posts m₂.state [] 1 ∧ ∀ a, result ≠ some (.ok a)) := by
  obtain ⟨e, he, hx, hc⟩ := call_concludes h hread
  have hhonest : ∀ x ∈ [(around m, e)], x.2.Honest := by
    intro x hx
    rw [List.mem_singleton.1 hx]
    exact hc.happens.honest
  cases he with
  | posted signed reply =>
      exact Or.inl (hx.posts rfl hhonest)
  | unsigned =>
      -- What could not be signed has failed, so nothing follows upon it.
      refine Or.inr ⟨hx.posts rfl hhonest, ?_⟩
      rintro a rfl
      cases hc with
      | read _ hpass =>
          cases hpass.undecided

/-- Installing a receiver puts its request on the wire; otherwise its number is lost and nothing is
installed. -/
theorem updateFeeRefund_posts {receiver : Address} {result : Option (Except TransportError Unit)}
    (h : c.updateFeeRefund receiver limit m = (result, m₂)) :
    m.state.Posts m₂.state [.setFeeRefundRecipient c.key.address receiver] 1 ∨
      (m.state.Posts m₂.state [] 1 ∧ ∀ a, result ≠ some (.ok a)) :=
  call_posts h fun _ => rfl

/-- Once the head is known, a simulation is one request, and the judge has the last word. -/
theorem simulate_of_head {offset head : UInt64}
    {called : Option (Except TransportError Simulation)}
    (hh : Timed.call c.head limit m = (some (.ok head), m₁))
    (hc : c.call (.callBundle bundle.encodings (head + 1 + offset)) Simulation.ofResult? limit m₁ =
      (called, m₂)) :
    c.simulate bundle offset limit m = (called.map (·.bind (judge bundle)), m₂) := by
  rw [simulate, bind_of_some hh]
  rcases called with _ | _ | simulation
  · exact bind_of_none hc
  · exact bind_of_some hc
  · exact bind_of_some hc

/-- A simulation is one request at most, and exactly one where it comes to something. -/
theorem simulate_posts {offset : UInt64}
    {result : Option (Except TransportError (Simulation × Bool))}
    (h : c.simulate bundle offset limit m = (result, m₂)) :
    (∃ block, m.state.Posts m₂.state [.callBundle bundle.encodings block] 1) ∨
      ∃ n, m.state.Posts m₂.state [] n ∧ ∀ a, result ≠ some (.ok a) := by
  rcases hr : Timed.call c.head limit m with ⟨answer, m₁⟩
  obtain ⟨reply, hh, hx, -⟩ := head_comes hr
  have hhead : m.state.Posts m₁.state [] 0 := by
    refine hx.posts rfl fun x hx => ?_
    rw [List.mem_singleton.1 hx]
    exact hh.honest
  rcases answer with _ | e | head
  · rw [simulate, bind_of_none hr] at h
    cases h
    exact Or.inr ⟨0, hhead, fun a ha => nomatch ha⟩
  · rw [simulate, bind_of_some hr] at h
    cases h
    exact Or.inr ⟨0, hhead, fun a ha => nomatch ha⟩
  · rcases hc : c.call (.callBundle bundle.encodings (head + 1 + offset)) Simulation.ofResult?
      limit m₁ with ⟨called, m₃⟩
    rw [simulate_of_head hr hc] at h
    obtain ⟨rfl, rfl⟩ := Prod.mk.inj h
    rcases call_posts hc fun _ => rfl with hcall | ⟨hcall, hnone⟩
    · exact Or.inl ⟨_, hhead.trans hcall⟩
    · refine Or.inr ⟨_, hhead.trans hcall, fun a ha => ?_⟩
      -- The judge can only make something of a simulation that was read.
      rcases called with _ | e | simulation
      · cases ha
      · cases ha
      · exact hnone simulation rfl

/-! ## Submissions -/

theorem Attempts.posting? {request : RelayRequest} {id : Nat} {e : Exchange}
    (h : Attempts request id e) : e.posting? = some (request, id) ∨ e.posting? = none := by
  cases h with
  | posted _ _ => exact Or.inl rfl
  | unsigned => exact Or.inr rfl

theorem Log.postings_cons (x : Moment κ × Exchange) (log : Log κ) :
    Log.postings (x :: log) = x.2.posting?.toList ++ log.postings := by
  unfold postings
  rw [List.filterMap_cons]
  rcases x.2.posting? with _ | p <;> rfl

theorem Log.postings_append (log log' : Log κ) :
    Log.postings (log ++ log') = log.postings ++ log'.postings :=
  List.filterMap_append

/-- Between its submissions a client only looks at the chain. -/
theorem Watch.postings {block : UInt64}
    (h : Watch c limit deadline block txHash start log result stop) : log.postings = [] := by
  induction h with
  | settled _ => rfl
  | blind _ _ => rfl
  | closed _ _ _ => rfl
  | asleep _ _ _ _ _ => rfl
  | again _ _ _ _ _ _ ih => exact ih

/-- The rounds of a submission are requests for blocks in a row, under consecutive numbers. -/
theorem Rounds.postings {rounds id : Nat} {block : UInt64}
    (h : Rounds c limit deadline bundle rounds block id start log result stop) :
    ∃ k ≤ rounds, log.postings = (bundle.submissions block k).zipIdx id := by
  induction h with
  | looked _ _ =>
      exact ⟨0, Nat.zero_le _, rfl⟩
  | unseen _ _ =>
      exact ⟨0, Nat.zero_le _, rfl⟩
  | unsubmitted _ he _ =>
      rw [Log.postings_cons]
      rcases he.posting? with hp | hp
      · exact ⟨1, by omega, by rw [hp]; rfl⟩
      · exact ⟨0, by omega, by rw [hp]; rfl⟩
  | watched _ he hpass hwatch _ =>
      obtain ⟨signed, delay, response, rfl, -⟩ := he.taken_of_passes hpass
      refine ⟨1, by omega, ?_⟩
      rw [Log.postings_cons, hwatch.postings]
      rfl
  | next _ he hpass hwatch _ ih =>
      obtain ⟨signed, delay, response, rfl, -⟩ := he.taken_of_passes hpass
      obtain ⟨k, hk, hrest⟩ := ih
      refine ⟨k + 1, by omega, ?_⟩
      rw [List.cons_append, Log.postings_cons, Log.postings_append, hwatch.postings, hrest]
      rfl

/-- A submission puts nothing on the wire but the bundle, and this once a round at most. -/
theorem sendAndAwait_posts {rounds : UInt32}
    (h : c.sendAndAwait bundle rounds deadline limit m = (result, m₂)) :
    ∃ requests n, m.state.Posts m₂.state requests n ∧ bundle.Resends rounds.toNat requests := by
  cases ht : bundle.targetBlock with
  | none =>
      simp only [sendAndAwait, ht] at h
      cases h
      exact ⟨[], 0, .of_same rfl rfl, (bundle.resends_submissions 0 0).mono (Nat.zero_le _)⟩
  | some first =>
      simp only [sendAndAwait, ht] at h
      obtain ⟨log, n, hx, hrounds⟩ := sendRounds_rounds h
      obtain ⟨k, hk, hlog⟩ := hrounds.postings
      refine ⟨_, n, hx.posts hlog fun x hx => ?_, (bundle.resends_submissions first k).mono hk⟩
      obtain ⟨world, hh⟩ := hrounds.course.path.happens x hx
      exact hh.honest

end RelayClient
end ArbBundle
