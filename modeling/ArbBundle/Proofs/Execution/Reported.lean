import ArbBundle.Proofs.Execution.Settlement
import ArbBundle.Proofs.Relay.Verdict
import ArbBundle.Proofs.Relay.Requests

/-!
# Reported — which hash a run reports, and which one it has seen

A run over the wire watches the hash of the last transaction of its bundle, as the bundle holds it.
What it reports is the last hash in the relay's answer to the simulation.  Nothing compares the two:
they are the same where the relay names the transactions that it was given.

- `Exchange.Simulates`: the relay's answer to a simulation
- `RelayClient.call_read`, `RelayClient.simulate_read`: what was read was answered
- `RelayClient.reports_simulated`: what a run that ends in an inclusion reports, and has seen
- `RelayClient.misnaming`: a relay that names another transaction
-/

namespace ArbBundle

open Timed

/-- The exchange simulates some transactions, and its answer is read as the simulation. -/
def Exchange.Simulates (transactions : List Bytes) (simulation : Simulation) (e : Exchange) :
    Prop :=
  ∃ block id signed delay response,
    e = .posted (.callBundle transactions block) id signed (.after delay (.ok response)) ∧
    RelayResponse.decide "eth_callBundle" Simulation.ofResult? response = .ok simulation

/-- Where there is one result for each transaction, the hash that is reported is the last one. -/
theorem settlementHash?_of_aligned {bundle : Bundle} {simulation : Simulation}
    (h : simulation.results.length = bundle.size) :
    simulation.settlementHash? = some (Execution.reportedHash bundle simulation) := by
  -- A bundle is not empty, and so neither is the list of its results.
  have hne : simulation.results ≠ [] := by
    intro hempty
    rw [hempty] at h
    exact bundle.nonempty (List.length_eq_zero_iff.1 h.symm)
  unfold Execution.reportedHash Simulation.settlementHash?
  rw [List.getLast?_eq_some_getLast hne]
  rfl

namespace RelayClient

variable {κ α : Type} {c : RelayClient κ} {limit : Option Nat} {m m' : Moment (State κ)}

/-! ## What was read was answered -/

/-- A request that comes to a result was put on the wire, and its answer is read as the result. -/
theorem call_read {request : RelayRequest} {read : Json → Option α} {a : α}
    (h : c.call request read limit m = (some (.ok a), m')) :
    ∃ signed delay response,
      m'.state.exchanges = (m.now, .posted request m.state.nextId signed
        (.after delay (.ok response))) :: m.state.exchanges ∧
      RelayResponse.decide request.method read response = .ok a := by
  obtain ⟨e, hx, -, -, hread⟩ := call_answer h
  obtain ⟨-, signed, delay, response, rfl, hd⟩ := (hread a).1 rfl
  exact ⟨signed, delay, response, hx, hd⟩

/-- The last exchange of a simulation is the one that it is read from. -/
theorem simulate_read {bundle : Bundle} {offset : UInt64} {simulation : Simulation}
    {verdict : Bool}
    (h : c.simulate bundle offset limit m = (some (.ok (simulation, verdict)), m')) :
    ∃ x before, m'.state.exchanges = x :: before ∧
      x.2.Simulates bundle.encodings simulation := by
  rcases hh : Timed.call c.head limit m with ⟨_ | e | head, m₁⟩
  · rw [simulate, bind_of_none hh] at h
    cases h
  · rw [simulate, bind_of_some hh] at h
    cases h
  rcases hc : c.call (.callBundle bundle.encodings (head + 1 + offset)) Simulation.ofResult?
    limit m₁ with ⟨_ | e | answer, m₂⟩
  · rw [simulate_of_head hh hc] at h
    cases h
  · rw [simulate_of_head hh hc] at h
    cases h
  rw [simulate_of_head hh hc] at h
  obtain ⟨hjudge, rfl⟩ := Prod.mk.inj h
  -- The judge lets the simulation pass as it was read.
  have hsame : answer = simulation := by
    have hj : judge bundle answer = .ok (simulation, verdict) := Option.some.inj hjudge
    simp only [judge] at hj
    split at hj
    · cases hj
      rfl
    · cases hj
  subst hsame
  obtain ⟨signed, delay, response, hx, hd⟩ := call_read hc
  exact ⟨_, _, hx, _, _, signed, delay, response, rfl, hd⟩

theorem aside_exchanges {x : Timed κ α} {r : Option α} (h : aside x limit m = (r, m')) :
    m'.state.exchanges = m.state.exchanges := by
  cases h
  rfl

/-- The submission of a targeted bundle that has seen its transaction mined has looked at its
receipt, and the answer was there by the deadline. -/
theorem sendAndAwait_sights {bundle : Bundle} {first : UInt64} {rounds : UInt32} {deadline : Nat}
    (htarget : bundle.targetBlock = some first) (hm : m.now ≤ deadline)
    (h : c.sendAndAwait bundle rounds deadline (some (limit.elim deadline (min deadline))) m =
      (some (.ok true), m')) :
    ∃ log : Log κ, m'.state.exchanges = log.noted.reverse ++ m.state.exchanges ∧
      log.Path c (around m) (around m') ∧
      ∃ x ∈ log, x.2.Sights bundle.last.hash ∧ x.2.EndsBy deadline x.1.now := by
  simp only [sendAndAwait, htarget] at h
  obtain ⟨log, requests, hx, hrounds⟩ := sendRounds_rounds h
  have hcourse := hrounds.course
  obtain ⟨x, hmem, hsights, delay, hdelay, harrives⟩ := hcourse.included_iff.1 rfl
  -- A limit from outside can only shorten the wait.
  have hle : limit.elim deadline (min deadline) ≤ deadline := by
    cases limit with
    | none => exact Nat.le_refl _
    | some l => exact Nat.min_le_left deadline l
  have hstart : x.1.now ≤ deadline :=
    Nat.le_trans (hcourse.times x hmem).2 (hcourse.stop_le_of_le hle hm)
  exact ⟨log, hx.exchanges, hcourse.path, x, hmem, hsights, delay, hdelay,
    (harrives.mono hle).le_of_le hstart⟩

/-! ## Whole runs -/

/-- A run that ends in an inclusion has simulated its bundle, with one result for each transaction,
and reports the hash of the last result, behind the prefix that the settings or the network give.
While the bundle was on its way, and by the deadline, the chain has told it that the hash of the
bundle's last transaction is mined.  The two hashes are the same where the results name the
transactions of the bundle in their order. -/
theorem reports_simulated (c : RelayClient κ)
    (verify : Config → Timed κ (Except ValidationError Unit))
    (build : Config → Timed κ (Except BuildError BuiltBundle))
    (confirm : (bypass : Bool) → Timed κ (Except ConfirmationError Bool)) (config : Config)
    (limit : Option Nat) (start : Moment (State κ)) {txHash : Digest} {link : String}
    {ending : Moment (Session (State κ))}
    (hrun : Execution.run (c.collaborators verify build confirm) config limit
      ⟨.new start.state, start.now⟩ = (some (.ok (.included txHash link)), ending)) :
    ∃ (k : Execution.Clearance (c.collaborators verify build confirm) config limit start)
      (log : Log κ) (stop : Moment κ) (asked : Nat × Exchange) (before : List (Nat × Exchange)),
      ending.state.services.exchanges = log.noted.reverse ++ asked :: before ∧
      asked.2.Simulates k.built.bundle.encodings k.simulation ∧
      k.simulation.results.length = k.built.bundle.size ∧
      k.simulation.results.getLast?.map TxOutcome.txHash = some txHash ∧
      link = config.explorerTxUrl.getD (Network.explorerPage k.route.networkId) ++
        Hex.marked txHash.toList ∧
      log.Path c (around k.route.routed) stop ∧
      (∃ x ∈ log, x.2.Sights k.built.bundle.last.hash ∧
        x.2.EndsBy (config.broadcast.deadlineFrom k.route.routed.now) x.1.now) ∧
      (k.simulation.results.map TxOutcome.txHash =
          k.built.bundle.transactions.map Transaction.hash →
        txHash = k.built.bundle.last.hash) := by
  obtain ⟨k, htime⟩ := Execution.clearance_of_included (congrArg Prod.fst hrun)
  -- The receipt is found in the submission, the hash that is reported comes from the simulation.
  rcases hs : k.route.submit config k.built.bundle with ⟨result, ended⟩
  obtain ⟨hservices, hincluded⟩ := k.included_iff htime hs
  rw [hrun] at hservices hincluded
  obtain ⟨rfl, hreported, rfl⟩ := (hincluded txHash link).1 rfl
  have htarget : (k.built.bundle.routed k.route.networkId k.route.head).targetBlock =
      some (k.route.head + 1) := rfl
  have hopen : k.route.routed.now ≤ config.broadcast.deadlineFrom k.route.routed.now :=
    Nat.le_add_right _ _
  obtain ⟨log, hlog, hpath, hsights⟩ := sendAndAwait_sights htarget hopen hs
  -- The client notes nothing between the simulation and the submission, and forgets nothing.
  have hagreed : k.agreed.state.exchanges = k.simulated.state.exchanges := aside_exchanges k.agrees
  have hlocated := (call_aside c.chain.networkId k.route.identifies).1
  have hrouted := (call_aside c.chain.blockNumber k.route.locates).1
  obtain ⟨asked, before, hasked, hsimulates⟩ := simulate_read k.simulates
  have hexchanges : ending.state.services.exchanges = log.noted.reverse ++ asked :: before := by
    rw [hservices, hlog, hrouted, hlocated, hagreed, hasked]
  have hlast := settlementHash?_of_aligned k.aligned
  refine ⟨k, log, around ended, asked, before, hexchanges, hsimulates, k.aligned, ?_, rfl, hpath,
    hsights, fun hnames => ?_⟩
  · rw [hreported]
    exact hlast
  · rw [hreported, ← Option.some_inj, ← hlast, Simulation.settlementHash?, ← List.getLast?_map,
      hnames, List.getLast?_map, List.getLast?_eq_some_getLast k.built.bundle.nonempty]
    rfl

/-! ## A relay that names another transaction -/

/-- A result that names a transaction of thirty-two ones, whatever was simulated. -/
def misnamed : Json :=
  Json.object [("result", Json.object [
    ("bundleHash", Json.ofBytes (List.replicate 32 0)),
    ("results", .arr [Json.object [("txHash", Json.ofBytes (List.replicate 32 1))]])])]

def misnamedSimulation : Simulation :=
  ⟨.zero 32, [.success (.replicate 32 1) 0]⟩

/-- The answer that gives that result, at once. -/
def misnamedReply : Reply (Except String HttpResponse) :=
  .after 0 (.ok ⟨200, Text.utf8 misnamed.chars⟩)

/-- A client of a relay that answers so to every request, and of a chain whose answers are laid
down. -/
def misnaming : RelayClient ChainScript where
  key := ⟨1, Nat.one_pos, one_lt_order⟩
  post _ := .steady misnamedReply
  chain := ChainScript.chain
  pollIntervalMs := 1000

/-- Services that let everything pass, around that client. -/
def misled : Collaborators (State ChainScript) :=
  misnaming.collaborators (fun _ => pure (.ok ())) (fun _ => pure (.ok ⟨default, 0⟩))
    fun _ => pure (.ok true)

/-- A chain that has the transaction that it is asked for in its fifth block. -/
def mining : ChainScript :=
  ⟨.ok 17000, [.ok 4], [.ok (some 5)]⟩

theorem written_misnamed : misnamed.Written := by
  have hhash (n : UInt8) : (Json.ofBytes (List.replicate 32 n)).Written := .text _
  refine .object fun m hm => ?_
  rw [List.mem_singleton.1 hm]
  refine .object fun m hm => ?_
  rcases List.mem_cons.1 hm with rfl | hm
  · exact hhash 0
  rw [List.mem_singleton.1 hm]
  refine .arr fun e he => ?_
  rw [List.mem_singleton.1 he]
  refine .object fun m hm => ?_
  rw [List.mem_singleton.1 hm]
  exact hhash 1

theorem lossy_misnamed : Text.lossy (Text.utf8 misnamed.chars) = misnamed.chars := by
  decide +kernel

/-- The result reads as a simulation of the misnamed transaction alone. -/
theorem ofResult?_misnamed :
    RelayResponse.ofJson? Simulation.ofResult? misnamed =
      some ⟨some misnamedSimulation, none⟩ := by
  decide +kernel

theorem submissionHash?_misnamed :
    RelayResponse.ofJson? submissionHash? misnamed = some ⟨some (.zero 32), none⟩ := by
  decide +kernel

theorem signs_simulation :
    (misnaming.key.signMessage? ('0' :: 'x' :: Hex.encode (Keccak.hash
      (Text.utf8 ((RelayRequest.callBundle [[]] 5).toJson 1).chars)).toList)).isSome = true := by
  decide +kernel

theorem signs_submission :
    (misnaming.key.signMessage? ('0' :: 'x' :: Hex.encode (Keccak.hash
      (Text.utf8 ((RelayRequest.sendBundle [[]] 5 ["flashbots"]).toJson 2).chars)).toList)).isSome
        = true := by
  decide +kernel

/-- A request that is signed is answered with the result that names another transaction. -/
theorem call_misnaming {request : RelayRequest} {read : Json → Option α} {a : α}
    (m : Moment (State ChainScript))
    (hsign : (SignedRequest.sign? misnaming.key (request.body m.state.nextId)).isSome = true)
    (hread : RelayResponse.ofJson? read misnamed = some ⟨some a, none⟩) :
    ∃ signed, misnaming.call request read limit m = (some (.ok a),
      ⟨⟨m.state.world, m.state.nextId + 1,
        (m.now, .posted request m.state.nextId signed misnamedReply) :: m.state.exchanges⟩,
        m.now⟩) :=
  call_of_steady (fun _ => rfl) hsign (decide_of_written written_misnamed lossy_misnamed hread)

/-- The moment at which such a relay has answered the simulation. -/
def misinformed (signed : SignedRequest) : Moment (State ChainScript) :=
  ⟨⟨mining, 2, [(0, .posted (.callBundle [[]] 5) 1 signed misnamedReply),
    (0, .askedHead (.after 0 (.ok 4)))]⟩, 0⟩

/-- The client passes the misnamed simulation on as one that went well. -/
theorem misled_simulates : ∃ signed, misnaming.simulate default 0 none ⟨.new mining, 0⟩ =
    (some (.ok (misnamedSimulation, true)), misinformed signed) := by
  let located : Moment (State ChainScript) :=
    ⟨⟨mining, 1, [(0, .askedHead (.after 0 (.ok 4)))]⟩, 0⟩
  have hhead : Timed.call misnaming.head none ⟨.new mining, 0⟩ = (some (.ok 4), located) := rfl
  have hsign : (SignedRequest.sign? misnaming.key
      (RelayRequest.body (.callBundle [[]] 5) located.state.nextId)).isSome = true :=
    (sign?_isSome _ _).trans signs_simulation
  obtain ⟨signed, hcall⟩ := call_misnaming located hsign ofResult?_misnamed
  have hrequest : RelayRequest.callBundle (default : Bundle).encodings (4 + 1 + 0) =
      .callBundle [[]] 5 := rfl
  refine ⟨signed, ?_⟩
  unfold simulate
  rw [bind_of_some hhead]
  dsimp only
  rw [hrequest, bind_of_some hcall]
  rfl

/-- What a run with these services clears. -/
def misledClearance {signed : SignedRequest}
    (h : misnaming.simulate default 0 none ⟨.new mining, 0⟩ =
      (some (.ok (misnamedSimulation, true)), misinformed signed)) :
    Execution.Clearance misled Config.default none ⟨.new mining, 0⟩ where
  verified := ⟨.new mining, 0⟩
  credited := ⟨.new mining, 0⟩
  built := ⟨default, 0⟩
  composed := ⟨.new mining, 0⟩
  simulation := misnamedSimulation
  simulated := misinformed signed
  agreed := misinformed signed
  route := ⟨17000, misinformed signed, 4, misinformed signed, rfl, rfl⟩
  verifies := rfl
  credits := rfl
  builds := rfl
  simulates := h
  aligned := rfl
  flawless := by simp [Simulation.Flawless, misnamedSimulation, TxOutcome.success]
  live := rfl
  covered := by
    change (default : Bundle).maxFee ≤ (0 : Wei)
    decide
  agrees := rfl

/-- Submitted after that, the bundle is seen mined in its first round. -/
theorem misled_sendAndAwait (signed : SignedRequest) {deadline : Nat} (h : 0 < deadline) :
    ∃ signed' ended, misnaming.sendAndAwait ((default : Bundle).routed 17000 4) 3 deadline
        (some deadline) (misinformed signed) = (some (.ok true), ended) ∧
      ended.state.exchanges = (0, .askedReceipt (.zero 32) (.after 0 (.ok (some 5)))) ::
        (0, .posted (.sendBundle [[]] 5 ["flashbots"]) 2 signed' misnamedReply) ::
          (misinformed signed).state.exchanges := by
  have hsign : (SignedRequest.sign? misnaming.key (RelayRequest.body
      (.sendBundle [[]] 5 ["flashbots"]) (misinformed signed).state.nextId)).isSome = true :=
    (sign?_isSome _ _).trans signs_submission
  obtain ⟨signed', hcall⟩ := call_misnaming (misinformed signed) hsign submissionHash?_misnamed
  have hsubmit : misnaming.submit ((default : Bundle).routed 17000 4) 5 (some deadline)
      (misinformed signed) = _ := hcall
  have htarget : ((default : Bundle).routed 17000 4).targetBlock = some 5 := rfl
  have hrounds : (3 : UInt32).toNat = 2 + 1 := rfl
  have hnow (m : Moment (State ChainScript)) : now (some deadline) m = (some m.now, m) := rfl
  have hearly : ¬ deadline ≤ (misinformed signed).now := Nat.not_le.2 h
  refine ⟨signed', ?_⟩
  -- The first round is sent, and the first look at the receipt ends it.
  simp only [sendAndAwait, htarget]
  rw [hrounds, sendRounds, bind_of_some (hnow _), if_neg hearly, bind_of_some hsubmit]
  dsimp only
  rw [bind_of_some (hnow _), awaitBlock]
  exact ⟨_, rfl, rfl⟩

theorem misledClearance_submit {signed : SignedRequest}
    (h : misnaming.simulate default 0 none ⟨.new mining, 0⟩ =
      (some (.ok (misnamedSimulation, true)), misinformed signed)) :
    (misledClearance h).route.submit Config.default default =
      misnaming.sendAndAwait ((default : Bundle).routed 17000 4) 3
        (Config.default.broadcast.deadlineFrom 0) (some (Config.default.broadcast.deadlineFrom 0))
        (misinformed signed) := by
  have hrelay : misled.relay.sendAndAwait = misnaming.sendAndAwait := rfl
  simp only [Execution.Route.submit, hrelay, Option.elim_none]
  rfl

/-- The run with these services ends in an inclusion, after these exchanges. -/
theorem misled_run : ∃ ending signed signed',
    Execution.run misled Config.default none ⟨.new (.new mining), 0⟩ =
      (some (.ok (.included (.replicate 32 1) ("https://holesky.etherscan.io/tx/" ++
        Hex.marked (List.replicate 32 1)))), ending) ∧
    ending.state.services.exchanges = [
      (0, .askedReceipt (.zero 32) (.after 0 (.ok (some 5)))),
      (0, .posted (.sendBundle [[]] 5 ["flashbots"]) 2 signed' misnamedReply),
      (0, .posted (.callBundle [[]] 5) 1 signed misnamedReply),
      (0, .askedHead (.after 0 (.ok 4)))] := by
  obtain ⟨signed, hsimulates⟩ := misled_simulates
  have hpositive : 0 < Config.default.broadcast.deadlineFrom 0 := by decide
  obtain ⟨signed', ended, hawait, hexchanges⟩ := misled_sendAndAwait signed hpositive
  have hreported : FixedBytes.replicate 32 1 = Execution.reportedHash default misnamedSimulation :=
    rfl
  have hpage : Network.explorerPage 17000 = "https://holesky.etherscan.io/tx/" := by decide
  have hlink : Execution.explorerLink Config.default 17000 (.replicate 32 1) =
      "https://holesky.etherscan.io/tx/" ++ Hex.marked (List.replicate 32 1) := by
    rw [Execution.explorerLink, hpage]
    rfl
  have htime : (misledClearance hsimulates).HasDeadline := by
    change Config.default.broadcast.HasDeadline 0
    decide +kernel
  obtain ⟨hservices, hincluded⟩ := (misledClearance hsimulates).included_iff htime
    ((misledClearance_submit hsimulates).trans hawait)
  have hr := (hincluded (.replicate 32 1) _).2 ⟨rfl, hreported, hlink.symm⟩
  dsimp only at hservices hr
  rcases hrun : Execution.run misled Config.default none ⟨.new (.new mining), 0⟩ with ⟨r, ending⟩
  rw [hrun] at hservices hr
  subst hr
  refine ⟨ending, signed, signed', rfl, ?_⟩
  rw [hservices, hexchanges]
  rfl

/-- A run reports a hash of which no receipt was ever found, and not the hash of its bundle's last
transaction. -/
theorem misled_reports_another :
    let ending := Execution.run misled Config.default none ⟨.new (.new mining), 0⟩
    ending.1 = some (.ok (.included (.replicate 32 1) ("https://holesky.etherscan.io/tx/" ++
      Hex.marked (List.replicate 32 1)))) ∧
    (.replicate 32 1 : Digest) ≠ (default : Bundle).last.hash ∧
    ∀ x ∈ ending.2.state.services.exchanges, ¬ x.2.Sights (.replicate 32 1) := by
  obtain ⟨ending, signed, signed', hrun, hexchanges⟩ := misled_run
  intro ending'
  -- The only receipt that is asked for is the one of the transaction of thirty-two zeros.
  have hending : ending' = _ := hrun
  rw [hending]
  refine ⟨rfl, by decide, ?_⟩
  rw [hexchanges]
  have hother : (.replicate 32 1 : Digest) ≠ .zero 32 := by decide
  simp [Exchange.Sights, hother.symm]

/-- What that run has seen is the receipt of its bundle's last transaction. -/
theorem misled_sights :
    ∃ ending, Execution.run misled Config.default none ⟨.new (.new mining), 0⟩ =
        (some (.ok (.included (.replicate 32 1) ("https://holesky.etherscan.io/tx/" ++
          Hex.marked (List.replicate 32 1)))), ending) ∧
      ∃ (k : Execution.Clearance misled Config.default none ⟨.new mining, 0⟩)
        (log : Log ChainScript), ∃ x ∈ log, x.2.Sights k.built.bundle.last.hash := by
  obtain ⟨ending, signed, signed', hrun, -⟩ := misled_run
  obtain ⟨k, log, -, -, -, -, -, -, -, -, -, ⟨x, hx, hsights, -⟩, -⟩ :=
    reports_simulated misnaming _ _ _ Config.default none ⟨.new mining, 0⟩ hrun
  exact ⟨ending, hrun, k, log, x, hx, hsights⟩

end RelayClient
end ArbBundle
