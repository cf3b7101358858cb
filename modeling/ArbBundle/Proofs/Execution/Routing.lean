import ArbBundle.Proofs.Execution.Calls

/-!
# Routing — what becomes of a bundle on its way

A broadcast changes where a bundle goes, and never what it holds.  It asks the chain twice, and each
answer that fails ends it before anything is told or sent; what the bundle was routed by before does
not matter.  A bundle whose wait has no deadline is told of, and stays where it is.

- `Chain.Locates`: the chain tells its network and its newest block
- `Broadcast.Dispatches`: a bundle is told of and submitted once, as the chain has located it
- `Broadcast.Routes`: how a broadcast ends, by the answers of the chain
- `Broadcast.send_routes`: every broadcast ends like this
- `Broadcast.endless_bundle_kept_back`: a bundle that is told of, and that the relay never gets
-/

namespace ArbBundle

variable {σ : Type}

/-- Asked at a moment, the chain tells its network, and after that its newest block. -/
structure Chain.Locates (chain : Chain σ) (limit : Option Nat) (start : Moment σ)
    (networkId head : UInt64) (named looked : Moment σ) : Prop where
  names : Timed.call chain.networkId limit start = (some (.ok networkId), named)
  looks : Timed.call chain.blockNumber limit named = (some (.ok head), looked)

namespace Broadcast

/-- The result of a broadcast with the bundle as it is then, and the moment at which it stops. -/
abbrev Ending (σ : Type) :=
  Option (Except BroadcastError BroadcastReport × Bundle) × Moment (Session σ)

/-- The services as a broadcast finds them. -/
def servicesAt (start : Moment (Session σ)) : Moment σ :=
  ⟨start.state.services, start.now⟩

/-- A broadcast that knows the network and the newest block `head` sends the bundle on its way, for
the builders of that network and the target after `head`. -/
structure Dispatches (b : Broadcast) (relay : Relay σ) (bundle : Bundle) (bundleHash : Digest)
    (limit : Option Nat) (start : Moment (Session σ)) (networkId head : UInt64)
    (named looked : Moment σ) (target : UInt64) (sent : Bundle) (ending : Ending σ) : Prop where
  target_eq : target.toNat = head.toNat + 1
  sent_eq : sent =
    { bundle with targetBlock := some target, builders := Network.knownBuilders networkId }
  /-- The bundle is told of, and then it is submitted, each of them once. -/
  journal_eq : ending.2.state.journal = start.state.journal ++
    [⟨start.now, .called .networkId⟩, ⟨named.now, .called .blockNumber⟩,
      ⟨looked.now, .reported
        (.bundleSent bundleHash target sent.builders.length b.inclusionTimeoutSecs)⟩,
      ⟨looked.now, .called (.sendAndAwait sent b.retryRounds (b.deadlineFrom looked.now))⟩]
  /-- The relay is left as the submission of that very bundle leaves it. -/
  received : ending.2.state.services =
    (relay.sendAndAwait sent b.retryRounds (b.deadlineFrom looked.now)
      (some (limit.elim (b.deadlineFrom looked.now) (min (b.deadlineFrom looked.now))))
      looked).2.state
  left_routed : ∀ r after, ending.1 = some (r, after) → after = sent
  reports : ∀ report after, ending.1 = some (.ok report, after) →
    report.networkId = networkId ∧ report.targetBlock = target ∧
      (report.state = .included ∨ report.state = .timedOut)
  ends : limit = none → ∃ r, ending.1 = some (r, sent)

/-- How a broadcast ends, by what the chain answers to it. -/
structure Routes (b : Broadcast) (relay : Relay σ) (chain : Chain σ) (bundle : Bundle)
    (bundleHash : Digest) (limit : Option Nat) (start : Moment (Session σ)) (ending : Ending σ) :
    Prop where
  same_transactions : ∀ r after, ending.1 = some (r, after) →
    after.transactions = bundle.transactions
  /-- The network cannot be told. -/
  unnamed : ∀ e named,
    Timed.call chain.networkId limit (servicesAt start) = (some (.error e), named) →
    ending = (some (.error ⟨.networkId, e⟩, bundle),
      ⟨⟨named.state, start.state.journal ++ [⟨start.now, .called .networkId⟩]⟩, named.now⟩)
  /-- The newest block cannot be told. -/
  headless : ∀ networkId named e looked,
    Timed.call chain.networkId limit (servicesAt start) = (some (.ok networkId), named) →
    Timed.call chain.blockNumber limit named = (some (.error e), looked) →
    ending = (some (.error ⟨.blockNumber, e⟩,
        { bundle with builders := Network.knownBuilders networkId }),
      ⟨⟨looked.state, start.state.journal ++
        [⟨start.now, .called .networkId⟩, ⟨named.now, .called .blockNumber⟩]⟩, looked.now⟩)
  /-- Unless both are told, nobody hears of the bundle. -/
  silent : (∀ networkId head named looked,
      ¬ chain.Locates limit (servicesAt start) networkId head named looked) →
    ending.2.state.journal.events = start.state.journal.events ∧
      ending.2.state.journal.submissions = start.state.journal.submissions
  dispatches : ∀ networkId head named looked,
    chain.Locates limit (servicesAt start) networkId head named looked →
    head.toNat + 1 < UInt64.size → b.HasDeadline looked.now →
    ∃ target sent, Dispatches b relay bundle bundleHash limit start networkId head named looked
      target sent ending
  /-- The clock does not reach to the end of the wait: the departure is told, and all breaks off
  before the relay is called. -/
  strands : ∀ networkId head named looked,
    chain.Locates limit (servicesAt start) networkId head named looked →
    ¬ b.HasDeadline looked.now →
    ending = (none, ⟨⟨looked.state, start.state.journal ++
      [⟨start.now, .called .networkId⟩, ⟨named.now, .called .blockNumber⟩,
        ⟨looked.now, .reported (.bundleSent bundleHash (head + 1)
          (Network.knownBuilders networkId).length b.inclusionTimeoutSecs)⟩]⟩, looked.now⟩)

/-! ## The exits -/

variable {b : Broadcast} {relay : Relay σ} {chain : Chain σ} {bundle : Bundle}
  {bundleHash : Digest} {limit : Option Nat} {services : σ} {journal : Journal} {time : Nat}
  {named looked : Moment σ} {networkId head : UInt64} {e : TransportError}

/-- A broadcast that never learns its network stays open at the first call. -/
theorem send_of_never_named
    (hn : Timed.call chain.networkId limit ⟨services, time⟩ = (none, named)) :
    b.send relay chain bundle bundleHash limit ⟨⟨services, journal⟩, time⟩ =
      (none, ⟨⟨named.state, journal ++ [⟨time, .called .networkId⟩]⟩, named.now⟩) := by
  unfold send
  rw [Timed.bind_of_none (Session.perform_of .networkId hn)]

/-- An error about the network ends a broadcast, and leaves the bundle without routing. -/
theorem send_of_unnamed
    (hn : Timed.call chain.networkId limit ⟨services, time⟩ = (some (.error e), named)) :
    b.send relay chain bundle bundleHash limit ⟨⟨services, journal⟩, time⟩ =
      (some (.error ⟨.networkId, e⟩, bundle),
        ⟨⟨named.state, journal ++ [⟨time, .called .networkId⟩]⟩, named.now⟩) := by
  unfold send
  rw [Timed.bind_of_some (Session.perform_of .networkId hn)]
  rfl

/-- A broadcast that never learns of the newest block stays open at the second call. -/
theorem send_of_never_looked
    (hn : Timed.call chain.networkId limit ⟨services, time⟩ = (some (.ok networkId), named))
    (hh : Timed.call chain.blockNumber limit named = (none, looked)) :
    b.send relay chain bundle bundleHash limit ⟨⟨services, journal⟩, time⟩ =
      (none, ⟨⟨looked.state, journal ++
        [⟨time, .called .networkId⟩, ⟨named.now, .called .blockNumber⟩]⟩, looked.now⟩) := by
  unfold send
  rw [Timed.bind_of_some (Session.perform_of .networkId hn)]
  dsimp only
  rw [Timed.bind_of_none (Session.perform_of .blockNumber hh), List.append_assoc]
  rfl

/-- An error about the newest block ends a broadcast, with the builders of the network in the bundle
and no target. -/
theorem send_of_headless
    (hn : Timed.call chain.networkId limit ⟨services, time⟩ = (some (.ok networkId), named))
    (hh : Timed.call chain.blockNumber limit named = (some (.error e), looked)) :
    b.send relay chain bundle bundleHash limit ⟨⟨services, journal⟩, time⟩ =
      (some (.error ⟨.blockNumber, e⟩, bundle.withKnownBuilders networkId),
        ⟨⟨looked.state, journal ++
          [⟨time, .called .networkId⟩, ⟨named.now, .called .blockNumber⟩]⟩, looked.now⟩) := by
  unfold send
  rw [Timed.bind_of_some (Session.perform_of .networkId hn)]
  dsimp only
  rw [Timed.bind_of_some (Session.perform_of .blockNumber hh), List.append_assoc]
  rfl

/-- Past both questions a broadcast with a deadline is what the relay makes of the routed bundle,
unless the limit cuts off the wait.  Either way, everything has been told and submitted. -/
theorem send_of_located_cases (b : Broadcast) (relay : Relay σ) (bundle : Bundle)
    (bundleHash : Digest) (journal : Journal)
    (hn : Timed.call chain.networkId limit ⟨services, time⟩ = (some (.ok networkId), named))
    (hh : Timed.call chain.blockNumber limit named = (some (.ok head), looked))
    (htime : b.HasDeadline looked.now) {answer : Option (Except TransportError Bool)} {left : Moment σ}
    (hs : relay.sendAndAwait (bundle.routed networkId head) b.retryRounds
      (b.deadlineFrom looked.now)
      (some (limit.elim (b.deadlineFrom looked.now) (min (b.deadlineFrom looked.now)))) looked =
        (answer, left)) :
    let ending := b.send relay chain bundle bundleHash limit ⟨⟨services, journal⟩, time⟩
    ending.2.state = ⟨left.state,
        journal ++ b.heralds bundleHash (bundle.routed networkId head) (head + 1) time named.now
          looked.now ++
        [⟨looked.now, .called (.sendAndAwait (bundle.routed networkId head) b.retryRounds
          (b.deadlineFrom looked.now))⟩]⟩ ∧
      (ending.1 = some (told networkId (head + 1) (InclusionMonitor.verdict answer),
          bundle.routed networkId head) ∨
        limit ≠ none ∧ ending.1 = none) := by
  obtain ⟨ended, hended, hwait⟩ := Execution.supervised_cases (journal ++ b.heralds bundleHash
    (bundle.routed networkId head) (head + 1) time named.now looked.now) hs
  dsimp only
  rw [send_apply b relay bundle bundleHash journal hn hh, Timed.map_apply,
    awaitInclusion_apply relay _ htime, Timed.map_apply]
  rcases hwait with hwait | ⟨⟨-, hcut⟩, hwait⟩
  · rw [hwait]
    exact ⟨hended, .inl rfl⟩
  · rw [hwait]
    exact ⟨hended, .inr ⟨hcut, rfl⟩⟩

/-! ## Every broadcast -/

theorem told_state {target : UInt64} {answer : Option (Except TransportError Bool)}
    {report : BroadcastReport}
    (h : told networkId target (InclusionMonitor.verdict answer) = .ok report) :
    report.networkId = networkId ∧ report.targetBlock = target ∧
      (report.state = .included ∨ report.state = .timedOut) := by
  rcases told_cases networkId target answer with htold | ⟨e, htold⟩ | htold
  · rw [htold] at h
    cases h
    exact ⟨rfl, rfl, .inl rfl⟩
  · rw [htold] at h
    cases h
  · rw [htold] at h
    cases h
    exact ⟨rfl, rfl, .inr rfl⟩

/-- Where the chain answers twice and the clock reaches to the deadline, the bundle is
dispatched. -/
theorem dispatches_of_locates (b : Broadcast) (relay : Relay σ) (bundle : Bundle)
    (bundleHash : Digest) (journal : Journal)
    (h : chain.Locates limit ⟨services, time⟩ networkId head named looked)
    (hhead : head.toNat + 1 < UInt64.size) (htime : b.HasDeadline looked.now) :
    Dispatches b relay bundle bundleHash limit ⟨⟨services, journal⟩, time⟩ networkId head named
      looked (head + 1) (bundle.routed networkId head)
      (b.send relay chain bundle bundleHash limit ⟨⟨services, journal⟩, time⟩) := by
  obtain ⟨hstate, hresult⟩ :=
    send_of_located_cases b relay bundle bundleHash journal h.names h.looks htime rfl
  exact
    { target_eq := by
        rw [UInt64.toNat_add]
        exact Nat.mod_eq_of_lt hhead
      sent_eq := rfl
      journal_eq := by
        rw [hstate]
        simp [heralds]
      received := by rw [hstate]
      left_routed := by
        intro r after hr
        rcases hresult with hsome | ⟨-, hnone⟩
        · cases hsome.symm.trans hr
          rfl
        · cases hnone.symm.trans hr
      reports := by
        intro report after hr
        rcases hresult with hsome | ⟨-, hnone⟩
        · exact told_state (Prod.ext_iff.1 (Option.some.inj (hsome.symm.trans hr))).1
        · cases hnone.symm.trans hr
      ends := by
        intro hlimit
        rcases hresult with hsome | ⟨hcut, -⟩
        · exact ⟨_, hsome⟩
        · exact absurd hlimit hcut }

/-- Routing leaves the transactions as they are. -/
theorem same_transactions_of_some {r : Except BroadcastError BroadcastReport} {after : Bundle}
    (h : (b.send relay chain bundle bundleHash limit ⟨⟨services, journal⟩, time⟩).1 =
      some (r, after)) : after.transactions = bundle.transactions := by
  rcases hn : Timed.call chain.networkId limit ⟨services, time⟩ with ⟨_ | e | networkId, named⟩
  · rw [send_of_never_named hn] at h
    cases h
  · rw [send_of_unnamed hn] at h
    cases h
    rfl
  · rcases hh : Timed.call chain.blockNumber limit named with ⟨_ | e | head, looked⟩
    · rw [send_of_never_looked hn hh] at h
      cases h
    · rw [send_of_headless hn hh] at h
      cases h
      rfl
    · by_cases htime : b.HasDeadline looked.now
      · obtain ⟨-, hsome | ⟨-, hnone⟩⟩ :=
          send_of_located_cases b relay bundle bundleHash journal hn hh htime rfl
        · cases hsome.symm.trans h
          rfl
        · cases hnone.symm.trans h
      · rw [send_halts relay bundle bundleHash journal hn hh htime] at h
        cases h

/-- Without both answers of the chain a broadcast tells of nothing and submits nothing. -/
theorem silent_of_not_locates
    (h : ∀ networkId head named looked,
      ¬ chain.Locates limit ⟨services, time⟩ networkId head named looked) :
    let ending := b.send relay chain bundle bundleHash limit ⟨⟨services, journal⟩, time⟩
    ending.2.state.journal.events = journal.events ∧
      ending.2.state.journal.submissions = journal.submissions := by
  dsimp only
  rcases hn : Timed.call chain.networkId limit ⟨services, time⟩ with ⟨_ | e | networkId, named⟩
  · rw [send_of_never_named hn]
    exact Journal.quiet_called journal [(time, .networkId)] rfl
  · rw [send_of_unnamed hn]
    exact Journal.quiet_called journal [(time, .networkId)] rfl
  · rcases hh : Timed.call chain.blockNumber limit named with ⟨_ | e | head, looked⟩
    · rw [send_of_never_looked hn hh]
      exact Journal.quiet_called journal [(time, .networkId), (named.now, .blockNumber)] rfl
    · rw [send_of_headless hn hh]
      exact Journal.quiet_called journal [(time, .networkId), (named.now, .blockNumber)] rfl
    · exact absurd ⟨hn, hh⟩ (h networkId head named looked)

/-- A broadcast never changes what a bundle holds.  Where the chain cannot tell its network, the
bundle is as it was; where it cannot tell its newest block, only the builders are new; and in
neither case does anybody hear of the bundle.  Otherwise the operator is told of the bundle for the
builders of the network and for the block after the newest one, whatever routing it came with; and
right after that the relay gets that very bundle, if the wait for it has a deadline. -/
theorem send_routes (b : Broadcast) (relay : Relay σ) (chain : Chain σ) (bundle : Bundle)
    (bundleHash : Digest) (limit : Option Nat) (start : Moment (Session σ)) :
    Routes b relay chain bundle bundleHash limit start
      (b.send relay chain bundle bundleHash limit start) := by
  obtain ⟨⟨services, journal⟩, time⟩ := start
  exact
    { same_transactions := fun _ _ => same_transactions_of_some
      unnamed := fun _ _ => send_of_unnamed
      headless := fun _ _ _ _ => send_of_headless
      silent := silent_of_not_locates
      dispatches := fun _ _ _ _ h hhead htime =>
        ⟨_, _, dispatches_of_locates b relay bundle bundleHash journal h hhead htime⟩
      strands := fun _ _ _ _ h => send_halts relay bundle bundleHash journal h.names h.looks }

/-- A relay that keeps the bundles it is given and sees each of them mined. -/
def keeper : Relay (List Bundle) where
  updateFeeRefund _ := return .ok ()
  simulate _ _ := return .error (.http "no simulations")
  sendAndAwait bundle _ _ := do
    Timed.update (bundle :: ·)
    return .ok true

def mainnetAt (head : UInt64) : Chain σ where
  networkId := .steady (.after 3 (.ok Network.mainnet))
  blockNumber := .steady (.after 4 (.ok head))
  inclusionBlock _ := .steady .never

/-- A bundle that is left from a broadcast over a test network reaches the relay with the routing of
the main network. -/
theorem stale_bundle_rerouted :
    let stale : Bundle :=
      { (Inhabited.default : Bundle) with targetBlock := some 7, builders := ["relic"] }
    let ending := default.send keeper (mainnetAt 19) stale (.zero 32) none ⟨.new [], 0⟩
    (mainnetAt 19).Locates none ⟨([] : List Bundle), 0⟩ Network.mainnet 19 ⟨[], 3⟩ ⟨[], 7⟩ ∧
      (19 : UInt64).toNat + 1 < UInt64.size ∧ default.HasDeadline 7 ∧
      ∃ target sent, target.toNat = 20 ∧ sent =
          { stale with targetBlock := some target, builders := Network.mainnetBuilders } ∧
        ending.2.state.services = [sent] ∧ ∃ r, ending.1 = some (r, sent) := by
  intro stale ending
  have hlocates : (mainnetAt 19).Locates none ⟨([] : List Bundle), 0⟩ Network.mainnet 19 ⟨[], 3⟩
      ⟨[], 7⟩ := ⟨rfl, rfl⟩
  have hhead : (19 : UInt64).toNat + 1 < UInt64.size := by decide
  have htime : default.HasDeadline 7 := by decide +kernel
  have hroutes : Routes default keeper (mainnetAt 19) stale (.zero 32) none ⟨.new [], 0⟩ ending :=
    send_routes ..
  obtain ⟨target, sent, h⟩ := hroutes.dispatches _ _ _ _ hlocates hhead htime
  have hkept : ending.2.state.services = [sent] := h.received.trans rfl
  exact ⟨hlocates, hhead, htime, target, sent, h.target_eq, h.sent_eq, hkept, h.ends rfl⟩

/-- The chain answers both questions and the departure is told, but the relay gets nothing of the
bundle, and there is no result. -/
theorem endless_bundle_kept_back :
    let ending := endless.send keeper (mainnetAt 19) Inhabited.default (.zero 32) none ⟨.new [], 0⟩
    (mainnetAt 19).Locates none ⟨([] : List Bundle), 0⟩ Network.mainnet 19 ⟨[], 3⟩ ⟨[], 7⟩ ∧
      (19 : UInt64).toNat + 1 < UInt64.size ∧
      ending.2.state.journal.events =
        [.bundleSent (.zero 32) 20 Network.mainnetBuilders.length 0xffffffffffffffff] ∧
      ending.2.state.services = [] ∧ ending.1 = none := by
  intro ending
  have hn : Timed.call (mainnetAt 19).networkId none ⟨([] : List Bundle), 0⟩ =
      (some (.ok Network.mainnet), ⟨[], 3⟩) := rfl
  have hh : Timed.call (mainnetAt 19).blockNumber none ⟨([] : List Bundle), 3⟩ =
      (some (.ok 19), ⟨[], 7⟩) := rfl
  have hending : ending = _ := send_halts keeper Inhabited.default (.zero 32) [] hn hh
    (not_hasDeadline_endless 7)
  rw [hending]
  exact ⟨⟨hn, hh⟩, by decide, rfl, rfl, rfl⟩

end Broadcast
end ArbBundle
