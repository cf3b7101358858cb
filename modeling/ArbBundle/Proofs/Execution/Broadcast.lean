import ArbBundle.Execution.Broadcast
import ArbBundle.Proofs.Execution.Journal

/-!
# Broadcast — a broadcast, up to the wait at its end

- `Broadcast.deadlineFrom`: when a wait that begins at a time is over
- `Broadcast.HasDeadline`: the clock reaches that far
- `Broadcast.supervised`: the submission under its deadline
- `Broadcast.awaitInclusion_apply`, `Broadcast.awaitInclusion_halts`: a wait is that submission, and
  the verdict on it; where the clock does not reach to its end, it breaks off
- `Broadcast.send_apply`, `Broadcast.send_halts`: where the chain answers, a broadcast tells of the
  bundle and comes to what the wait comes to
-/

namespace ArbBundle

/-- The bundle as it is submitted on a network with a newest block. -/
def Bundle.routed (bundle : Bundle) (networkId head : UInt64) : Bundle :=
  (bundle.withKnownBuilders networkId).withTarget (head + 1)

namespace Broadcast

variable {σ : Type} {limit : Option Nat} {m : Moment (Session σ)}

/-- When a wait that begins at a time is over. -/
def deadlineFrom (b : Broadcast) (start : Nat) : Nat :=
  start + b.inclusionTimeoutSecs.toNat * 1000

/-- The clock can show the end of a wait that begins at a time. -/
def HasDeadline (b : Broadcast) (start : Nat) : Prop :=
  b.deadlineFrom start < Timed.clockEnd

instance (b : Broadcast) (start : Nat) : Decidable (b.HasDeadline start) :=
  inferInstanceAs (Decidable (_ < _))

/-- A monitor has a deadline where the clock can show it, and then it is the end of the window. -/
theorem deadline?_new (b : Broadcast) (start : Nat) :
    (InclusionMonitor.new b.inclusionTimeoutSecs).deadline? start =
      if b.HasDeadline start then some (b.deadlineFrom start) else none :=
  rfl

/-- The longest window that there is. -/
def endless : Broadcast :=
  { default with inclusionTimeoutSecs := 0xffffffffffffffff }

/-- The longest window ends behind the clock, whenever it begins. -/
theorem not_hasDeadline_endless (start : Nat) : ¬ endless.HasDeadline start :=
  Nat.not_lt.2 (Nat.le_trans (by decide +kernel) (Nat.le_add_left _ start))

/-- The submission of a bundle, which ends at a deadline at the latest. -/
def supervised (b : Broadcast) (relay : Relay σ) (bundle : Bundle) (deadline : Nat) :
    Timed (Session σ) (Option (Except TransportError Bool)) :=
  Timed.within deadline (Session.perform (.sendAndAwait bundle b.retryRounds deadline)
    (relay.sendAndAwait bundle b.retryRounds deadline))

/-- With a deadline, the wait is the submission under this deadline and the verdict on it. -/
theorem awaitInclusion_apply {b : Broadcast} (relay : Relay σ) (bundle : Bundle)
    (h : b.HasDeadline m.now) :
    b.awaitInclusion relay bundle limit m =
      (InclusionMonitor.verdict <$> b.supervised relay bundle (b.deadlineFrom m.now)) limit m := by
  let waiting := b.supervised relay bundle (b.deadlineFrom m.now)
  let settled := fun r => (InclusionMonitor.new b.inclusionTimeoutSecs).settle
    (InclusionMonitor.verdict r)
  have hwatch : b.awaitInclusion relay bundle limit m =
      ((waiting >>= fun r => pure (InclusionMonitor.verdict r, settled r)) >>= fun w =>
        pure w.1) limit m := by
    unfold awaitInclusion
    rw [Timed.bind_of_some (Timed.now_apply limit m), deadline?_new, if_pos h]
    rfl
  rw [hwatch, bind_assoc, ← bind_pure_comp]
  simp only [pure_bind]
  rfl

/-- Without a deadline nothing is submitted, and nothing comes of the wait. -/
theorem awaitInclusion_halts {b : Broadcast} (relay : Relay σ) (bundle : Bundle)
    (h : ¬ b.HasDeadline m.now) : b.awaitInclusion relay bundle limit m = (none, m) := by
  unfold awaitInclusion
  rw [Timed.bind_of_some (Timed.now_apply limit m), deadline?_new, if_neg h]
  rfl

/-- The wait ends with the submission, or else at the deadline. -/
theorem supervised_of {b : Broadcast} (relay : Relay σ) {bundle : Bundle} {deadline time : Nat}
    {services : σ} (journal : Journal) {result : Option (Except TransportError Bool)}
    {ended : Moment σ}
    (h : relay.sendAndAwait bundle b.retryRounds deadline (some deadline) ⟨services, time⟩ =
      (result, ended)) (hended : ended.now ≤ deadline) :
    ∃ m', b.supervised relay bundle deadline none ⟨⟨services, journal⟩, time⟩ =
        (some result, m') ∧
      m'.state.services = ended.state ∧ m'.now = result.elim deadline fun _ => ended.now := by
  let call : Call := .sendAndAwait bundle b.retryRounds deadline
  have hp : Session.perform call (relay.sendAndAwait bundle b.retryRounds deadline)
      (some deadline) ⟨⟨services, journal⟩, time⟩ =
      (result, ⟨⟨ended.state, journal ++ [⟨time, .called call⟩]⟩, ended.now⟩) :=
    Session.perform_of call h
  cases result with
  | none =>
      exact ⟨_, Timed.within_of_none hp hended, rfl, rfl⟩
  | some r =>
      exact ⟨_, Timed.within_of_some hp, rfl, rfl⟩

/-- What a broadcast over a network tells of its wait. -/
def told (networkId target : UInt64) :
    Except TransportError InclusionState → Except BroadcastError BroadcastReport
  | .error source => .error ⟨.inclusion, source⟩
  | .ok state => .ok ⟨networkId, target, state⟩

variable {networkId target : UInt64} {result : Option (Except TransportError Bool)}

/-- Inclusion is told just where the submission has seen the transaction mined. -/
theorem told_included_iff :
    told networkId target (InclusionMonitor.verdict result) = .ok ⟨networkId, target, .included⟩ ↔
      result = some (.ok true) := by
  rcases result with _ | e | _ | _ <;> simp [told, InclusionMonitor.verdict]

/-- An error is told just where the submission has come to it. -/
theorem told_error_iff {e : TransportError} :
    told networkId target (InclusionMonitor.verdict result) = .error ⟨.inclusion, e⟩ ↔
      result = some (.error e) := by
  rcases result with _ | e | _ | _ <;> simp [told, InclusionMonitor.verdict]

/-- A timeout is told just where the submission was cut off or has seen nothing. -/
theorem told_timedOut_iff :
    told networkId target (InclusionMonitor.verdict result) = .ok ⟨networkId, target, .timedOut⟩ ↔
      result = none ∨ result = some (.ok false) := by
  rcases result with _ | e | _ | _ <;> simp [told, InclusionMonitor.verdict]

theorem told_cases (networkId target : UInt64) (result : Option (Except TransportError Bool)) :
    let report := told networkId target (InclusionMonitor.verdict result)
    report = .ok ⟨networkId, target, .included⟩ ∨ (∃ e, report = .error ⟨.inclusion, e⟩) ∨
      report = .ok ⟨networkId, target, .timedOut⟩ := by
  rcases result with _ | e | _ | _ <;> simp [told, InclusionMonitor.verdict]

/-- What a broadcast over a chain that answers has put into the journal by the time it submits. -/
def heralds (b : Broadcast) (bundleHash : Digest) (sent : Bundle) (target : UInt64)
    (start named looked : Nat) : Journal :=
  [⟨start, .called .networkId⟩, ⟨named, .called .blockNumber⟩,
    ⟨looked, .reported (.bundleSent bundleHash target sent.builders.length b.inclusionTimeoutSecs)⟩]

/-- Once the chain has told its network and its newest block, a broadcast tells of the bundle and
waits for it. -/
theorem send_apply (b : Broadcast) (relay : Relay σ) {chain : Chain σ} (bundle : Bundle)
    (bundleHash : Digest) {services : σ} {time : Nat} {located routed : Moment σ}
    {networkId head : UInt64} (journal : Journal)
    (hn : Timed.call chain.networkId limit ⟨services, time⟩ = (some (.ok networkId), located))
    (hh : Timed.call chain.blockNumber limit located = (some (.ok head), routed)) :
    b.send relay chain bundle bundleHash limit ⟨⟨services, journal⟩, time⟩ =
      ((fun waited => (told networkId (head + 1) waited, bundle.routed networkId head)) <$>
        b.awaitInclusion relay (bundle.routed networkId head)) limit
          ⟨⟨routed.state, journal ++ b.heralds bundleHash (bundle.routed networkId head) (head + 1)
            time located.now routed.now⟩, routed.now⟩ := by
  have hjournal : journal ++ b.heralds bundleHash (bundle.routed networkId head) (head + 1)
      time located.now routed.now =
      journal ++ [⟨time, .called .networkId⟩] ++ [⟨located.now, .called .blockNumber⟩] ++
        [⟨routed.now, .reported (.bundleSent bundleHash (head + 1)
          (bundle.routed networkId head).builders.length b.inclusionTimeoutSecs)⟩] := by
    simp [heralds]
  rw [hjournal]
  unfold send
  rw [Timed.bind_of_some (Session.perform_of .networkId hn)]
  dsimp only
  rw [Timed.bind_of_some (Session.perform_of .blockNumber hh)]
  dsimp only
  rw [Timed.bind_of_some (Session.report_apply _), ← bind_pure_comp]
  refine congrFun (congrFun (congrArg (b.awaitInclusion relay (bundle.routed networkId head) >>= ·)
    (funext fun waited => ?_)) limit) _
  cases waited <;> rfl

/-- Once the chain has told its network and its newest block, a broadcast comes to what the wait for
the routed bundle comes to. -/
theorem send_of_located (b : Broadcast) (relay : Relay σ) {chain : Chain σ} (bundle : Bundle)
    (bundleHash : Digest) {services : σ} {time : Nat} {located routed : Moment σ}
    {networkId head : UInt64} (journal : Journal)
    (hn : Timed.call chain.networkId limit ⟨services, time⟩ = (some (.ok networkId), located))
    (hh : Timed.call chain.blockNumber limit located = (some (.ok head), routed)) :
    ∃ journal', b.send relay chain bundle bundleHash limit ⟨⟨services, journal⟩, time⟩ =
      ((fun waited => (told networkId (head + 1) waited, bundle.routed networkId head)) <$>
        b.awaitInclusion relay (bundle.routed networkId head)) limit
          ⟨⟨routed.state, journal'⟩, routed.now⟩ :=
  ⟨_, send_apply b relay bundle bundleHash journal hn hh⟩

/-- Once the chain has told its network and its newest block, a broadcast without a deadline tells
of the bundle and breaks off. -/
theorem send_halts {b : Broadcast} (relay : Relay σ) {chain : Chain σ} (bundle : Bundle)
    (bundleHash : Digest) {services : σ} {time : Nat} {located routed : Moment σ}
    {networkId head : UInt64} (journal : Journal)
    (hn : Timed.call chain.networkId limit ⟨services, time⟩ = (some (.ok networkId), located))
    (hh : Timed.call chain.blockNumber limit located = (some (.ok head), routed))
    (htime : ¬ b.HasDeadline routed.now) :
    b.send relay chain bundle bundleHash limit ⟨⟨services, journal⟩, time⟩ =
      (none, ⟨⟨routed.state, journal ++ b.heralds bundleHash (bundle.routed networkId head)
        (head + 1) time located.now routed.now⟩, routed.now⟩) := by
  rw [send_apply b relay bundle bundleHash journal hn hh, Timed.map_apply,
    awaitInclusion_halts relay _ htime]
  rfl

end Broadcast
end ArbBundle
