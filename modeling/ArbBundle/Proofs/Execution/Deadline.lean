import ArbBundle.Proofs.Execution.Broadcast
import ArbBundle.Proofs.Relay.Requests
import ArbBundle.Proofs.Relay.Verdict

/-!
# Deadline — a broadcast over the wire keeps its deadline

The deadline is set twice: the client looks at the clock between its exchanges, and whatever is
still under way at the deadline is cut off.

- `RelayClient.Exhausted`: every round was submitted and watched to its end
- `Rounds.exhausted_of_early`: rounds that miss their transaction before the deadline are exhausted
- `Broadcast.keeps_deadline`: when a broadcast ends, and what it comes to
-/

namespace ArbBundle

open Timed

namespace RelayClient

variable {κ : Type} {c : RelayClient κ} {limit : Option Nat} {deadline : Nat} {txHash : Digest}
  {bundle : Bundle} {start stop : Moment κ} {log : Log κ}

/-! ## Rounds that are used up -/

/-- All rounds are used up: each one was submitted and taken, and watched until the chain told of a
block that is not below the one of the round; a last look found no receipt. -/
inductive Exhausted (bundle : Bundle) : (rounds : Nat) → (block : UInt64) → Log κ → Prop where
  | looked {block : UInt64} {last : Moment κ} {delay : Nat} :
      Exhausted bundle 0 block [(last, .askedReceipt bundle.last.hash (.after delay (.ok none)))]
  | round {rounds id delay delay' : Nat} {block newest : UInt64} {start reached : Moment κ}
      {signed : SignedRequest} {response : HttpResponse} {watch log : Log κ} :
      (RelayRequest.sendBundle bundle.encodings block bundle.builders).fault? response = none →
      (∀ x ∈ watch, x.2.posting? = none) → block ≤ newest →
      Exhausted bundle rounds (block + 1) log →
      Exhausted bundle (rounds + 1) block
        ((start, .posted (.sendBundle bundle.encodings block bundle.builders) id signed
            (.after delay (.ok response))) ::
          (watch ++ (reached, .askedHead (.after delay' (.ok newest))) :: log))

/-- Rounds that miss their transaction before the deadline are all used up. -/
theorem Rounds.exhausted_of_early {rounds id : Nat} {block : UInt64}
    (h : Rounds c limit deadline bundle rounds block id start log (some (.ok false)) stop)
    (hstop : stop.now < deadline) : Exhausted bundle rounds block log := by
  generalize hmissed : (some (.ok false) : Option (Except TransportError Bool)) = missed at h
  induction h with
  | looked _ hs =>
      exact absurd hmissed.symm hs.ne_missed
  | unseen hover hpass =>
      -- The last look came before the deadline, so it came because the rounds were used up.
      have hle := hpass.start_le
      obtain rfl : _ = 0 := hover.resolve_right (by omega)
      obtain ⟨delay, rfl⟩ := Exchange.unseen_of_undecided hpass.ends hpass.undecided
      exact .looked
  | unsubmitted _ _ hs =>
      exact absurd hmissed.symm hs.ne_missed
  | watched _ _ _ _ hne =>
      exact absurd hmissed.symm hne
  | next _ he hpass hwatch hrest ih =>
      have hle := hrest.course.start_le
      obtain ⟨signed, delay, response, rfl, hfault⟩ := he.taken_of_passes hpass
      obtain ⟨watch, reached, delay', newest, rfl, hquiet, hblock⟩ :=
        hwatch.reached_of_early (by omega)
      rw [List.cons_append, List.append_assoc]
      exact .round hfault hquiet hblock (ih hstop hmissed)

end RelayClient

/-! ## The end of a broadcast -/

namespace Broadcast

open RelayClient

variable {κ : Type}

/-- Under its deadline, a submission through a client goes one of the ways of its rounds, and is
over at the deadline. -/
theorem supervised_rounds (b : Broadcast) (c : RelayClient κ) (bundle : Bundle) {first : UInt64}
    {deadline : Nat} (journal : Journal) {m : Moment (State κ)}
    (htarget : bundle.targetBlock = some first) (hm : m.now ≤ deadline) :
    ∃ result log ended m', b.supervised c.relay bundle deadline none
        ⟨⟨m.state, journal⟩, m.now⟩ = (some result, m') ∧
      m'.state.services.exchanges = log.noted.reverse ++ m.state.exchanges ∧
      Rounds c (some deadline) deadline bundle b.retryRounds.toNat first m.state.nextId (around m)
        log result ended ∧
      m'.now = result.elim deadline fun _ => ended.now := by
  rcases hrun : c.sendAndAwait bundle b.retryRounds deadline (some deadline) m with ⟨result, ended⟩
  have hsend := hrun
  simp only [sendAndAwait, htarget] at hsend
  obtain ⟨log, requests, hx, hrounds⟩ := sendRounds_rounds hsend
  obtain ⟨m', hsup, hs, hnow⟩ := supervised_of c.relay journal hrun (hrounds.course.stop_le hm)
  exact ⟨result, log, around ended, m', hsup, hs ▸ hx.exchanges, hrounds, hnow⟩

/-- Once the chain has told its network and its newest block, a broadcast through a client is over
at its deadline, and begins no exchange behind it.  It reports an inclusion if and only if a look at
the receipt of the last transaction finds it mined by then, and an error if and only if one of its
exchanges has failed with it by then; otherwise it has timed out, and if it has done so before the
deadline, then all its rounds are used up. -/
theorem keeps_deadline (b : Broadcast) (c : RelayClient κ) (bundle : Bundle) (bundleHash : Digest)
    (journal : Journal) {start located routed : Moment (State κ)} {networkId head : UInt64}
    (hn : Timed.call c.watched.networkId none start = (some (.ok networkId), located))
    (hh : Timed.call c.watched.blockNumber none located = (some (.ok head), routed))
    (htime : b.HasDeadline routed.now) :
    let sent := bundle.routed networkId head
    let deadline := b.deadlineFrom routed.now
    ∃ report m' log ended,
      (b.send c.relay c.watched bundle bundleHash).run ⟨⟨start.state, journal⟩, start.now⟩ =
        (some (report, sent), m') ∧
      m'.state.services.exchanges = log.noted.reverse ++ start.state.exchanges ∧
      log.Path c (around routed) ended ∧
      m'.now ≤ deadline ∧
      (∀ x ∈ log, routed.now ≤ x.1.now ∧ x.1.now ≤ deadline) ∧
      (report = .ok ⟨networkId, head + 1, .included⟩ ↔
        ∃ x ∈ log, x.2.Sights sent.last.hash ∧ x.2.EndsBy deadline x.1.now) ∧
      (∀ e, report = .error ⟨.inclusion, e⟩ ↔
        ∃ x ∈ log, x.2.failure? = some e ∧ x.2.EndsBy deadline x.1.now) ∧
      (report = .ok ⟨networkId, head + 1, .included⟩ ∨ (∃ e, report = .error ⟨.inclusion, e⟩) ∨
        report = .ok ⟨networkId, head + 1, .timedOut⟩) ∧
      (report = .ok ⟨networkId, head + 1, .timedOut⟩ → m'.now < deadline →
        Exhausted sent b.retryRounds.toNat (head + 1) log) := by
  intro sent deadline
  obtain ⟨journal', hsend⟩ := send_of_located b c.relay bundle bundleHash journal hn hh
  have hopen : routed.now ≤ deadline := Nat.le_add_right _ _
  obtain ⟨result, log, ended, m', hsup, hlog, hrounds, hnow⟩ :=
    supervised_rounds b c sent journal' rfl hopen
  have hcourse := hrounds.course
  have hended := hcourse.stop_le hopen
  -- What is cut off ends at the deadline, and everything else where the submission ends.
  have hm' : ended.now ≤ m'.now ∧ m'.now ≤ deadline := by
    rw [hnow]
    cases result with
    | none => exact ⟨hended, Nat.le_refl _⟩
    | some r => exact ⟨Nat.le_refl _, hended⟩
  have hends (x : Moment κ × Exchange) (hx : x ∈ log) :
      x.2.Ends (some deadline) x.1.now ↔ x.2.EndsBy deadline x.1.now :=
    Exchange.ends_iff (Nat.le_trans (hcourse.times x hx).2 hended)
  have hexchanges : routed.state.exchanges = start.state.exchanges :=
    (call_aside c.chain.blockNumber hh).1.trans (call_aside c.chain.networkId hn).1
  refine ⟨told networkId (head + 1) (InclusionMonitor.verdict result), m', log, ended, ?_,
    hexchanges ▸ hlog, hcourse.path, hm'.2, fun x hx => ?_, ?_, fun e => ?_,
    told_cases networkId (head + 1) result, fun htimed hearly => ?_⟩
  · rw [Timed.run, hsend, map_apply, awaitInclusion_apply c.relay _ htime, map_apply, hsup]
    rfl
  · exact ⟨(hcourse.times x hx).1, Nat.le_trans (hcourse.times x hx).2 hended⟩
  · rw [told_included_iff, hcourse.included_iff]
    exact exists_congr fun x => and_congr_right fun hx => and_congr_right fun _ => hends x hx
  · rw [told_error_iff, hcourse.failed_iff]
    exact exists_congr fun x => and_congr_right fun hx => and_congr_right fun _ => hends x hx
  · rcases told_timedOut_iff.1 htimed with rfl | rfl
    · exact absurd hearly (by rw [hnow]; exact Nat.lt_irrefl _)
    · exact hrounds.exhausted_of_early (Nat.lt_of_le_of_lt hm'.1 hearly)

/-- A broadcast whose bundle is mined in the second round is over within the minute that it is
given, and reports what it has seen. -/
theorem heeded_broadcast_ends :
    let start : Moment (State ChainScript) :=
      ⟨.new { ripening with heads := .ok 4 :: ripening.heads }, 0⟩
    let routed : Moment (State ChainScript) := ⟨.new ripening, 0⟩
    Timed.call heeded.watched.networkId none start = (some (.ok 17000), start) ∧
      Timed.call heeded.watched.blockNumber none start = (some (.ok 4), routed) ∧
      Broadcast.default.HasDeadline routed.now ∧
      ∃ (m' : Moment (Session (State ChainScript))) (log : Log ChainScript),
        (Broadcast.default.send heeded.relay heeded.watched blankBundle (.zero 32)).run
            ⟨⟨start.state, []⟩, start.now⟩ =
          (some (.ok ⟨17000, 5, .included⟩, blankBundle.routed 17000 4), m') ∧
        m'.state.services.exchanges = log.noted.reverse ∧ m'.now ≤ 60000 ∧
        ∃ x ∈ log, x.2.Sights blankBundle.last.hash ∧ x.2.EndsBy 60000 x.1.now := by
  intro start routed
  have hn : Timed.call heeded.watched.networkId none start = (some (.ok 17000), start) := rfl
  have hh : Timed.call heeded.watched.blockNumber none start = (some (.ok 4), routed) := rfl
  have htime : Broadcast.default.HasDeadline routed.now := by
    change Broadcast.default.HasDeadline 0
    decide +kernel
  have hd : Broadcast.default.deadlineFrom routed.now = 60000 := by decide
  obtain ⟨report, m', log, ended, hrun, hlog, -, hnow, -, hincluded, -⟩ :=
    keeps_deadline Broadcast.default heeded blankBundle (.zero 32) [] hn hh htime
  rw [hd] at hnow hincluded
  -- What the client has seen under the deadline is what the broadcast reports.
  have hrouted : blankBundle.routed 17000 4 = blankBundle := rfl
  have hearly : 1000 ≤ 60000 := by decide
  obtain ⟨first, second, hawait⟩ := heeded_run (inTime_some.2 hearly)
  obtain ⟨journal', hsend⟩ := send_of_located Broadcast.default heeded.relay blankBundle (.zero 32)
    [] hn hh
  obtain ⟨m'', hsup, -, -⟩ : ∃ m'', Broadcast.default.supervised heeded.relay blankBundle 60000 none
      ⟨⟨routed.state, journal'⟩, routed.now⟩ = (some (some (.ok true)), m'') ∧ _ :=
    supervised_of heeded.relay journal' hawait hearly
  have hreport : report = .ok ⟨17000, 5, .included⟩ := by
    rw [Timed.run, hsend, map_apply, awaitInclusion_apply _ _ htime, map_apply, hd, hrouted,
      hsup] at hrun
    exact (congrArg Prod.fst (Option.some.inj (congrArg Prod.fst hrun))).symm
  subst hreport
  exact ⟨hn, hh, htime, m', log, hrun, hlog.trans (List.append_nil _), hnow, hincluded.1 rfl⟩

/-- The chain answers both questions, but with the longest window the broadcast comes to no result,
and the client has not turned to anyone. -/
theorem endless_broadcast_unfinished :
    let start : Moment (State ChainScript) :=
      ⟨.new { ripening with heads := .ok 4 :: ripening.heads }, 0⟩
    let routed : Moment (State ChainScript) := ⟨.new ripening, 0⟩
    Timed.call heeded.watched.networkId none start = (some (.ok 17000), start) ∧
      Timed.call heeded.watched.blockNumber none start = (some (.ok 4), routed) ∧
      ∃ m' : Moment (Session (State ChainScript)),
        (endless.send heeded.relay heeded.watched blankBundle (.zero 32)).run
            ⟨⟨start.state, []⟩, start.now⟩ = (none, m') ∧ m'.state.services.exchanges = [] := by
  intro start routed
  have hn : Timed.call heeded.watched.networkId none start = (some (.ok 17000), start) := rfl
  have hh : Timed.call heeded.watched.blockNumber none start = (some (.ok 4), routed) := rfl
  exact ⟨hn, hh, _, send_halts heeded.relay blankBundle (.zero 32) [] hn hh
    (not_hasDeadline_endless routed.now), rfl⟩

end Broadcast
end ArbBundle
