import ArbBundle.Proofs.Relay.Submissions
import ArbBundle.Proofs.Verification
import Mathlib.Algebra.Order.Floor.Div

/-!
# Effort — how much a submission does before it is over

Nothing counts the looks at the receipt.  They are few all the same: behind the first look of a
round each one comes after a pause, and a pause takes a whole interval or reaches the deadline.

- `RelayClient.Log.looks`: how often a receipt was looked at
- `RelayClient.ceilDiv_lt_of_pause`: a pause uses up one of the intervals that are left
- `Watch.looks_le`, `Rounds.looks_le`: the looks are paid for by rounds and intervals
- `Course.finished_of_ends`: a wait in which every exchange ends comes to its end
- `RelayClient.ends_within_bounds`: a submission under settings that pass their checks
-/

namespace ArbBundle

open Timed

namespace Exchange

def isLook : Exchange → Bool
  | .askedReceipt _ _ => true
  | _ => false

end Exchange

namespace RelayClient

variable {κ : Type} {c : RelayClient κ} {limit : Option Nat} {deadline : Nat} {txHash : Digest}
  {bundle : Bundle} {start stop : Moment κ} {log log' : Log κ}
  {result : Option (Except TransportError Bool)}

def Log.looks (log : Log κ) : Nat :=
  log.countP fun x => x.2.isLook

theorem Log.looks_eq (log : Log κ) : log.looks = log.noted.countP fun x => x.2.isLook := by
  rw [looks, noted, List.countP_map]
  rfl

theorem Log.looks_append : (log ++ log').looks = log.looks + log'.looks :=
  List.countP_append

theorem Log.looks_cons {x : Moment κ × Exchange} :
    Log.looks (x :: log) = log.looks + if x.2.isLook then 1 else 0 :=
  List.countP_cons

theorem Log.looks_attempt {request : RelayRequest} {id : Nat} {e : Exchange}
    (h : Attempts request id e) : Log.looks ((start, e) :: log) = log.looks := by
  cases h <;> rfl

/-! ## Pauses -/

/-- A pause before the deadline takes an interval, or as much of one as is left. -/
theorem pauseLength_eq (hpoll : c.pollIntervalMs ≠ 0) {left : Nat} (hleft : left ≠ 0) :
    c.pauseLength left = min c.pollIntervalMs left := by
  unfold pauseLength
  omega

/-- A pause uses up one of the intervals that are left. -/
theorem ceilDiv_lt_of_pause (hpoll : c.pollIntervalMs ≠ 0) {left : Nat} (hleft : left ≠ 0) :
    (left - c.pauseLength left) ⌈/⌉ c.pollIntervalMs < left ⌈/⌉ c.pollIntervalMs := by
  have hpos : 0 < c.pollIntervalMs := Nat.pos_of_ne_zero hpoll
  -- The intervals cover what is left, and all but one of them cover what the pause leaves.
  have hcover : left ≤ c.pollIntervalMs * (left ⌈/⌉ c.pollIntervalMs) :=
    (ceilDiv_le_iff_le_mul hpos).1 (Nat.le_refl _)
  obtain ⟨intervals, hintervals⟩ : ∃ n, left ⌈/⌉ c.pollIntervalMs = n + 1 := by
    refine Nat.exists_eq_succ_of_ne_zero fun hzero => ?_
    rw [hzero] at hcover
    omega
  rw [hintervals, Nat.mul_succ] at hcover
  rw [hintervals, Nat.lt_succ_iff, ceilDiv_le_iff_le_mul hpos, pauseLength_eq hpoll hleft]
  omega

/-- As time goes by, the intervals that are left become no more. -/
theorem ceilDiv_le_of_le (deadline : Nat) (hpoll : c.pollIntervalMs ≠ 0) {earlier later : Nat}
    (h : earlier ≤ later) :
    (deadline - later) ⌈/⌉ c.pollIntervalMs ≤ (deadline - earlier) ⌈/⌉ c.pollIntervalMs := by
  have hpos : 0 < c.pollIntervalMs := Nat.pos_of_ne_zero hpoll
  exact (gc_mul_ceilDiv hpos).monotone_l (Nat.sub_le_sub_left h deadline)

/-! ## Looks -/

/-- A round looks once, and once more for each interval that it uses up. -/
theorem Watch.looks_le (hpoll : c.pollIntervalMs ≠ 0) {block : UInt64}
    (h : Watch c limit deadline block txHash start log result stop) :
    log.looks + (deadline - stop.now) ⌈/⌉ c.pollIntervalMs ≤
      (deadline - start.now) ⌈/⌉ c.pollIntervalMs + 1 := by
  -- A watch that does not come to a pause looks once.
  have hsingle {start stop : Moment κ} {log : Log κ} {result : Option (Except TransportError Bool)}
      (h : Watch c limit deadline block txHash start log result stop) (hlooks : log.looks = 1) :
      log.looks + (deadline - stop.now) ⌈/⌉ c.pollIntervalMs ≤
        (deadline - start.now) ⌈/⌉ c.pollIntervalMs + 1 := by
    have hmono := ceilDiv_le_of_le deadline hpoll h.course.start_le
    omega
  induction h with
  | settled hstop =>
      exact hsingle (.settled hstop) rfl
  | blind hpass hstop =>
      exact hsingle (.blind hpass hstop) rfl
  | closed hpass hpass' hover =>
      exact hsingle (.closed hpass hpass' hover) rfl
  | asleep hpass hpass' hlow htime hstop =>
      exact hsingle (.asleep hpass hpass' hlow htime hstop) rfl
  | again hpass hpass' hlow htime hpass'' hrest ih =>
      rename_i start looked idle next stop delay receipt newest log result
      -- The pause pays for the first look behind it.
      have hidle := ceilDiv_le_of_le deadline hpoll
        (Nat.le_trans hpass.start_le hpass'.start_le)
      have hpause := ceilDiv_lt_of_pause hpoll (Nat.sub_ne_zero_of_lt htime)
      have hnext : next.now = idle.now + c.pauseLength (deadline - idle.now) := by
        obtain ⟨_, hdelay, -, hnext⟩ := hpass''.in_time
        cases hdelay
        exact hnext
      rw [Nat.sub_sub, ← hnext] at hpause
      have hlooks : Log.looks ((start, .askedReceipt txHash receipt) ::
          (looked, .askedHead (.after delay (.ok newest))) ::
          (idle, .paused (c.pauseLength (deadline - idle.now))) :: log) = log.looks + 1 := by
        simp [Log.looks_cons, Exchange.isLook]
      omega

/-- All rounds together look once each, once for each interval that is left, and once at the end. -/
theorem Rounds.looks_le (hpoll : c.pollIntervalMs ≠ 0) {rounds id : Nat} {block : UInt64}
    (h : Rounds c limit deadline bundle rounds block id start log result stop) :
    log.looks ≤ rounds + (deadline - start.now) ⌈/⌉ c.pollIntervalMs + 1 := by
  induction h with
  | looked _ _ | unseen _ _ =>
      exact Nat.le_add_left 1 _
  | unsubmitted _ he _ =>
      rw [Log.looks_attempt he]
      exact Nat.zero_le _
  | watched _ he hpass hwatch _ =>
      have hmono := ceilDiv_le_of_le deadline hpoll hpass.start_le
      have hlooks := hwatch.looks_le hpoll
      rw [Log.looks_attempt he]
      omega
  | next _ he hpass hwatch _ ih =>
      have hmono := ceilDiv_le_of_le deadline hpoll hpass.start_le
      have hlooks := hwatch.looks_le hpoll
      rw [List.cons_append, Log.looks_attempt he, Log.looks_append]
      omega

/-! ## Whole waits -/

/-- A pause begins before the deadline, and takes an interval or what is left of it. -/
def PausesBy (c : RelayClient κ) (deadline : Nat) (x : Moment κ × Exchange) : Prop :=
  ∀ delay, x.2 = .paused delay → x.1.now < deadline ∧ delay = c.pauseLength (deadline - x.1.now)

theorem pausesBy_attempt {request : RelayRequest} {id : Nat} {e : Exchange}
    (h : Attempts request id e) : c.PausesBy deadline (start, e) := by
  cases h <;> exact nofun

/-- In the wait of one round, no pause begins behind the deadline or outlasts it. -/
theorem Watch.pausesBy {block : UInt64}
    (h : Watch c limit deadline block txHash start log result stop) :
    ∀ x ∈ log, c.PausesBy deadline x := by
  have hpaused {idle : Moment κ} (htime : idle.now < deadline) :
      c.PausesBy deadline (idle, .paused (c.pauseLength (deadline - idle.now))) := by
    intro delay hdelay
    cases hdelay
    exact ⟨htime, rfl⟩
  induction h with
  | settled _ =>
      exact List.forall_mem_singleton.2 nofun
  | blind _ _ | closed _ _ _ =>
      exact List.forall_mem_cons.2 ⟨nofun, List.forall_mem_singleton.2 nofun⟩
  | asleep _ _ _ htime _ =>
      exact List.forall_mem_cons.2 ⟨nofun, List.forall_mem_cons.2 ⟨nofun,
        List.forall_mem_singleton.2 (hpaused htime)⟩⟩
  | again _ _ _ htime _ _ ih =>
      exact List.forall_mem_cons.2 ⟨nofun, List.forall_mem_cons.2 ⟨nofun,
        List.forall_mem_cons.2 ⟨hpaused htime, ih⟩⟩⟩

/-- Nor does a pause of any round. -/
theorem Rounds.pausesBy {rounds id : Nat} {block : UInt64}
    (h : Rounds c limit deadline bundle rounds block id start log result stop) :
    ∀ x ∈ log, c.PausesBy deadline x := by
  induction h with
  | looked _ _ | unseen _ _ =>
      exact List.forall_mem_singleton.2 nofun
  | unsubmitted _ he _ =>
      exact List.forall_mem_singleton.2 (pausesBy_attempt he)
  | watched _ he _ hwatch _ =>
      exact List.forall_mem_cons.2 ⟨pausesBy_attempt he, hwatch.pausesBy⟩
  | next _ he _ hwatch _ ih =>
      exact List.forall_mem_append.2
        ⟨List.forall_mem_cons.2 ⟨pausesBy_attempt he, hwatch.pausesBy⟩, ih⟩

/-- A wait in which every exchange ends in time comes to its end. -/
theorem Course.finished_of_ends (h : Course c limit txHash start log result stop)
    (hends : ∀ x ∈ log, x.2.Ends limit x.1.now) : ∃ r, result = some r := by
  induction h with
  | missed =>
      exact ⟨_, rfl⟩
  | ended _ hstop =>
      cases hstop with
      | decided _ _ _ _ _ =>
          exact ⟨_, rfl⟩
      | cut _ hcut _ =>
          obtain ⟨delay, hdelay, ha⟩ := hends _ (List.mem_singleton_self _)
          exact absurd ha (hcut delay hdelay)
  | going _ _ _ ih =>
      exact ih (List.forall_mem_cons.1 hends).2

/-- What a log puts on the wire in some rounds is no more than the rounds. -/
theorem Rounds.length_sent_le {rounds id : Nat} {block : UInt64}
    (h : Rounds c limit deadline bundle rounds block id start log result stop) :
    log.sent.length ≤ rounds := by
  obtain ⟨k, hk, hpostings⟩ := h.postings
  rw [Log.length_sent, hpostings, List.length_zipIdx]
  exact ((bundle.resends_submissions block k).mono hk).length_le

/-- Under settings that pass their checks, a submission in which every exchange ends comes to its
end, whatever the chain tells of its head.  It puts no more on the wire than there are rounds; it
looks at the receipt once for each of them, once for each interval between its start and the
deadline, and once more.  Each of its pauses takes an interval or what is left of it until the
deadline, and so none goes past the deadline. -/
theorem ends_within_bounds (config : Config) (c : RelayClient κ) (bundle : Bundle) (deadline : Nat)
    (limit : Option Nat) (m : Moment (State κ)) (hverify : config.verify = .ok ())
    (hpoll : c.pollIntervalMs = config.broadcast.pollIntervalMs.toNat) :
    let rounds := config.broadcast.retryRounds
    let ending := c.sendAndAwait bundle rounds deadline limit m
    rounds ≠ 0 ∧ config.broadcast.inclusionTimeoutSecs ≠ 0 ∧ c.pollIntervalMs ≠ 0 ∧
      ∃ log : Log κ, ending.2.state.exchanges = log.noted.reverse ++ m.state.exchanges ∧
        log.Path c (around m) (around ending.2) ∧
        ((∀ x ∈ log, x.2.Ends limit x.1.now) → ∃ r, ending.1 = some r) ∧
        log.sent.length ≤ rounds.toNat ∧
        log.looks ≤ rounds.toNat + (deadline - m.now) ⌈/⌉ c.pollIntervalMs + 1 ∧
        ∀ x ∈ log, ∀ delay, x.2 = .paused delay →
          delay = min c.pollIntervalMs (deadline - x.1.now) ∧ x.1.now + delay ≤ deadline := by
  intro rounds ending
  obtain ⟨-, -, -, -, -, -, hrounds, htimeout, hinterval⟩ := Config.verify_eq_ok_iff.1 hverify
  have hpositive : c.pollIntervalMs ≠ 0 := by
    rw [hpoll]
    exact fun hzero => hinterval (UInt64.toNat_inj.1 hzero)
  refine ⟨hrounds, htimeout, hpositive, ?_⟩
  cases htarget : bundle.targetBlock with
  | none =>
      -- A bundle without a target is refused at once.
      have hrefused : ending = _ := sendAndAwait_untargeted htarget
      rw [hrefused]
      exact ⟨[], rfl, rfl, fun _ => ⟨_, rfl⟩, Nat.zero_le _, Nat.zero_le _, nofun⟩
  | some first =>
      have hrun : c.sendRounds bundle deadline rounds.toNat first limit m =
          (ending.1, ending.2) := by
        simp only [ending, sendAndAwait, htarget]
      obtain ⟨log, requests, hx, hall⟩ := sendRounds_rounds hrun
      refine ⟨log, hx.exchanges, hall.course.path, hall.course.finished_of_ends,
        hall.length_sent_le, hall.looks_le hpositive, fun x hx delay hdelay => ?_⟩
      obtain ⟨htime, rfl⟩ := hall.pausesBy x hx delay hdelay
      rw [pauseLength_eq hpositive (Nat.sub_ne_zero_of_lt htime)]
      omega

/-- Settings that say no more than they have to. -/
def spareConfig : Config :=
  { Config.default with nodeAddress := ⟨List.replicate 20 1, rfl⟩, builderCommand := "true" }

theorem heededExchanges_end {first second : SignedRequest} :
    ∀ x ∈ heededExchanges first second, x.2.delay?.isSome = true := by
  simp [heededExchanges, Exchange.delay?, takenReply, Reply.delay?]

/-- That client, of which every exchange ends, comes to its end with two submissions, three looks
at the receipt and one pause. -/
theorem heeded_looks_within_minute :
    let start : Moment (State ChainScript) := ⟨.new ripening, 0⟩
    spareConfig.verify = .ok () ∧
      heeded.pollIntervalMs = spareConfig.broadcast.pollIntervalMs.toNat ∧
      ∃ (r : Except TransportError Bool) (m' : Moment (State ChainScript)) (log : Log ChainScript),
        heeded.sendAndAwait blankBundle spareConfig.broadcast.retryRounds 60000 none start =
          (some r, m') ∧
        m'.state.exchanges = log.noted.reverse ∧ (∀ x ∈ log, x.2.Ends none x.1.now) ∧
        log.sent.length = 2 ∧ log.looks = 3 ∧ log.looks ≤ 64 ∧
        ∀ x ∈ log, ∀ delay, x.2 = .paused delay →
          delay = min 1000 (60000 - x.1.now) ∧ x.1.now + delay ≤ 60000 := by
  intro start
  have hverify : spareConfig.verify = .ok () := Config.verify_of_isOk (by decide +kernel)
  obtain ⟨first, second, hrun⟩ : ∃ first second,
      heeded.sendAndAwait blankBundle spareConfig.broadcast.retryRounds 60000 none start =
        (some (.ok true), ⟨⟨ripe, 3, heededExchanges first second⟩, 1000⟩) :=
    heeded_run (nofun : Timed.inTime none 1000)
  obtain ⟨-, -, -, log, hlog, -, hfinished, -, hlooks, hpauses⟩ :=
    ends_within_bounds spareConfig heeded blankBundle 60000 none start hverify rfl
  -- From here on the run is only known by what it leaves.
  generalize heeded.sendAndAwait blankBundle spareConfig.broadcast.retryRounds 60000 none start =
    ending at hrun hlog hfinished ⊢
  have hbound : 3 + (60000 - 0) ⌈/⌉ 1000 + 1 = 64 := by decide
  have hexchanges : ending.2.state.exchanges = log.noted.reverse :=
    hlog.trans (List.append_nil _)
  have hnoted : log.noted = (heededExchanges first second).reverse := by
    rw [← List.reverse_reverse log.noted, ← hexchanges, hrun]
  -- Under no limit, an exchange ends where it takes some time or other.
  have hends : ∀ x ∈ log, x.2.Ends none x.1.now := by
    intro x hx
    have hmem : (x.1.now, x.2) ∈ heededExchanges first second := by
      rw [← List.mem_reverse, ← hnoted]
      exact List.mem_map_of_mem hx
    obtain ⟨delay, hdelay⟩ := Option.isSome_iff_exists.1 (heededExchanges_end _ hmem)
    exact ⟨delay, hdelay, .inr nofun⟩
  obtain ⟨r, hr⟩ := hfinished hends
  have hsent : log.sent.length = 2 := by
    rw [log.sent_eq, hnoted]
    rfl
  have hcount : log.looks = 3 := by
    rw [log.looks_eq, hnoted]
    rfl
  exact ⟨hverify, rfl, r, ending.2, log, Prod.fst_eq_iff.1 hr, hexchanges, hends, hsent, hcount,
    Nat.le_trans hlooks hbound.le, hpauses⟩

end RelayClient
end ArbBundle
