import Mathlib.Data.List.Forall2
import ArbBundle.Execution.Journal
import ArbBundle.Inclusion
import ArbBundle.Proofs.Interruption
import ArbBundle.Relay.Client

/-!
# Waits — what comes of watching one submission after the other

A watch ends when its submission does, as long as that is in time, and at its deadline otherwise.
What it comes to hangs on its own submission alone: a monitor that has watched others before, and
however they came out, tells no other end.

- `Wait`: a submission to be watched, from when on and until when
- `Wait.Settled`: how a watch ends, by what becomes of the submission
- `InclusionMonitor.follow`: one monitor that watches a submission after the other
- `InclusionMonitor.each_watch_settles`: every watch of a monitor ends like this
- `RelayClient.interruptible_sendAndAwait`, `RelayClient.interruptible_submission`: the submissions of
  the client can be watched
-/

namespace ArbBundle

variable {σ : Type}

/-! ## One submission -/

/-- A submission to be watched from its start until its deadline. -/
structure Wait (σ : Type) where
  start : Moment σ
  deadline : Nat
  submission : Timed σ (Except TransportError Bool)
  interruptible : submission.Interruptible

namespace Wait

/-- Left alone, the submission comes to a result at a time. -/
def Resolves (w : Wait σ) (r : Except TransportError Bool) (time : Nat) : Prop :=
  ∃ state, w.submission none w.start = (some r, ⟨state, time⟩)

/-- What happens at a time is in time for the watch: it happens as soon as the watch begins, or the
deadline has not passed. -/
def InTime (w : Wait σ) (time : Nat) : Prop :=
  Timed.OverBy w.deadline w.start.now time

def Brings (w : Wait σ) (r : Except TransportError Bool) : Prop :=
  ∃ time, w.Resolves r time ∧ w.InTime time

/-- How a watch ends: with which result, with the monitor in which state, and when. -/
structure Settled (w : Wait σ) (result : Except TransportError InclusionState)
    (state : InclusionState) (stop : Nat) : Prop where
  /-- A submission that ends in time settles the watch there and then. -/
  resolved : ∀ r time, w.Resolves r time → w.InTime time →
    result = InclusionMonitor.verdict (some r) ∧ stop = time
  /-- Any other is given up when the deadline comes, and not before. -/
  given_up : (∀ r, ¬ w.Brings r) → result = .ok .timedOut ∧ stop = max w.start.now w.deadline
  included_iff : result = .ok .included ↔ w.Brings (.ok true)
  error_iff : ∀ e, result = .error e ↔ w.Brings (.error e)
  timedOut_iff : result = .ok .timedOut ↔ ¬ w.Brings (.ok true) ∧ ∀ e, ¬ w.Brings (.error e)
  terminal : state.isTerminal
  /-- The monitor shows this watch. -/
  shown : (∀ s, result = .ok s → state = s) ∧ (∀ e, result = .error e → state = .transportError)

variable {w : Wait σ} {r r' : Except TransportError Bool} {time time' : Nat}

/-- A submission comes to no two results, nor to one at two times. -/
theorem Resolves.unique (h : w.Resolves r time) (h' : w.Resolves r' time') :
    r = r' ∧ time = time' := by
  obtain ⟨state, h⟩ := h
  obtain ⟨state', h'⟩ := h'
  rw [h] at h'
  cases h'
  exact ⟨rfl, rfl⟩

theorem Brings.unique (h : w.Brings r) (h' : w.Brings r') : r = r' := by
  obtain ⟨_, h, -⟩ := h
  obtain ⟨_, h', -⟩ := h'
  exact (h.unique h').1

theorem Brings.eq_iff (h : w.Brings r) : r = r' ↔ w.Brings r' :=
  ⟨fun heq => heq ▸ h, fun h' => h.unique h'⟩

end Wait

/-! ## One watch -/

namespace InclusionMonitor

/-- What a monitor shows after a result. -/
def shown : Except TransportError InclusionState → InclusionState
  | .ok s => s
  | .error _ => .transportError

/-- A wait shows its result, and leaves the window as it is. -/
theorem settle_eq (m : InclusionMonitor) (result : Except TransportError InclusionState) :
    m.settle result = ⟨m.windowSecs, shown result⟩ := by
  cases result <;> rfl

/-- Behind a wait a monitor shows a final state, whatever the submission came to. -/
theorem isTerminal_shown_verdict (r : Option (Except TransportError Bool)) :
    (shown (verdict r)).isTerminal = true := by
  rcases r with _ | e | b
  · rfl
  · rfl
  · cases b <;> rfl

/-- Results that differ have verdicts that differ. -/
theorem verdict_eq_iff {r r' : Except TransportError Bool} :
    verdict (some r) = verdict (some r') ↔ r = r' := by
  rcases r with e | _ | _ <;> rcases r' with e' | _ | _ <;> simp [verdict]

end InclusionMonitor

namespace Wait

open InclusionMonitor

variable {w : Wait σ} {r : Except TransportError Bool} {time : Nat}

/-- A monitor shows the state that a wait has found, and for an error that the transport failed. -/
theorem shown_spec (result : Except TransportError InclusionState) :
    (∀ s, result = .ok s → shown result = s) ∧
      (∀ e, result = .error e → shown result = .transportError) := by
  cases result <;> simp [shown]

/-- The watch of a submission that comes to a result in time. -/
theorem settled_of_resolves (h : w.Resolves r time) (hin : w.InTime time) :
    w.Settled (verdict (some r)) (shown (verdict (some r))) time := by
  have hb : w.Brings r := ⟨time, h, hin⟩
  have hverdict (r' : Except TransportError Bool) :
      verdict (some r) = verdict (some r') ↔ w.Brings r' := verdict_eq_iff.trans hb.eq_iff
  exact
    { resolved := fun r' time' h' _ => by
        obtain ⟨rfl, rfl⟩ := h.unique h'
        exact ⟨rfl, rfl⟩
      given_up := fun hnone => absurd hb (hnone r)
      included_iff := hverdict (.ok true)
      error_iff := fun e => hverdict (.error e)
      timedOut_iff := by
        refine (hverdict (.ok false)).trans ?_
        simp only [← hb.eq_iff]
        rcases r with e | _ | _ <;> simp
      terminal := isTerminal_shown_verdict _
      shown := shown_spec _ }

/-- The watch of a submission that does not come to a result in time. -/
theorem settled_of_overdue (h : ∀ r, ¬ w.Brings r) :
    w.Settled (verdict none) (shown (verdict none)) (max w.start.now w.deadline) where
  resolved r time hr hin := absurd ⟨time, hr, hin⟩ (h r)
  given_up _ := ⟨rfl, rfl⟩
  included_iff := iff_of_false nofun (h _)
  error_iff _ := iff_of_false nofun (h _)
  timedOut_iff := iff_of_true rfl ⟨h _, fun _ => h _⟩
  terminal := rfl
  shown := shown_spec _

/-- A watch is over, and its end is settled; the monitor keeps its window. -/
def Settles (windowSecs : UInt64) (w : Wait σ)
    (ending : Option (Except TransportError InclusionState × InclusionMonitor) × Moment σ) :
    Prop :=
  ∃ result monitor moment, ending = (some (result, monitor), moment) ∧
    monitor.windowSecs = windowSecs ∧ w.Settled result monitor.state moment.now

end Wait

namespace InclusionMonitor

/-- A watch is the submission under its deadline, with the verdict on what comes of it. -/
theorem watch_of_within {m : InclusionMonitor} {deadline : Nat}
    {x : Timed σ (Except TransportError Bool)} {start stop : Moment σ}
    {r : Option (Except TransportError Bool)}
    (h : Timed.within deadline x none start = (some r, stop)) :
    m.watch deadline x none start =
      (some (verdict r, ⟨m.windowSecs, shown (verdict r)⟩), stop) := by
  unfold watch
  rw [Timed.bind_of_some h, settle_eq]
  rfl

/-- Whatever a monitor has watched before, the next watch ends as its own submission has it. -/
theorem watch_settles (m : InclusionMonitor) (w : Wait σ) :
    w.Settles m.windowSecs (m.watch w.deadline w.submission none w.start) := by
  by_cases h : ∃ r, w.Brings r
  · obtain ⟨r, time, ⟨state, hr⟩, hin⟩ := h
    exact ⟨_, _, _, watch_of_within (w.interruptible.within_passes hr hin), rfl,
      Wait.settled_of_resolves ⟨state, hr⟩ hin⟩
  · have hlate : ∀ r, ¬ w.Brings r := fun r hr => h ⟨r, hr⟩
    obtain ⟨stop, hcut, hnow⟩ := w.interruptible.within_cut fun r stop hr hin =>
      hlate r ⟨stop.now, ⟨stop.state, hr⟩, hin⟩
    refine ⟨_, _, _, watch_of_within hcut, rfl, ?_⟩
    rw [hnow]
    exact Wait.settled_of_overdue hlate

/-! ## One watch after the other -/

/-- How the watches of one monitor end: each begins with what the one before has left. -/
def follow (m : InclusionMonitor) : List (Wait σ) →
    List (Option (Except TransportError InclusionState × InclusionMonitor) × Moment σ)
  | [] => []
  | w :: ws =>
    let ending := m.watch w.deadline w.submission none w.start
    ending :: (ending.1.elim m Prod.snd).follow ws

/-- Every watch of a monitor ends as its own submission has it: with the verdict of that submission
when it comes in time, and otherwise at the deadline, without the bundle having been seen. -/
theorem each_watch_settles (m : InclusionMonitor) (waits : List (Wait σ)) :
    List.Forall₂ (Wait.Settles m.windowSecs) waits (m.follow waits) := by
  -- No watch changes the window, so the induction goes over all monitors with the same window.
  induction waits generalizing m with
  | nil => exact .nil
  | cons w ws ih =>
    have hsettles := watch_settles m w
    obtain ⟨result, monitor, moment, hending, hwindow, -⟩ := id hsettles
    refine .cons hsettles ?_
    rw [hending, ← hwindow]
    exact ih monitor

/-- A submission that ends exactly at the deadline, one that fails at once, and one that never ends
and is watched only after its deadline: each of them settles its own watch. -/
theorem unlike_watches_settle :
    let waits : List (Wait Unit) :=
      [⟨⟨(), 0⟩, 60000, .call (.steady (.after 60000 (.ok true))), Timed.interruptible_call _⟩,
        ⟨⟨(), 0⟩, 60000, .call (.steady (.after 0 (.error (.http "refused")))),
          Timed.interruptible_call _⟩,
        ⟨⟨(), 70000⟩, 60000, .call (.steady .never), Timed.interruptible_call _⟩]
    List.Forall₂ (Wait.Settles 60) waits ((new 60).follow waits) ∧
      ((new 60).follow waits).map (fun e => (e.1.map fun r => r.2.state, e.2.now)) =
        [(some .included, 60000), (some .transportError, 0), (some .timedOut, 70000)] :=
  ⟨each_watch_settles (new 60) _, rfl⟩

end InclusionMonitor

/-! ## The submissions of the client -/

namespace RelayClient

open Timed

variable {κ α : Type} (c : RelayClient κ)

theorem interruptible_nextId : Interruptible (nextId : Timed (State κ) Nat) :=
  interruptible_of_instant (g := fun m => (m.state.nextId, m)) (fun _ _ => rfl) fun _ => rfl

theorem interruptible_drop (request : RelayRequest) :
    Interruptible (drop request : Timed (State κ) Unit) :=
  interruptible_now.bind fun _ => interruptible_update _

theorem interruptible_pause (delay : Nat) :
    Interruptible (pause delay : Timed (State κ) Unit) :=
  interruptible_now.bind fun _ => (interruptible_update _).bind fun _ => interruptible_sleep delay

theorem interruptible_request (request : RelayRequest) (read : Json → Option α) :
    Interruptible (c.call request read) := by
  refine interruptible_nextId.bind fun id => ?_
  split
  · exact (interruptible_drop request).bind fun _ => interruptible_pure _
  · refine (interruptible_call _).bind fun answer => ?_
    cases answer <;> exact interruptible_pure _

/-- A deadline may cut off the wait for a block wherever it stands. -/
theorem interruptible_awaitBlock (block : UInt64) (txHash : Digest) (deadline left : Nat) :
    Interruptible (c.awaitBlock block txHash deadline left) := by
  induction left using Nat.strongRecOn with
  | ind left ih =>
    unfold awaitBlock
    refine (interruptible_call _).bind fun receipt => ?_
    rcases receipt with e | _ | _
    · exact interruptible_pure _
    · refine (interruptible_call _).bind fun head => ?_
      rcases head with e | head
      · exact interruptible_pure _
      · dsimp only
        split
        · exact interruptible_pure _
        · refine interruptible_now.bind fun now => ?_
          split
          · exact interruptible_pure _
          · -- The pause takes from the time that is left.
            have := c.pauseLength_pos (min left (deadline - now))
            exact (interruptible_pause _).bind fun _ => ih _ (by omega)
    · exact interruptible_pure _

theorem interruptible_lastLook (txHash : Digest) : Interruptible (c.lastLook txHash) := by
  refine (interruptible_call _).bind fun receipt => ?_
  cases receipt <;> exact interruptible_pure _

/-- A deadline may cut off the rounds of a submission wherever they stand. -/
theorem interruptible_sendRounds (bundle : Bundle) (deadline rounds : Nat) (block : UInt64) :
    Interruptible (c.sendRounds bundle deadline rounds block) := by
  induction rounds generalizing block with
  | zero => exact c.interruptible_lastLook _
  | succ rounds ih =>
    refine interruptible_now.bind fun now => ?_
    split
    · exact c.interruptible_lastLook _
    · refine (c.interruptible_request _ _).bind fun submitted => ?_
      rcases submitted with e | hash
      · exact interruptible_pure _
      · refine interruptible_now.bind fun now =>
          (c.interruptible_awaitBlock _ _ _ _).bind fun seen => ?_
        rcases seen with e | _ | _
        · exact interruptible_pure _
        · exact ih _
        · exact interruptible_pure _

/-- A submission of the client goes its own way, and a deadline only decides how far it gets. -/
theorem interruptible_sendAndAwait (bundle : Bundle) (rounds : UInt32) (deadline : Nat) :
    Interruptible (c.sendAndAwait bundle rounds deadline) := by
  unfold sendAndAwait
  split
  · exact interruptible_pure _
  · exact c.interruptible_sendRounds bundle deadline _ _

/-- What a session that submits through the client leaves to a monitor can be watched. -/
theorem interruptible_submission (bundle : Bundle) (rounds : UInt32) (deadline : Nat) :
    Interruptible (Session.perform (.sendAndAwait bundle rounds deadline)
      (c.relay.sendAndAwait bundle rounds deadline)) :=
  (interruptible_now.bind fun _ => interruptible_update _).bind fun _ =>
    (c.interruptible_sendAndAwait bundle rounds deadline).focus _ _

end RelayClient
end ArbBundle
