import ArbBundle.Proofs.Evaluation
import ArbBundle.Proofs.Execution.Settlement

/-!
# Events — what a run tells the operator

All that the operator is told can be read off from the calls that went well and from what the run
came to.  The calls say who gets the fee refunds, which bundle was simulated with which figures, and
where it was sent; the result says how it ended.

- `CallLog.credited?`, `CallLog.reviewed?`, `CallLog.routed?`: what a run has found out by its calls
- `CallLog.account`: the events that go with the calls of a run and its result
- `Execution.Ends`: how a run may end, by what it has found out
- `Execution.Adds`: the calls and events by which a journal was carried on
- `Execution.Tells`: what a computation calls and tells, and what it comes to
- `Execution.tells_account`: every run tells its account, and nothing else
-/

namespace ArbBundle

namespace Event

/-- The part of a run that the event belongs to: the refunds, the failing transactions, the summary,
the departure and the end. -/
def turn : Event → Nat
  | .refundRecipientUpdated _ => 0
  | .simulationTxFailed _ => 1
  | .simulationSummary _ _ => 2
  | .bundleSent _ _ _ _ => 3
  | _ => 4

end Event

namespace Call

/-- Who gets the fee refunds from now on. -/
def credited? : (call : Call) → call.Value → Option Address
  | .updateFeeRefund receiver, _ => some receiver
  | _, _ => none

def built? : (call : Call) → call.Value → Option BuiltBundle
  | .build, built => some built
  | _, _ => none

def simulated? : (call : Call) → call.Value → Option (Simulation × Bool)
  | .simulate _ _, simulated => some simulated
  | _, _ => none

def network? : (call : Call) → call.Value → Option UInt64
  | .networkId, network => some network
  | _, _ => none

def head? : (call : Call) → call.Value → Option UInt64
  | .blockNumber, head => some head
  | _, _ => none

end Call

namespace Execution

open Timed Session

/-! ## The account of a run -/

structure Review where
  built : BuiltBundle
  simulation : Simulation
  verdict : Bool

namespace Review

variable (review : Review) (config : Config)

def evaluation : Evaluation :=
  review.built.bundle.evaluate review.simulation review.verdict review.built.expectedProfit

/-- One event for each outcome with an error text, and the summary. -/
def figures : List Event :=
  ((review.simulation.results.zipIdx.filter fun (o, _) => o.error.getD "" ≠ "").map
      fun (o, index) => .simulationTxFailed ⟨index, o.error.getD "", o.revertHex⟩) ++
    [.simulationSummary review.evaluation.success review.evaluation.profit]

/-- The bundle is on its way to the builders that the network knows. -/
def departure : UInt64 × UInt64 → Event := fun (networkId, head) =>
  .bundleSent review.simulation.bundleHash (head + 1)
    (review.built.bundle.routed networkId head).builders.length
    config.broadcast.inclusionTimeoutSecs

/-- The event that goes with a result, if one does. -/
def farewell : Option Result → List Event
  | some (.ok (.dryRunReported _)) => [.dryRun config.nodeAddress review.built.bundle]
  | some (.ok (.profitTooLow check _ _)) => [.profitRejected check review.evaluation.profit]
  | some (.ok .userDeclined) => [.userDeclined]
  | some (.ok (.included txHash link)) => [.included txHash link review.built.bundle.size]
  | some (.ok .notIncluded) => [.notIncluded config.broadcast.inclusionTimeoutSecs]
  | _ => []

/-- What is told of a bundle that was simulated: its figures, its departure and its end. -/
def tale (route? : Option (UInt64 × UInt64)) (result : Option Result) : List Event :=
  review.figures ++
    (route?.toList.map (review.departure config) ++ review.farewell config result)

end Review

/-- A run that was cut off or has come to a fault does not say so. -/
theorem Review.farewell_of_fault {review : Review} {config : Config} {result : Option Result}
    (h : ∀ r ∈ result, (faultStage? r).isSome) : review.farewell config result = [] := by
  cases result with
  | none =>
      rfl
  | some r =>
      cases r with
      | error e =>
          rfl
      | ok outcome =>
          cases outcome with
          | transportError stage source =>
              rfl
          | _ =>
              exact absurd (h _ rfl) Bool.false_ne_true

namespace CallLog

variable {σ β : Type} (c : Collaborators σ) (config : Config) (limit : Option Nat)

/-- What a call was answered with, if it is of some kind and went well. -/
def answered? (pick : (call : Call) → call.Value → Option β) : Moment σ × Call → Option β :=
  fun (m, call) =>
    match (c.answer config limit call m).1 with
    | some (.ok value) => pick call value
    | _ => none

/-- What the first such call was answered with. -/
def value? (pick : (call : Call) → call.Value → Option β) (log : CallLog σ) : Option β :=
  log.findSome? (answered? c config limit pick)

def credited? (log : CallLog σ) : Option RefundTarget :=
  config.refundTarget?.filter fun target =>
    log.value? c config limit Call.credited? = some target.address

def reviewed? (log : CallLog σ) : Option Review := do
  let built ← log.value? c config limit Call.built?
  let (simulation, verdict) ← log.value? c config limit Call.simulated?
  return ⟨built, simulation, verdict⟩

/-- The network and the newest block, where both are known. -/
def routed? (log : CallLog σ) : Option (UInt64 × UInt64) := do
  let networkId ← log.value? c config limit Call.network?
  let head ← log.value? c config limit Call.head?
  return (networkId, head)

/-- The events of a run, by its calls and its result. -/
def account (log : CallLog σ) (result : Option Result) : List Event :=
  (log.credited? c config limit).toList.map .refundRecipientUpdated ++
    (log.reviewed? c config limit).toList.flatMap fun review =>
      review.tale config (log.routed? c config limit) result

end CallLog

/-! ## How a run ends -/

/-- The ends that a run may come to, by what it has found out.  All but the first rest on the same
verdict that the summary tells. -/
inductive Ends (config : Config) : Option Review → Option (UInt64 × UInt64) → Option Result → Prop
  where
  /-- No figures are known: the run was cut off, or has come to a fault. -/
  | unreviewed {result : Option Result} : (∀ r ∈ result, (faultStage? r).isSome) →
      Ends config none none result
  | dryRun {review : Review} : config.dryRun = true →
      Ends config (some review) none (some (.ok (.dryRunReported review.evaluation.success)))
  | flawed {review : Review} : config.dryRun = false → review.evaluation.success = false →
      Ends config (some review) none
        (some (.ok (.simulationFailed review.evaluation.failures.length)))
  | rejected {review : Review} {required : Wei} :
      config.dryRun = false → review.evaluation.success = true →
      config.profitCheck.admits review.evaluation.profit = false →
      config.profitCheck.threshold? review.evaluation.profit = some required →
      Ends config (some review) none
        (some (.ok (.profitTooLow config.profitCheck review.built.expectedProfit required)))
  | declined {review : Review} : config.dryRun = false → review.evaluation.success = true →
      Ends config (some review) none (some (.ok .userDeclined))
  /-- The bundle was not sent: the run was cut off, or has come to a fault. -/
  | unsent {review : Review} {result : Option Result} :
      config.dryRun = false → review.evaluation.success = true →
      (∀ r ∈ result, (faultStage? r).isSome) → Ends config (some review) none result
  | included {review : Review} {route : UInt64 × UInt64} {txHash : Digest} {link : String} :
      config.dryRun = false → review.evaluation.success = true →
      Ends config (some review) (some route) (some (.ok (.included txHash link)))
  | notIncluded {review : Review} {route : UInt64 × UInt64} :
      config.dryRun = false → review.evaluation.success = true →
      Ends config (some review) (some route) (some (.ok .notIncluded))
  /-- The run was cut off behind the departure, or broke off there, or the submission failed. -/
  | lost {review : Review} {route : UInt64 × UInt64} {result : Option Result} :
      config.dryRun = false → review.evaluation.success = true →
      (∀ r ∈ result, faultStage? r = some .inclusion) →
      Ends config (some review) (some route) result

/-- A run that was cut off has not come to anything. -/
theorem cut_off {p : Result → Prop} : ∀ r ∈ (none : Option Result), p r :=
  fun _ h => absurd h (Option.not_mem_none _)

/-- A run that has come to one thing has come to nothing else. -/
theorem come_to {p : Result → Prop} {result : Result} (h : p result) : ∀ r ∈ some result, p r :=
  fun _ hr => Option.mem_some.1 hr ▸ h

/-- Each call was made at the moment at which the one before it had gone well. -/
inductive Linked {σ : Type} (c : Collaborators σ) (config : Config) (limit : Option Nat) :
    Moment σ → CallLog σ → Prop where
  | none {m : Moment σ} : Linked c config limit m []
  | last {m : Moment σ} {call : Call} : Linked c config limit m [(m, call)]
  | next {m m' : Moment σ} {call : Call} {value : call.Value} {log : CallLog σ} :
      c.answer config limit call m = (some (.ok value), m') →
      Linked c config limit m' log → Linked c config limit m ((m, call) :: log)

/-! ## What a computation tells -/

variable {σ α β : Type} {c : Collaborators σ} {config : Config} {limit : Option Nat}
  {log : CallLog σ} {services : σ} {journal : Journal} {time : Nat}

/-- What a journal shows after it was carried on: these calls and these events, in their order. -/
structure Adds (before after : Journal) (log : CallLog σ) (events : List Event) : Prop where
  calls : after.timedCalls = before.timedCalls ++ log.noted
  events : after.events = before.events ++ events

namespace Adds

variable {before after : Journal} {events : List Event}

theorem refl (journal : Journal) : Adds journal journal ([] : CallLog σ) [] :=
  ⟨(List.append_nil _).symm, (List.append_nil _).symm⟩

/-- A call that was noted goes in front of those that follow. -/
theorem called {call : Call} (h : Adds (before ++ [⟨time, .called call⟩]) after log events) :
    Adds before after ((⟨services, time⟩, call) :: log) events := by
  have hcalls : Journal.timedCalls (before ++ [⟨time, .called call⟩]) =
      before.timedCalls ++ [(time, call)] := by
    simp [Journal.timedCalls]
  have hevents : Journal.events (before ++ [⟨time, .called call⟩]) = before.events := by
    simp [Journal.events]
  constructor
  · rw [h.calls, hcalls, List.append_assoc]
    rfl
  · rw [h.events, hevents]

theorem reported {event : Event} (h : Adds (before ++ [⟨time, .reported event⟩]) after log events) :
    Adds before after log (event :: events) := by
  have hcalls : Journal.timedCalls (before ++ [⟨time, .reported event⟩]) = before.timedCalls := by
    simp [Journal.timedCalls]
  have hevents : Journal.events (before ++ [⟨time, .reported event⟩]) =
      before.events ++ [event] := by
    simp [Journal.events]
  constructor
  · rw [h.calls, hcalls]
  · rw [h.events, hevents, List.append_assoc]
    rfl

/-- Events that were reported one after the other. -/
theorem reported_all (told : List Event)
    (h : Adds (before ++ told.map fun event => ⟨time, .reported event⟩) after log events) :
    Adds before after log (told ++ events) := by
  induction told generalizing before with
  | nil =>
      simpa using h
  | cons event rest ih =>
      have hrest : Adds ((before ++ [⟨time, .reported event⟩]) ++
          rest.map fun event => ⟨time, .reported event⟩) after log events := by
        rw [List.append_assoc]
        exact h
      exact (ih hrest).reported

end Adds

/-- The calls and the events that a computation adds to the journal, and what it comes to, are as
`Q` says. -/
def Tells (c : Collaborators σ) (config : Config) (x : Timed (Session σ) α) (limit : Option Nat)
    (m : Moment (Session σ)) (Q : CallLog σ → List Event → Option α → Prop) : Prop :=
  x.Yields limit m fun r m' => ∃ (log : CallLog σ) (events : List Event),
    Adds m.state.journal m'.state.journal log events ∧
    Linked c config limit ⟨m.state.services, m.now⟩ log ∧ Q log events r

variable {Q : CallLog σ → List Event → Option α → Prop}

theorem tells_pure {a : α} {m : Moment (Session σ)} (h : Q [] [] (some a)) :
    Tells c config (pure a) limit m Q :=
  ⟨[], [], .refl _, .none, h⟩

theorem Tells.mono {Q' : CallLog σ → List Event → Option α → Prop} {x : Timed (Session σ) α}
    {m : Moment (Session σ)} (h : Tells c config x limit m Q)
    (hQ : ∀ log events r, Q log events r → Q' log events r) : Tells c config x limit m Q' := by
  obtain ⟨log, events, hadds, hlinked, hq⟩ := h
  exact ⟨log, events, hadds, hlinked, hQ log events _ hq⟩

theorem tells_map {g : β → α} {x : Timed (Session σ) β} {m : Moment (Session σ)}
    (h : Tells c config x limit m fun log events r => Q log events (r.map g)) :
    Tells c config (g <$> x) limit m Q :=
  yields_map h

theorem tells_report_bind {event : Event} {f : Unit → Timed (Session σ) α}
    {m : Moment (Session σ)}
    (h : ∀ m, Tells c config (f ()) limit m fun log events r => Q log (event :: events) r) :
    Tells c config (report event >>= f) limit m Q := by
  rcases m with ⟨⟨services, journal⟩, time⟩
  obtain ⟨log, events, hadds, hlinked, hq⟩ :=
    h ⟨⟨services, journal ++ [⟨time, .reported event⟩]⟩, time⟩
  exact ⟨log, event :: events, hadds.reported, hlinked, hq⟩

/-- The failing transactions are told one after the other, and the summary behind them. -/
theorem tells_reportEvaluation_bind {evaluation : Evaluation} {f : Unit → Timed (Session σ) α}
    {m : Moment (Session σ)}
    (h : ∀ m, Tells c config (f ()) limit m fun log events r =>
      Q log (evaluation.failures.map .simulationTxFailed ++
        .simulationSummary evaluation.success evaluation.profit :: events) r) :
    Tells c config (reportEvaluation evaluation >>= f) limit m Q := by
  rcases m with ⟨⟨services, journal⟩, time⟩
  have hfailures : (evaluation.failures.map fun failure =>
      (⟨time, .reported (.simulationTxFailed failure)⟩ : Entry)) =
        (evaluation.failures.map .simulationTxFailed).map fun event => ⟨time, .reported event⟩ := by
    rw [List.map_map]
    rfl
  unfold Tells Yields
  rw [bind_of_some (reportEvaluation_apply evaluation), hfailures]
  obtain ⟨log, events, hadds, hlinked, hq⟩ := h ⟨⟨services, journal ++
    (evaluation.failures.map .simulationTxFailed).map (fun event => ⟨time, .reported event⟩) ++
    [⟨time, .reported (.simulationSummary evaluation.success evaluation.profit)⟩]⟩, time⟩
  exact ⟨log, _, .reported_all _ hadds.reported, hlinked, hq⟩

/-- A call adds itself to the log.  Behind a call that went well there may be others, behind one
that failed there are none. -/
theorem tells_perform_bind (call : Call) {answer : Timed σ (Except call.Error call.Value)}
    {f : Except call.Error call.Value → Timed (Session σ) α}
    (hanswer : answer limit = c.answer config limit call)
    (hopen : ∀ m, c.answer config limit call ⟨services, time⟩ = (none, m) →
      Q [(⟨services, time⟩, call)] [] none)
    (herror : ∀ e m, c.answer config limit call ⟨services, time⟩ = (some (.error e), m) →
      ∀ m, Tells c config (f (.error e)) limit m fun log events r =>
        log = [] ∧ Q [(⟨services, time⟩, call)] events r)
    (hok : ∀ value m, c.answer config limit call ⟨services, time⟩ = (some (.ok value), m) →
      ∀ journal, Tells c config (f (.ok value)) limit ⟨⟨m.state, journal⟩, m.now⟩
        fun log events r => Q ((⟨services, time⟩, call) :: log) events r) :
    Tells c config (perform call answer >>= f) limit ⟨⟨services, journal⟩, time⟩ Q := by
  refine yields_perform_bind (fun m hm => ?_) fun answer m hm => ?_
  · rw [hanswer] at hm
    exact ⟨_, [], (Adds.refl _).called, .last, hopen m hm⟩
  rw [hanswer] at hm
  cases answer with
  | error e =>
      obtain ⟨log, events, hadds, -, rfl, hq⟩ := herror e m hm
        ⟨⟨m.state, journal ++ [⟨time, .called call⟩]⟩, m.now⟩
      exact ⟨_, events, hadds.called, .last, hq⟩
  | ok value =>
      obtain ⟨log, events, hadds, hlinked, hq⟩ := hok value m hm
        (journal ++ [⟨time, .called call⟩])
      exact ⟨_, events, hadds.called, .next hm hlinked, hq⟩

/-- The wait for a bundle that was sent is one call, or none where it has no deadline.  What is told
behind it hangs on what the wait came to. -/
theorem tells_awaitInclusion_bind {b : Broadcast} {bundle : Bundle}
    {f : Except TransportError InclusionState → Timed (Session σ) α} (hhalt : Q [] [] none)
    (hopen : ∀ m, Q [(m, .sendAndAwait bundle b.retryRounds (b.deadlineFrom m.now))] [] none)
    (h : ∀ state m', Tells c config (f state) limit m' fun log events r => log = [] ∧
      ∀ m, Q [(m, .sendAndAwait bundle b.retryRounds (b.deadlineFrom m.now))] events r) :
    Tells c config (b.awaitInclusion c.relay bundle >>= f) limit ⟨⟨services, journal⟩, time⟩ Q := by
  unfold Tells Yields
  by_cases htime : b.HasDeadline time
  · rcases hanswer : c.answer config limit
      (.sendAndAwait bundle b.retryRounds (b.deadlineFrom time)) ⟨services, time⟩ with ⟨result, m⟩
    obtain ⟨m', hstate, hsup⟩ := supervised_cases journal hanswer
    have hwait : b.awaitInclusion c.relay bundle limit ⟨⟨services, journal⟩, time⟩ = _ :=
      Broadcast.awaitInclusion_apply c.relay bundle htime
    rw [map_apply] at hwait
    rcases hsup with hsup | ⟨-, hsup⟩
    · -- The wait has come to something, and the rest follows upon it.
      rw [hsup] at hwait
      obtain ⟨log, events, hadds, -, rfl, hq⟩ := h (InclusionMonitor.verdict result) m'
      rw [hstate] at hadds
      rw [bind_of_some hwait]
      exact ⟨_, events, hadds.called, .last, hq ⟨services, time⟩⟩
    · -- The wait was cut off.
      rw [hsup] at hwait
      have hadds : Adds journal m'.state.journal [(⟨services, time⟩,
          .sendAndAwait bundle b.retryRounds (b.deadlineFrom time))] [] := by
        rw [hstate]
        exact (Adds.refl _).called
      rw [bind_of_none hwait]
      exact ⟨_, [], hadds, .last, hopen ⟨services, time⟩⟩
  · rw [bind_of_none (Broadcast.awaitInclusion_halts c.relay bundle htime)]
    exact ⟨[], [], .refl _, .none, hhalt⟩

/-! ## Reading the log -/

namespace CallLog

variable {pick : (call : Call) → call.Value → Option β} {m m' : Moment σ} {call : Call}

@[simp] theorem value?_nil : value? c config limit pick [] = none :=
  rfl

@[simp] theorem value?_cons (x : Moment σ × Call) :
    value? c config limit pick (x :: log) =
      (answered? c config limit pick x).or (value? c config limit pick log) := by
  unfold value?
  rw [List.findSome?_cons]
  cases answered? c config limit pick x <;> rfl

theorem answered?_of_ok {value : call.Value}
    (h : c.answer config limit call m = (some (.ok value), m')) :
    answered? c config limit pick (m, call) = pick call value := by
  simp only [answered?, h]

/-- A call that is not of the kind that is looked for. -/
theorem answered?_of_other (h : ∀ value, pick call value = none) :
    answered? c config limit pick (m, call) = none := by
  unfold answered?
  dsimp only
  split
  · exact h _
  · rfl

theorem answered?_of_open (h : c.answer config limit call m = (none, m')) :
    answered? c config limit pick (m, call) = none := by
  simp only [answered?, h]

theorem answered?_of_error {e : call.Error}
    (h : c.answer config limit call m = (some (.error e), m')) :
    answered? c config limit pick (m, call) = none := by
  simp only [answered?, h]

theorem credited?_of_value?_eq_none (h : log.value? c config limit Call.credited? = none) :
    log.credited? c config limit = none := by
  simp [credited?, h]

/-- A call that neither builds nor simulates says nothing about the bundle. -/
theorem reviewed?_cons_of_other (hbuilt : ∀ value, call.built? value = none)
    (hsimulated : ∀ value, call.simulated? value = none) :
    reviewed? c config limit ((m, call) :: log) = log.reviewed? c config limit := by
  simp [reviewed?, answered?_of_other hbuilt, answered?_of_other hsimulated]

/-- A call that asks for neither the network nor the newest block says nothing about the route. -/
theorem routed?_cons_of_other (hnetwork : ∀ value, call.network? value = none)
    (hhead : ∀ value, call.head? value = none) :
    routed? c config limit ((m, call) :: log) = log.routed? c config limit := by
  simp [routed?, answered?_of_other hnetwork, answered?_of_other hhead]

end CallLog

/-! ## The stages of a run -/

/-- A broadcast tells of the departure once the route is known, and of its end. -/
theorem tells_settle {review : Review} (hdry : config.dryRun = false)
    (hsuccess : review.evaluation.success = true) :
    Tells c config (settle c config review.built.bundle review.simulation) limit
      ⟨⟨services, journal⟩, time⟩ fun log events r =>
        events = (log.routed? c config limit).toList.map (review.departure config) ++
          review.farewell config (r.map .ok) ∧
        Ends config (some review) (log.routed? c config limit) (r.map .ok) := by
  -- Without an answer to both questions nothing is told, and the run is cut off or at fault.
  have hunsent {log : CallLog σ} {r : Option Outcome} (hroute : log.routed? c config limit = none)
      (hfault : ∀ result ∈ r.map Except.ok, (faultStage? result).isSome) :
      [] = (log.routed? c config limit).toList.map (review.departure config) ++
          review.farewell config (r.map .ok) ∧
        Ends config (some review) (log.routed? c config limit) (r.map .ok) := by
    rw [hroute]
    exact ⟨(Review.farewell_of_fault hfault).symm, .unsent hdry hsuccess hfault⟩
  simp only [settle, Broadcast.send, bind_assoc]
  refine tells_perform_bind .networkId rfl (fun m hn => ?_) (fun e m hn m' => ?_)
    fun networkId located hn journal => ?_
  · refine hunsent ?_ cut_off
    simp [CallLog.routed?, CallLog.answered?_of_open hn]
  · refine tells_pure ⟨rfl, hunsent ?_ (come_to rfl)⟩
    simp [CallLog.routed?, CallLog.answered?_of_error hn]
  simp only [bind_assoc]
  have hnetwork : CallLog.answered? c config limit Call.network?
      (⟨services, time⟩, .networkId) = some networkId := CallLog.answered?_of_ok hn
  have hnumberless : CallLog.answered? c config limit Call.head?
      (⟨services, time⟩, .networkId) = none := CallLog.answered?_of_other fun _ => rfl
  refine tells_perform_bind .blockNumber rfl (fun m hh => ?_) (fun e m hh m' => ?_)
    fun head departed hh journal => ?_
  · refine hunsent ?_ cut_off
    simp [CallLog.routed?, hnetwork, hnumberless, CallLog.answered?_of_open hh]
  · refine tells_pure ⟨rfl, hunsent ?_ (come_to rfl)⟩
    simp [CallLog.routed?, hnetwork, hnumberless, CallLog.answered?_of_error hh]
  simp only [bind_assoc]
  have hroute (log : CallLog σ) : CallLog.routed? c config limit ((⟨services, time⟩, .networkId) ::
      (located, .blockNumber) :: log) = some (networkId, head) := by
    have hhead : CallLog.answered? c config limit Call.head? (located, .blockNumber) = some head :=
      CallLog.answered?_of_ok hh
    simp only [CallLog.routed?, CallLog.value?_cons, hnetwork, hnumberless, hhead]
    rfl
  refine tells_report_bind fun m => ?_
  refine tells_awaitInclusion_bind ?_ (fun m => ?_) fun state m' => ?_
  · rw [hroute]
    exact ⟨rfl, .lost hdry hsuccess cut_off⟩
  · rw [hroute]
    exact ⟨rfl, .lost hdry hsuccess cut_off⟩
  simp only [hroute]
  -- The submission failed, missed its transaction or saw it.
  rcases state with e | state
  · exact tells_pure ⟨rfl, fun _ => ⟨rfl, .lost hdry hsuccess (come_to rfl)⟩⟩
  simp only [pure_bind]
  split
  · refine tells_report_bind fun m => tells_pure ⟨rfl, fun _ => ⟨?_, .included hdry hsuccess⟩⟩
    -- A verdict in favour has counted one outcome for each transaction.
    have hcount : review.simulation.results.length = review.built.bundle.size :=
      ((Bundle.evaluate_success_iff _ _ _ _).1 hsuccess).2.1
    rw [hcount]
    rfl
  · refine tells_report_bind fun m => tells_pure ⟨rfl, fun _ => ⟨rfl, .notIncluded hdry hsuccess⟩⟩

/-- The question itself is not told of; what follows upon it is what a broadcast tells. -/
theorem tells_proceed {review : Review} (hdry : config.dryRun = false)
    (hsuccess : review.evaluation.success = true) :
    Tells c config (proceed c config review.built.bundle review.simulation) limit
      ⟨⟨services, journal⟩, time⟩ fun log events r =>
        events = (log.routed? c config limit).toList.map (review.departure config) ++
          review.farewell config r ∧
        Ends config (some review) (log.routed? c config limit) r := by
  -- The question to the operator says nothing about the route.
  have hroute (log : CallLog σ) : CallLog.routed? c config limit
      ((⟨services, time⟩, .confirm config.skipConfirmation) :: log) =
        log.routed? c config limit :=
    CallLog.routed?_cons_of_other (fun _ => rfl) fun _ => rfl
  -- A run that stops at the question has figures, and no route.
  refine tells_perform_bind (.confirm config.skipConfirmation) rfl (fun m ha => ?_)
    (fun e m ha m' => ?_) fun agreed m ha journal => ?_
  · rw [hroute]
    exact ⟨rfl, .unsent hdry hsuccess cut_off⟩
  · refine tells_pure ⟨rfl, ?_⟩
    rw [hroute]
    exact ⟨rfl, .unsent hdry hsuccess (come_to rfl)⟩
  simp only [hroute]
  cases agreed with
  | false =>
      exact tells_report_bind fun m => tells_pure ⟨rfl, .declined hdry hsuccess⟩
  | true =>
      exact tells_map (tells_settle hdry hsuccess)

theorem Review.figures_eq (review : Review) :
    review.figures = review.evaluation.failures.map .simulationTxFailed ++
      [.simulationSummary review.evaluation.success review.evaluation.profit] := by
  have hfailures : review.evaluation.failures = _ :=
    Simulation.failuresFrom_eq 0 review.simulation.results
  rw [hfailures, List.map_map]
  rfl

/-- A decision tells the tale of the bundle, as far as the calls have gone. -/
theorem tells_decide (review : Review) :
    Tells c config (decide c config review.built review.simulation review.verdict) limit
      ⟨⟨services, journal⟩, time⟩ fun log events r =>
        events = review.tale config (log.routed? c config limit) r ∧
        Ends config (some review) (log.routed? c config limit) r := by
  refine tells_reportEvaluation_bind fun m => ?_
  have hfigures (events : List Event) : review.evaluation.failures.map .simulationTxFailed ++
      .simulationSummary review.evaluation.success review.evaluation.profit :: events =
        review.figures ++ events := by
    rw [review.figures_eq, List.append_assoc]
    rfl
  -- The figures are told before anything is decided; each decision adds its own end, if any.
  split
  · rename_i hdry
    exact tells_report_bind fun m => tells_pure ⟨hfigures _, .dryRun hdry⟩
  rename_i hdry
  have hdry := Bool.eq_false_iff.2 hdry
  split
  · rename_i hflawed
    exact tells_pure ⟨hfigures _, .flawed hdry (by simpa [Review.evaluation] using hflawed)⟩
  rename_i hsuccess
  have hsuccess : review.evaluation.success = true := by
    simpa [Review.evaluation] using hsuccess
  split
  · rename_i hrejected
    have hrejected : config.profitCheck.admits review.evaluation.profit = false := by
      simpa [Review.evaluation] using hrejected
    exact tells_report_bind fun m => tells_pure ⟨hfigures _, .rejected hdry hsuccess hrejected
      (ProfitCheck.threshold?_of_not_admits hrejected)⟩
  · refine (tells_proceed hdry hsuccess).mono fun log events r h => ?_
    obtain ⟨rfl, hends⟩ := h
    exact ⟨hfigures _, hends⟩

/-- Where no figures are known, nothing is told of a bundle. -/
theorem ends_unreviewed {r : Option Result} (hreview : log.reviewed? c config limit = none)
    (hroute : log.routed? c config limit = none)
    (hfault : ∀ result ∈ r, (faultStage? result).isSome) :
    ([] = (log.reviewed? c config limit).toList.flatMap fun review =>
      review.tale config (log.routed? c config limit) r) ∧
      Ends config (log.reviewed? c config limit) (log.routed? c config limit) r := by
  rw [hreview, hroute]
  exact ⟨rfl, .unreviewed hfault⟩

/-- Where a bundle was built and simulated, its tale is told, and otherwise nothing. -/
theorem tells_execute :
    Tells c config (execute c config) limit ⟨⟨services, journal⟩, time⟩ fun log events r =>
      (events = (log.reviewed? c config limit).toList.flatMap fun review =>
        review.tale config (log.routed? c config limit) r) ∧
        Ends config (log.reviewed? c config limit) (log.routed? c config limit) r := by
  have hbuild {log : CallLog σ} : CallLog.routed? c config limit
      ((⟨services, time⟩, .build) :: log) = log.routed? c config limit :=
    CallLog.routed?_cons_of_other (fun _ => rfl) fun _ => rfl
  refine tells_perform_bind .build rfl (fun m hb => ?_) (fun e m hb m' => ?_)
    fun built composed hb journal => ?_
  · refine ends_unreviewed ?_ hbuild cut_off
    simp [CallLog.reviewed?, CallLog.answered?_of_open hb]
  · refine tells_pure ⟨rfl, ends_unreviewed ?_ hbuild (come_to rfl)⟩
    simp [CallLog.reviewed?, CallLog.answered?_of_error hb]
  have hsimulate {log : CallLog σ} : CallLog.routed? c config limit ((⟨services, time⟩, .build) ::
      (composed, .simulate built.bundle config.simulationBlockOffset) :: log) =
        log.routed? c config limit :=
    hbuild.trans (CallLog.routed?_cons_of_other (fun _ => rfl) fun _ => rfl)
  have hbuilt : CallLog.answered? c config limit Call.built? (⟨services, time⟩, .build) =
      some built := CallLog.answered?_of_ok hb
  have hunsimulated : CallLog.answered? c config limit Call.simulated?
      (⟨services, time⟩, .build) = none := CallLog.answered?_of_other fun _ => rfl
  refine tells_perform_bind (.simulate built.bundle config.simulationBlockOffset) rfl
    (fun m hs => ?_) (fun e m hs m' => ?_) fun simulated m hs journal => ?_
  · refine ends_unreviewed ?_ hsimulate cut_off
    simp [CallLog.reviewed?, hunsimulated, CallLog.answered?_of_open hs]
  · refine tells_pure ⟨rfl, ends_unreviewed ?_ hsimulate (come_to rfl)⟩
    simp [CallLog.reviewed?, hunsimulated, CallLog.answered?_of_error hs]
  -- From here on the log holds the bundle with its figures.
  let review : Review := ⟨built, simulated.1, simulated.2⟩
  have hreview {log : CallLog σ} : CallLog.reviewed? c config limit ((⟨services, time⟩, .build) ::
      (composed, .simulate built.bundle config.simulationBlockOffset) :: log) = some review := by
    have hsimulated : CallLog.answered? c config limit Call.simulated?
        (composed, .simulate built.bundle config.simulationBlockOffset) = some simulated :=
      CallLog.answered?_of_ok hs
    simp only [CallLog.reviewed?, CallLog.value?_cons, hbuilt, hunsimulated, hsimulated]
    rfl
  refine (tells_decide review).mono fun log events r h => ?_
  rw [hreview, hsimulate]
  simpa using h

/-- A run that stops before the bundle is built tells nothing at all. -/
theorem ends_uncredited {r : Option Result}
    (hcredit : log.value? c config limit Call.credited? = none)
    (hreview : log.reviewed? c config limit = none) (hroute : log.routed? c config limit = none)
    (hfault : ∀ result ∈ r, (faultStage? result).isSome) :
    [] = log.account c config limit r ∧
      Ends config (log.reviewed? c config limit) (log.routed? c config limit) r := by
  rw [CallLog.account, CallLog.credited?_of_value?_eq_none hcredit]
  exact ends_unreviewed hreview hroute hfault

/-- The receiver of fee refunds is told where it was installed, and then what is told of the
bundle. -/
theorem tells_preflight_bind {f : Except TransportError Unit → Timed (Session σ) Result}
    (herror : ∀ e, f (.error e) = pure (.error (.preflight e)))
    (hok : f (.ok ()) = execute c config) :
    Tells c config (preflight c config >>= f) limit ⟨⟨services, journal⟩, time⟩
      fun log events r => events = log.account c config limit r ∧
        Ends config (log.reviewed? c config limit) (log.routed? c config limit) r := by
  cases ht : config.refundTarget? with
  | none =>
      simp only [preflight, ht, pure_bind, hok]
      refine tells_execute.mono fun log events r h => ?_
      rw [CallLog.account, CallLog.credited?, ht]
      exact h
  | some target =>
      simp only [preflight, ht, bind_assoc]
      have hreview {log : CallLog σ} : CallLog.reviewed? c config limit
          ((⟨services, time⟩, .updateFeeRefund target.address) :: log) =
            log.reviewed? c config limit :=
        CallLog.reviewed?_cons_of_other (fun _ => rfl) fun _ => rfl
      have hroute {log : CallLog σ} : CallLog.routed? c config limit
          ((⟨services, time⟩, .updateFeeRefund target.address) :: log) =
            log.routed? c config limit :=
        CallLog.routed?_cons_of_other (fun _ => rfl) fun _ => rfl
      refine tells_perform_bind (.updateFeeRefund target.address) rfl (fun m hc => ?_)
        (fun e m hc m' => ?_) fun credited m hc journal => ?_
      · refine ends_uncredited ?_ hreview hroute cut_off
        simp [CallLog.answered?_of_open hc]
      · show Tells c config (pure (.error e) >>= f) limit m' _
        rw [pure_bind, herror e]
        refine tells_pure ⟨rfl, ends_uncredited ?_ hreview hroute (come_to rfl)⟩
        simp [CallLog.answered?_of_error hc]
      obtain ⟨⟩ := credited
      simp only [bind_assoc, pure_bind, hok]
      refine tells_report_bind fun m => tells_execute.mono fun log events r h => ?_
      have hcredited : CallLog.credited? c config limit
          ((⟨services, time⟩, .updateFeeRefund target.address) :: log) = some target := by
        have hanswer : CallLog.answered? c config limit Call.credited?
            (⟨services, time⟩, .updateFeeRefund target.address) = some target.address :=
          CallLog.answered?_of_ok hc
        simp [CallLog.credited?, ht, hanswer]
      rw [CallLog.account, hcredited, hreview, hroute]
      exact ⟨congrArg (_ :: ·) h.1, h.2⟩

/-- A run tells the account of its calls and its result, and the result is one of the ends that they
allow. -/
theorem tells_run :
    Tells c config (run c config) limit ⟨⟨services, journal⟩, time⟩ fun log events r =>
      events = log.account c config limit r ∧
        Ends config (log.reviewed? c config limit) (log.routed? c config limit) r := by
  -- The first call is about nothing that is told.
  have hcredit {log : CallLog σ} : CallLog.value? c config limit Call.credited?
      ((⟨services, time⟩, .verify) :: log) = log.value? c config limit Call.credited? := by
    rw [CallLog.value?_cons, CallLog.answered?_of_other fun _ => rfl, Option.none_or]
  have hreview {log : CallLog σ} : CallLog.reviewed? c config limit
      ((⟨services, time⟩, .verify) :: log) = log.reviewed? c config limit :=
    CallLog.reviewed?_cons_of_other (fun _ => rfl) fun _ => rfl
  have hroute {log : CallLog σ} : CallLog.routed? c config limit
      ((⟨services, time⟩, .verify) :: log) = log.routed? c config limit :=
    CallLog.routed?_cons_of_other (fun _ => rfl) fun _ => rfl
  refine tells_perform_bind .verify rfl (fun m hv => ?_) (fun e m hv m' => ?_)
    fun _ verified hv journal => ?_
  · exact ends_uncredited hcredit hreview hroute cut_off
  · exact tells_pure ⟨rfl, ends_uncredited hcredit hreview hroute (come_to rfl)⟩
  refine (tells_preflight_bind (fun e => rfl) rfl).mono fun log events r h => ?_
  rw [CallLog.account, CallLog.credited?, hcredit, hreview, hroute]
  exact h

/-! ## Whole runs -/

namespace Review

variable (review : Review)

theorem turn_of_mem_figures {event : Event} (h : event ∈ review.figures) :
    event.turn = 1 ∨ event.turn = 2 := by
  rcases List.mem_append.1 h with h | h
  · obtain ⟨x, -, rfl⟩ := List.mem_map.1 h
    exact .inl rfl
  · obtain rfl := List.mem_singleton.1 h
    exact .inr rfl

end Review

end Execution
end ArbBundle
