import ArbBundle.Proofs.Execution.Submission

/-!
# Calls — the order in which a run calls its services

All that a run may ask for stands in one list, the itinerary of its settings.  A run goes down the
list from its first call on, and from each call to the next one only where the call went well; the
error of a call that failed is what the run comes to.

- `Call.Value`, `Call.Error`, `Call.ending`: how a call may come out, and what its failure ends in
- `Config.itinerary`: the calls of a run in their order
- `Execution.Follows`: a run that goes down a list of calls
- `Execution.Makes`: what a computation calls, and what it comes to
- `Execution.follows_itinerary`: every run goes down its itinerary
-/

namespace ArbBundle

/-! ## Calls and their answers -/

namespace Call

/-- What a call that goes well is answered with. -/
def Value : Call → Type
  | .verify => Unit
  | .updateFeeRefund _ => Unit
  | .build => BuiltBundle
  | .simulate _ _ => Simulation × Bool
  | .confirm _ => Bool
  | .networkId => UInt64
  | .blockNumber => UInt64
  | .sendAndAwait _ _ _ => Bool

def Error : Call → Type
  | .verify => ValidationError
  | .build => BuildError
  | .confirm _ => ConfirmationError
  | _ => TransportError

/-- The stage that a call belongs to. -/
def stage : Call → Stage
  | .verify => .verify
  | .updateFeeRefund _ => .preflight
  | .build => .build
  | .simulate _ _ => .simulate
  | .confirm _ => .confirm
  | .networkId => .broadcast
  | .blockNumber => .broadcast
  | .sendAndAwait _ _ _ => .inclusion

/-- What a run comes to when the call fails: before the simulation and at the question an error, and
an outcome everywhere else. -/
def ending : (call : Call) → call.Error → Execution.Result
  | .verify, e => .error (.validation e)
  | .updateFeeRefund _, e => .error (.preflight e)
  | .build, e => .error (.build e)
  | .simulate _ _, e => .ok (.transportError .simulate e)
  | .confirm _, e => .error (.confirmation e)
  | .networkId, e => .ok (.transportError .broadcast e)
  | .blockNumber, e => .ok (.transportError .broadcast e)
  | .sendAndAwait _ _ _, e => .ok (.transportError .inclusion e)

end Call

/-- How a service answers a call.  A submission stands under its own deadline as well. -/
def Collaborators.answer {σ : Type} (c : Collaborators σ) (config : Config) (limit : Option Nat) :
    (call : Call) → Moment σ → Option (Except call.Error call.Value) × Moment σ
  | .verify => c.verify config limit
  | .updateFeeRefund receiver => c.relay.updateFeeRefund receiver limit
  | .build => c.build config limit
  | .simulate bundle offset => c.relay.simulate bundle offset limit
  | .confirm bypass => c.confirm bypass limit
  | .networkId => Timed.call c.chain.networkId limit
  | .blockNumber => Timed.call c.chain.blockNumber limit
  | .sendAndAwait bundle rounds deadline =>
    c.relay.sendAndAwait bundle rounds deadline (some (limit.elim deadline (min deadline)))

/-! ## The itinerary -/

/-- What a run finds out on its way. -/
structure Findings where
  bundle : Bundle
  networkId : UInt64
  head : UInt64
  /-- The time at which the newest block was known. -/
  located : Nat

/-- The answer to a call is what was found out. -/
def Findings.Agrees {σ : Type} (found : Findings) :
    (call : Call) → call.Value → (stop : Moment σ) → Prop
  | .build, built, _ => built.bundle = found.bundle
  | .networkId, networkId, _ => networkId = found.networkId
  | .blockNumber, head, stop => head = found.head ∧ stop.now = found.located
  | _, _, _ => True

namespace Config

/-- Who is to receive fee refunds: the chosen receiver, or else the node when the key is thrown
away. -/
def refundReceiver? (config : Config) : Option Address :=
  config.refundAddress.or (if config.randomPrivateKey then some config.nodeAddress else none)

/-- The receiver of refunds is the one that the settings name. -/
theorem refundReceiver?_eq (config : Config) :
    config.refundReceiver? = config.refundTarget?.map RefundTarget.address := by
  unfold refundReceiver? refundTarget?
  cases config.refundAddress with
  | none =>
      cases config.randomPrivateKey <;> rfl
  | some receiver =>
      rfl

def departure (config : Config) (found : Findings) : List Call :=
  [.networkId, .blockNumber,
    .sendAndAwait (found.bundle.routed found.networkId found.head) config.broadcast.retryRounds
      (config.broadcast.deadlineFrom found.located)]

/-- The calls from the building of the bundle on. -/
def voyage (config : Config) (found : Findings) : List Call :=
  .build :: .simulate found.bundle config.simulationBlockOffset ::
    .confirm config.skipConfirmation :: config.departure found

/-- All calls of a run, in their order. -/
def itinerary (config : Config) (found : Findings) : List Call :=
  .verify :: (config.refundReceiver?.toList.map .updateFeeRefund ++ config.voyage found)

/-- A run makes no call twice. -/
theorem nodup_itinerary (config : Config) (found : Findings) : (config.itinerary found).Nodup := by
  cases hr : config.refundReceiver? with
  | none =>
      simp [itinerary, voyage, departure, hr]
  | some receiver =>
      simp [itinerary, voyage, departure, hr]

end Config

namespace Execution

open Timed Session

/-- The stage of the fault that a run has come to, if it has come to a fault. -/
def faultStage? : Result → Option Stage
  | .error e => some e.stage
  | .ok (.transportError stage _) => some stage
  | .ok _ => none

/-- The result that a failed call leads to tells the call's own stage. -/
theorem faultStage?_ending (call : Call) (e : call.Error) :
    faultStage? (call.ending e) = some call.stage := by
  cases call <;> rfl

/-- The calls of a run, each with the moment at which it was made. -/
abbrev CallLog (σ : Type) := List (Moment σ × Call)

namespace CallLog

variable {σ : Type}

/-- What a journal shows of the calls. -/
def noted (log : CallLog σ) : List (Nat × Call) :=
  log.map fun (m, call) => (m.now, call)

def calls (log : CallLog σ) : List Call :=
  log.map Prod.snd

end CallLog

variable {σ α β : Type} {c : Collaborators σ} {config : Config} {limit : Option Nat}
  {found : Findings} {plan : List Call} {start : Moment σ} {log : CallLog σ}
  {result : Option Result} {services : σ} {journal : Journal} {time : Nat}

/-- Each call was made at the moment at which the one before it had gone well. -/
inductive Chained (c : Collaborators σ) (config : Config) (limit : Option Nat) (found : Findings) :
    Moment σ → CallLog σ → Prop where
  | none {m : Moment σ} : Chained c config limit found m []
  | last {m : Moment σ} {call : Call} : Chained c config limit found m [(m, call)]
  | next {m m' : Moment σ} {call : Call} {value : call.Value} {log : CallLog σ} :
      c.answer config limit call m = (some (.ok value), m') → found.Agrees call value m' →
      Chained c config limit found m' log → Chained c config limit found m ((m, call) :: log)

/-- Calls are made in the order of a list, and each one after the first upon a call that went well.
Behind the last call there is a result without fault, or the call is still open, or it has failed
and its error is the result, or the run breaks off in front of a submission without a deadline.  An
inclusion is seen at the end of the list only. -/
inductive Follows (c : Collaborators σ) (config : Config) (limit : Option Nat) (found : Findings) :
    List Call → Moment σ → CallLog σ → Option Result → Prop where
  | ended {plan : List Call} {m : Moment σ} {r : Result} :
      faultStage? r = none → (∀ txHash link, r = .ok (.included txHash link) → plan = []) →
      Follows c config limit found plan m [] (some r)
  | opened {call : Call} {plan : List Call} {m m' : Moment σ} {result : Option Result} :
      c.answer config limit call m = (none, m') →
      (∀ r ∈ result, faultStage? r = none ∧ ∀ txHash link, r ≠ .ok (.included txHash link)) →
      Follows c config limit found (call :: plan) m [(m, call)] result
  | failed {call : Call} {plan : List Call} {m m' : Moment σ} {e : call.Error} :
      c.answer config limit call m = (some (.error e), m') →
      Follows c config limit found (call :: plan) m [(m, call)] (some (call.ending e))
  | halted {bundle : Bundle} {rounds : UInt32} {deadline : Nat} {plan : List Call}
      {m : Moment σ} : ¬ config.broadcast.HasDeadline m.now →
      Follows c config limit found (.sendAndAwait bundle rounds deadline :: plan) m [] none
  | went {call : Call} {plan : List Call} {m m' : Moment σ} {value : call.Value}
      {log : CallLog σ} {result : Option Result} :
      c.answer config limit call m = (some (.ok value), m') → found.Agrees call value m' →
      Follows c config limit found plan m' log result →
      Follows c config limit found (call :: plan) m ((m, call) :: log) result

namespace Follows

/-- A run that is cut off in a call has come to nothing. -/
theorem cut {call : Call} {m m' : Moment σ} (h : c.answer config limit call m = (none, m')) :
    Follows c config limit found (call :: plan) m [(m, call)] none :=
  .opened h nofun

/-- A run that gives up waiting has come to no fault, and to no inclusion. -/
theorem missed {call : Call} {m m' : Moment σ} (h : c.answer config limit call m = (none, m')) :
    Follows c config limit found (call :: plan) m [(m, call)] (some (.ok .notIncluded)) := by
  refine .opened h fun r hr => ?_
  cases hr
  exact ⟨rfl, nofun⟩

/-- What was called is the beginning of the plan. -/
theorem calls_prefix (h : Follows c config limit found plan start log result) :
    log.calls <+: plan := by
  induction h with
  | ended _ _ | halted _ =>
      exact List.nil_prefix
  | opened _ _ | failed _ =>
      exact List.cons_prefix_cons.2 ⟨rfl, List.nil_prefix⟩
  | went _ _ _ ih =>
      exact List.cons_prefix_cons.2 ⟨rfl, ih⟩

/-- A call is made only when the one before it has gone well, and at once. -/
theorem chained (h : Follows c config limit found plan start log result) :
    Chained c config limit found start log := by
  induction h with
  | ended _ _ | halted _ =>
      exact .none
  | opened _ _ | failed _ =>
      exact .last
  | went hanswer hagrees _ ih =>
      exact .next hanswer hagrees ih

/-- Nothing is called after a call that has failed, and its error is the result. -/
theorem result_of_failed (h : Follows c config limit found plan start log result)
    {before after : CallLog σ} {x : Moment σ × Call} {e : x.2.Error} {m : Moment σ}
    (hlog : log = before ++ x :: after)
    (hfail : c.answer config limit x.2 x.1 = (some (.error e), m)) :
    after = [] ∧ result = some (x.2.ending e) := by
  -- The call that failed is the first one of the log, or it stands behind a call that went well;
  -- the list in front of it shrinks with the log.
  induction h generalizing before with
  | ended _ _ | halted _ =>
      exact absurd hlog.symm (by simp)
  | opened hanswer _ =>
      rcases before with _ | ⟨y, before⟩
      · cases hlog
        rw [hanswer] at hfail
        cases hfail
      · cases before <;> cases hlog
  | failed hanswer =>
      rcases before with _ | ⟨y, before⟩
      · cases hlog
        rw [hanswer] at hfail
        cases hfail
        exact ⟨rfl, rfl⟩
      · cases before <;> cases hlog
  | went hanswer _ _ ih =>
      rcases before with _ | ⟨y, before⟩
      · -- One call cannot be answered in both ways.
        cases hlog
        rw [hanswer] at hfail
        cases hfail
      · cases hlog
        exact ih rfl

/-- A fault is the error of the last call. -/
theorem failed_of_fault (h : Follows c config limit found plan start log result) {r : Result}
    {stage : Stage} (hresult : result = some r) (hfault : faultStage? r = some stage) :
    ∃ before x e m, log = before ++ [x] ∧
      c.answer config limit x.2 x.1 = (some (.error e), m) ∧
      r = x.2.ending e ∧ stage = x.2.stage := by
  induction h with
  | ended hquiet _ =>
      cases hresult
      rw [hquiet] at hfault
      cases hfault
  | opened _ hquiet =>
      rw [(hquiet r hresult).1] at hfault
      cases hfault
  | @failed call _ m m' e hanswer =>
      cases hresult
      rw [faultStage?_ending] at hfault
      cases hfault
      exact ⟨[], (m, call), e, m', rfl, hanswer, rfl, rfl⟩
  | halted _ =>
      cases hresult
  | went _ _ _ ih =>
      obtain ⟨before, x, e, m, rfl, hfail, hr, hstage⟩ := ih hresult
      exact ⟨_ :: before, x, e, m, rfl, hfail, hr, hstage⟩

/-- Whoever has seen an inclusion has made all the calls. -/
theorem calls_of_included (h : Follows c config limit found plan start log result)
    {txHash : Digest} {link : String} (hresult : result = some (.ok (.included txHash link))) :
    log.calls = plan := by
  induction h with
  | ended _ hlast =>
      cases hresult
      exact (hlast txHash link rfl).symm
  | opened _ hquiet =>
      exact absurd rfl ((hquiet _ hresult).2 txHash link)
  | @failed call _ _ _ e _ =>
      -- No failure of a call is an inclusion.
      cases call <;> cases hresult
  | halted _ =>
      cases hresult
  | went _ _ _ ih =>
      exact congrArg (_ :: ·) (ih hresult)

/-- Another call than the first one is only made where the first one went well. -/
theorem behind_first {call : Call} {before after : CallLog σ} {x : Moment σ × Call}
    (h : Follows c config limit found (call :: plan) start log result)
    (hlog : log = before ++ x :: after) (hx : x.2 ≠ call) :
    ∃ value m before', c.answer config limit call start = (some (.ok value), m) ∧
      before = (start, call) :: before' ∧
      Follows c config limit found plan m (before' ++ x :: after) result := by
  -- The log begins with the first call of the list, so another one has something in front of it.
  rcases before with _ | ⟨y, before⟩
  · cases h with
    | ended _ _ | halted _ => cases hlog
    | opened _ _ | failed _ | went _ _ _ =>
        cases hlog
        exact absurd rfl hx
  · cases h with
    | ended _ _ | halted _ => cases hlog
    | opened _ _ | failed _ => cases before <;> cases hlog
    | went hanswer _ hrest =>
        cases hlog
        exact ⟨_, _, before, hanswer, rfl, hrest⟩

end Follows

/-! ## What a computation calls -/

/-- The calls that a computation adds to the journal, and what it comes to, are as `Q` says. -/
def Makes (x : Timed (Session σ) α) (limit : Option Nat) (m : Moment (Session σ))
    (Q : CallLog σ → Option α → Prop) : Prop :=
  x.Yields limit m fun r m' => ∃ log : CallLog σ,
    m'.state.journal.timedCalls = m.state.journal.timedCalls ++ log.noted ∧ Q log r

variable {Q : CallLog σ → Option α → Prop}

theorem makes_pure {a : α} {m : Moment (Session σ)} (h : Q [] (some a)) :
    Makes (pure a) limit m Q :=
  ⟨[], (List.append_nil _).symm, h⟩

theorem Makes.mono {Q' : CallLog σ → Option α → Prop} {x : Timed (Session σ) α}
    {m : Moment (Session σ)} (h : Makes x limit m Q) (hQ : ∀ log r, Q log r → Q' log r) :
    Makes x limit m Q' := by
  obtain ⟨log, hlog, hq⟩ := h
  exact ⟨log, hlog, hQ log _ hq⟩

theorem makes_map {g : β → α} {x : Timed (Session σ) β} {m : Moment (Session σ)}
    (h : Makes x limit m fun log r => Q log (r.map g)) : Makes (g <$> x) limit m Q :=
  yields_map h

/-- Reports add no calls. -/
theorem makes_report_bind {event : Event} {f : Unit → Timed (Session σ) α}
    (h : ∀ journal, Makes (f ()) limit ⟨⟨services, journal⟩, time⟩ Q) :
    Makes (report event >>= f) limit ⟨⟨services, journal⟩, time⟩ Q := by
  obtain ⟨log, hlog, hq⟩ := h (journal ++ [⟨time, .reported event⟩])
  refine ⟨log, ?_, hq⟩
  rw [bind_of_some (report_apply event), hlog]
  simp [Journal.timedCalls]

theorem makes_reportEvaluation_bind {evaluation : Evaluation} {f : Unit → Timed (Session σ) α}
    (h : ∀ journal, Makes (f ()) limit ⟨⟨services, journal⟩, time⟩ Q) :
    Makes (reportEvaluation evaluation >>= f) limit ⟨⟨services, journal⟩, time⟩ Q := by
  obtain ⟨log, hlog, hq⟩ := h (journal ++
    (evaluation.failures.map fun failure => ⟨time, .reported (.simulationTxFailed failure)⟩) ++
    [⟨time, .reported (.simulationSummary evaluation.success evaluation.profit)⟩])
  refine ⟨log, ?_, ?_⟩
  · rw [bind_of_some (reportEvaluation_apply evaluation), hlog]
    simp [Journal.timedCalls]
  · rw [bind_of_some (reportEvaluation_apply evaluation)]
    exact hq

/-- A call stands in the log at the moment at which it was made, before the calls that its answer
leads to. -/
theorem makes_perform_bind {call : Call} {answer : Timed σ β} {f : β → Timed (Session σ) α}
    (hopen : ∀ m, answer limit ⟨services, time⟩ = (none, m) → Q [(⟨services, time⟩, call)] none)
    (h : ∀ b m, answer limit ⟨services, time⟩ = (some b, m) → ∀ journal,
      Makes (f b) limit ⟨⟨m.state, journal⟩, m.now⟩ fun log r =>
        Q ((⟨services, time⟩, call) :: log) r) :
    Makes (perform call answer >>= f) limit ⟨⟨services, journal⟩, time⟩ Q := by
  refine yields_perform_bind (fun m hm => ?_) fun b m hm => ?_
  · refine ⟨_, ?_, hopen m hm⟩
    simp [CallLog.noted, Journal.timedCalls]
  · obtain ⟨log, hlog, hq⟩ := h b m hm (journal ++ [⟨time, .called call⟩])
    refine ⟨_, ?_, hq⟩
    rw [hlog]
    simp [CallLog.noted, Journal.timedCalls]

/-- A submission under its deadline comes to what it comes to by then, unless the limit cuts off the
wait itself. -/
theorem supervised_cases {b : Broadcast} {relay : Relay σ} {bundle : Bundle} {deadline : Nat}
    {result : Option (Except TransportError Bool)} {m : Moment σ} (journal : Journal)
    (h : relay.sendAndAwait bundle b.retryRounds deadline
      (some (limit.elim deadline (min deadline))) ⟨services, time⟩ = (result, m)) :
    ∃ m', m'.state = ⟨m.state,
        journal ++ [⟨time, .called (.sendAndAwait bundle b.retryRounds deadline)⟩]⟩ ∧
      (b.supervised relay bundle deadline limit ⟨⟨services, journal⟩, time⟩ = (some result, m') ∨
        (result = none ∧ limit ≠ none) ∧
          b.supervised relay bundle deadline limit ⟨⟨services, journal⟩, time⟩ = (none, m')) := by
  let call : Call := .sendAndAwait bundle b.retryRounds deadline
  have hp : perform call (relay.sendAndAwait bundle b.retryRounds deadline) _
      ⟨⟨services, journal⟩, time⟩ =
      (result, ⟨⟨m.state, journal ++ [⟨time, .called call⟩]⟩, m.now⟩) := perform_of call h
  unfold Broadcast.supervised within
  dsimp only
  rw [hp]
  cases result with
  | some r =>
      exact ⟨_, rfl, .inl rfl⟩
  | none =>
      -- The wait ends at its deadline, if the limit leaves it that much time.
      dsimp only
      split
      · split
        · exact ⟨_, rfl, .inl rfl⟩
        case isFalse hcut =>
          exact ⟨_, rfl, .inr ⟨⟨rfl, fun h => hcut (by simp [h, inTime])⟩, rfl⟩⟩
      · exact ⟨_, rfl, .inl rfl⟩

/-- A wait breaks off in front of its submission, or the submission stands in the log. -/
theorem makes_awaitInclusion_bind (config : Config) {b : Broadcast} {bundle : Bundle}
    {f : Except TransportError InclusionState → Timed (Session σ) α}
    (hhalt : ¬ b.HasDeadline time → Q [] none)
    (hopen : ∀ m, c.answer config limit (.sendAndAwait bundle b.retryRounds (b.deadlineFrom time))
        ⟨services, time⟩ = (none, m) →
      Q [(⟨services, time⟩, .sendAndAwait bundle b.retryRounds (b.deadlineFrom time))] none)
    (h : ∀ result m, c.answer config limit
        (.sendAndAwait bundle b.retryRounds (b.deadlineFrom time)) ⟨services, time⟩ = (result, m) →
      ∀ m', Makes (f (InclusionMonitor.verdict result)) limit m' fun log r =>
        Q ((⟨services, time⟩, .sendAndAwait bundle b.retryRounds (b.deadlineFrom time)) :: log) r) :
    Makes (b.awaitInclusion c.relay bundle >>= f) limit ⟨⟨services, journal⟩, time⟩ Q := by
  unfold Makes Yields
  by_cases htime : b.HasDeadline time
  · rcases hanswer : c.answer config limit
      (.sendAndAwait bundle b.retryRounds (b.deadlineFrom time)) ⟨services, time⟩ with ⟨result, m⟩
    obtain ⟨m', hstate, hsup⟩ := supervised_cases journal hanswer
    have hwait : b.awaitInclusion c.relay bundle limit ⟨⟨services, journal⟩, time⟩ = _ :=
      Broadcast.awaitInclusion_apply c.relay bundle htime
    rw [map_apply] at hwait
    rcases hsup with hsup | ⟨⟨rfl, -⟩, hsup⟩
    · rw [hsup] at hwait
      obtain ⟨log, hlog, hq⟩ := h result m hanswer m'
      rw [bind_of_some hwait]
      refine ⟨(⟨services, time⟩, _) :: log, ?_, hq⟩
      rw [hlog, hstate]
      simp [CallLog.noted, Journal.timedCalls]
    · rw [hsup] at hwait
      rw [bind_of_none hwait]
      refine ⟨[(⟨services, time⟩, _)], ?_, hopen m hanswer⟩
      rw [hstate]
      simp [CallLog.noted, Journal.timedCalls]
  · rw [bind_of_none (Broadcast.awaitInclusion_halts c.relay bundle htime)]
    exact ⟨[], (List.append_nil _).symm, hhalt htime⟩

/-! ## The stages of a run -/

/-- A computation of a bundle goes down a list of calls that hangs on what it finds out. -/
abbrev Goes (c : Collaborators σ) (config : Config) (limit : Option Nat) (bundle : Bundle)
    (plan : Findings → List Call) (start : Moment σ) (log : CallLog σ) (result : Option Result) :
    Prop :=
  ∃ found : Findings, found.bundle = bundle ∧
    Follows c config limit found (plan found) start log result

/-- A broadcast goes down the calls of a departure. -/
theorem makes_settle (bundle : Bundle) (simulation : Simulation) :
    Makes (settle c config bundle simulation) limit ⟨⟨services, journal⟩, time⟩ fun log r =>
      Goes c config limit bundle config.departure ⟨services, time⟩ log (r.map .ok) := by
  simp only [settle, Broadcast.send, bind_assoc]
  -- What is not found out before the run ends is left at zero: no call shows it.
  refine makes_perform_bind (fun m hn => ?_) fun answer located hn journal => ?_
  · exact ⟨⟨bundle, 0, 0, 0⟩, rfl, .cut hn⟩
  rcases answer with e | networkId
  · exact makes_pure ⟨⟨bundle, 0, 0, 0⟩, rfl, .failed hn⟩
  simp only [bind_assoc]
  refine makes_perform_bind (fun m hh => ?_) fun answer routed hh journal => ?_
  · exact ⟨⟨bundle, networkId, 0, 0⟩, rfl, .went hn rfl (.cut hh)⟩
  rcases answer with e | head
  · exact makes_pure ⟨⟨bundle, networkId, 0, 0⟩, rfl, .went hn rfl (.failed hh)⟩
  simp only [bind_assoc]
  refine makes_report_bind fun journal => ?_
  let found : Findings := ⟨bundle, networkId, head, routed.now⟩
  refine makes_awaitInclusion_bind config (fun htime => ?_) (fun m hs => ?_)
    fun result m hs m' => ?_
  · exact ⟨found, rfl, .went hn rfl (.went hh ⟨rfl, rfl⟩ (.halted htime))⟩
  · exact ⟨found, rfl, .went hn rfl (.went hh ⟨rfl, rfl⟩ (.cut hs))⟩
  -- The submission was cut off, failed, missed its transaction or saw it.
  have hgoes {log : CallLog σ} {r : Option Result} (hlast : Follows c config limit found
        [.sendAndAwait (bundle.routed networkId head) config.broadcast.retryRounds
          (config.broadcast.deadlineFrom routed.now)] routed log r) :
      Goes c config limit bundle config.departure ⟨services, time⟩
        ((⟨services, time⟩, .networkId) :: (located, .blockNumber) :: log) r :=
    ⟨found, rfl, .went hn rfl (.went hh ⟨rfl, rfl⟩ hlast)⟩
  have hmissed : InclusionState.timedOut ≠ InclusionState.included := by decide
  rcases result with _ | e | _ | _
  · simp only [InclusionMonitor.verdict, pure_bind, if_neg hmissed]
    exact makes_report_bind fun _ => makes_pure (hgoes (.missed hs))
  · exact makes_pure (hgoes (.failed hs))
  · simp only [InclusionMonitor.verdict, pure_bind, if_neg hmissed]
    exact makes_report_bind fun _ => makes_pure
      (hgoes (.went hs trivial (.ended rfl fun _ _ _ => rfl)))
  · simp only [InclusionMonitor.verdict, pure_bind, if_true]
    exact makes_report_bind fun _ => makes_pure
      (hgoes (.went hs trivial (.ended rfl fun _ _ _ => rfl)))

/-- A bundle that was admitted is asked about, and departs after that. -/
theorem makes_proceed (bundle : Bundle) (simulation : Simulation) :
    Makes (proceed c config bundle simulation) limit ⟨⟨services, journal⟩, time⟩
      (Goes c config limit bundle
        (fun found => .confirm config.skipConfirmation :: config.departure found)
        ⟨services, time⟩) := by
  refine makes_perform_bind (fun m ha => ?_) fun answer agreed ha journal => ?_
  · exact ⟨⟨bundle, 0, 0, 0⟩, rfl, .cut ha⟩
  rcases answer with e | _ | _
  · exact makes_pure ⟨⟨bundle, 0, 0, 0⟩, rfl, .failed ha⟩
  · exact makes_report_bind fun _ =>
      makes_pure ⟨⟨bundle, 0, 0, 0⟩, rfl, .went ha trivial (.ended rfl nofun)⟩
  · refine makes_map ((makes_settle bundle simulation).mono fun log r h => ?_)
    obtain ⟨found, hbundle, hfollows⟩ := h
    exact ⟨found, hbundle, .went ha trivial hfollows⟩

/-- A decision either ends the run or goes on with the question. -/
theorem makes_decide (built : BuiltBundle) (simulation : Simulation) (verdict : Bool) :
    Makes (decide c config built simulation verdict) limit ⟨⟨services, journal⟩, time⟩
      (Goes c config limit built.bundle
        (fun found => .confirm config.skipConfirmation :: config.departure found)
        ⟨services, time⟩) := by
  -- Each gate behind the figures ends the run without a call, or lets it go on.
  have hstop {r : Result} (hquiet : faultStage? r = none)
      (hunseen : ∀ txHash link, r ≠ .ok (.included txHash link)) :
      Goes c config limit built.bundle
        (fun found => .confirm config.skipConfirmation :: config.departure found)
        ⟨services, time⟩ [] (some r) :=
    ⟨⟨built.bundle, 0, 0, 0⟩, rfl,
      .ended hquiet fun txHash link h => absurd h (hunseen txHash link)⟩
  refine makes_reportEvaluation_bind fun journal => ?_
  split
  · exact makes_report_bind fun _ => makes_pure (hstop rfl nofun)
  split
  · exact makes_pure (hstop rfl nofun)
  split
  · exact makes_report_bind fun _ => makes_pure (hstop rfl nofun)
  · exact makes_proceed built.bundle simulation

/-- Behind its preflight a run goes down a voyage, whose calls hang on what it finds out. -/
theorem makes_execute :
    Makes (execute c config) limit ⟨⟨services, journal⟩, time⟩ fun log r => ∃ found,
      Follows c config limit found (config.voyage found) ⟨services, time⟩ log r := by
  refine makes_perform_bind (fun m hb => ?_) fun answer composed hb journal => ?_
  · exact ⟨⟨default, 0, 0, 0⟩, .cut hb⟩
  rcases answer with e | built
  · exact makes_pure ⟨⟨default, 0, 0, 0⟩, .failed hb⟩
  refine makes_perform_bind (fun m hs => ?_) fun answer simulated hs journal => ?_
  · exact ⟨⟨built.bundle, 0, 0, 0⟩, .went hb rfl (.cut hs)⟩
  rcases answer with e | ⟨simulation, verdict⟩
  · exact makes_pure ⟨⟨built.bundle, 0, 0, 0⟩, .went hb rfl (.failed hs)⟩
  refine (makes_decide built simulation verdict).mono fun log r h => ?_
  obtain ⟨⟨bundle, networkId, head, located⟩, rfl, hfollows⟩ := h
  exact ⟨⟨built.bundle, networkId, head, located⟩, .went hb rfl (.went hs trivial hfollows)⟩

/-- A run goes down an itinerary. -/
theorem makes_run :
    Makes (run c config) limit ⟨⟨services, journal⟩, time⟩ fun log r => ∃ found,
      Follows c config limit found (config.itinerary found) ⟨services, time⟩ log r := by
  -- The list has a second call where there is a receiver, and the run makes one where there is a
  -- target; the two are the same account.
  have hreceiver := config.refundReceiver?_eq
  refine makes_perform_bind (fun m hv => ?_) fun answer verified hv journal => ?_
  · exact ⟨⟨default, 0, 0, 0⟩, .cut hv⟩
  rcases answer with e | _
  · exact makes_pure ⟨⟨default, 0, 0, 0⟩, .failed hv⟩
  cases ht : config.refundTarget? with
  | none =>
      rw [ht, Option.map_none] at hreceiver
      simp only [preflight, ht, pure_bind]
      refine makes_execute.mono fun log r h => ?_
      obtain ⟨found, hfollows⟩ := h
      refine ⟨found, .went hv trivial ?_⟩
      rw [hreceiver]
      exact hfollows
  | some target =>
      rw [ht, Option.map_some] at hreceiver
      have hplan (found : Findings) : config.itinerary found =
          .verify :: .updateFeeRefund target.address :: config.voyage found := by
        rw [Config.itinerary, hreceiver]
        rfl
      simp only [hplan, preflight, ht, bind_assoc]
      refine makes_perform_bind (fun m hc => ?_) fun answer credited hc journal => ?_
      · exact ⟨⟨default, 0, 0, 0⟩, .went hv trivial (.cut hc)⟩
      rcases answer with e | _
      · exact makes_pure ⟨⟨default, 0, 0, 0⟩, .went hv trivial (.failed hc)⟩
      simp only [bind_assoc, pure_bind]
      refine makes_report_bind fun journal => makes_execute.mono fun log r h => ?_
      obtain ⟨found, hfollows⟩ := h
      exact ⟨found, .went hv trivial (.went hc trivial hfollows)⟩

/-! ## Whole runs -/

/-- Every run goes down its itinerary: its calls are the first ones of the list, none is made twice,
and each is made at the moment at which the one before it has gone well.  A call that fails is the
last one, and the run comes to its error, under the stage of the call; and whatever fault a run
comes to is the error of its last call.  Where the key is thrown away, no bundle is built before a
receiver of fee refunds is installed. -/
theorem follows_itinerary (c : Collaborators σ) (config : Config) (limit : Option Nat)
    (start : Moment σ) :
    let ending := run c config limit ⟨Session.new start.state, start.now⟩
    ∃ (log : CallLog σ) (found : Findings),
      ending.2.state.journal.timedCalls = log.noted ∧
      log.calls <+: config.itinerary found ∧ log.calls.Nodup ∧
      Chained c config limit found start log ∧
      (∀ before x after e m, log = before ++ x :: after →
        c.answer config limit x.2 x.1 = (some (.error e), m) →
        after = [] ∧ ending.1 = some (x.2.ending e) ∧
          faultStage? (x.2.ending e) = some x.2.stage) ∧
      (∀ r stage, ending.1 = some r → faultStage? r = some stage →
        ∃ before x e m, log = before ++ [x] ∧
          c.answer config limit x.2 x.1 = (some (.error e), m) ∧
          r = x.2.ending e ∧ stage = x.2.stage) ∧
      (config.randomPrivateKey = true → ∀ before m after, log = before ++ (m, .build) :: after →
        ∃ receiver m₀ m₁, config.refundReceiver? = some receiver ∧
          (m₀, .updateFeeRefund receiver) ∈ before ∧
          c.relay.updateFeeRefund receiver limit m₀ = (some (.ok ()), m₁)) := by
  intro ending
  obtain ⟨log, hnoted, found, hfollows⟩ : Makes (run c config) limit
    ⟨Session.new start.state, start.now⟩ _ := makes_run
  have hprefix := hfollows.calls_prefix
  refine ⟨log, found, hnoted, hprefix, hprefix.sublist.nodup (config.nodup_itinerary found),
    hfollows.chained, fun before x after e m hlog hfail => ?_,
    fun r stage => hfollows.failed_of_fault, fun hrandom before m after hlog => ?_⟩
  · obtain ⟨hlast, hresult⟩ := hfollows.result_of_failed hlog hfail
    exact ⟨hlast, hresult, faultStage?_ending x.2 e⟩
  · obtain ⟨receiver, hreceiver⟩ : ∃ receiver, config.refundReceiver? = some receiver := by
      unfold Config.refundReceiver?
      cases config.refundAddress with
      | none => exact ⟨config.nodeAddress, by simp [hrandom]⟩
      | some receiver => exact ⟨receiver, rfl⟩
    have hplan : config.itinerary found =
        .verify :: .updateFeeRefund receiver :: config.voyage found := by
      rw [Config.itinerary, hreceiver]
      rfl
    rw [hplan] at hfollows
    -- The building stands behind the first call of the list, and behind the second one.
    obtain ⟨_, verified, before', -, rfl, hrest⟩ := hfollows.behind_first hlog nofun
    obtain ⟨_, credited, before'', hcredits, rfl, -⟩ := hrest.behind_first rfl nofun
    exact ⟨receiver, verified, credited, hreceiver, by simp, hcredits⟩

end Execution
end ArbBundle
