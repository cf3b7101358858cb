import ArbBundle.Execution.Run
import ArbBundle.Execution.Scripted
import ArbBundle.Proofs.Evaluation
import ArbBundle.Proofs.Execution.Broadcast
import ArbBundle.Proofs.Verification

/-!
# Submission — when a run puts its bundle on its way

What has to go well before a bundle may be submitted is spread over the stages of a run.  Here it is
gathered in one place, and a run submits if and only if all of it has gone well and the wait that is
to follow has a deadline.

- `Execution.Clearance`: all that has to go well, from the settings to the route of the bundle
- `Clearance.HasDeadline`: the clock reaches to the end of the wait
- `Execution.Submits`, `Execution.Unsent`: what a computation submits, and that it submits nothing
- `exists_of_not_unsent` and the lemmas upon it: whatever is submitted was cleared, stage by stage
- `Clearance.submits_run`: whatever was cleared, and has a deadline, is submitted
- `Execution.submits_once_iff_cleared`: both ways, for every run
- `Execution.endless_window_unsent`: a cleared run whose window is too long for the clock
-/

namespace ArbBundle

/-- The same services, but for what the relay does with a bundle that is submitted. -/
def Collaborators.submitting {σ : Type} (c : Collaborators σ)
    (submit : Bundle → UInt32 → Nat → Timed σ (Except TransportError Bool)) : Collaborators σ :=
  { c with relay := { c.relay with sendAndAwait := submit } }

namespace Execution

open Timed Session

variable {σ α β : Type} {c : Collaborators σ} {config : Config} {limit : Option Nat}
  {services : σ} {journal : Journal} {time : Nat}

/-! ## What a computation submits -/

/-- The submissions that a computation adds to the journal. -/
def Submits (x : Timed (Session σ) α) (limit : Option Nat) (m : Moment (Session σ))
    (calls : List Call) : Prop :=
  (x limit m).2.state.journal.submissions = m.state.journal.submissions ++ calls

variable {calls : List Call}

theorem submits_pure (a : α) (m : Moment (Session σ)) : Submits (pure a) limit m [] :=
  (List.append_nil _).symm

theorem submits_report (event : Event) (m : Moment (Session σ)) :
    Submits (report event) limit m [] := by
  rcases m with ⟨⟨services, journal⟩, time⟩
  simp [Submits, Journal.submissions_append]

theorem submits_map {x : Timed (Session σ) α} {m : Moment (Session σ)} (f : α → β)
    (h : Submits x limit m calls) : Submits (f <$> x) limit m calls := by
  unfold Submits
  rw [map_apply]
  exact h

/-- Whatever comes behind the last submission leaves the submissions as they are. -/
theorem submits_bind {x : Timed (Session σ) α} {f : α → Timed (Session σ) β}
    {m : Moment (Session σ)} (hx : Submits x limit m calls)
    (hf : ∀ a m', Submits (f a) limit m' []) : Submits (x >>= f) limit m calls := by
  unfold Submits at hx ⊢
  rw [bind_apply, ← hx]
  rcases x limit m with ⟨_ | a, m'⟩
  · rfl
  · exact (hf a m').trans (List.append_nil _)

theorem submits_report_bind {event : Event} {f : Unit → Timed (Session σ) β}
    (h : Submits (f ()) limit ⟨⟨services, journal ++ [⟨time, .reported event⟩]⟩, time⟩ calls) :
    Submits (report event >>= f) limit ⟨⟨services, journal⟩, time⟩ calls := by
  unfold Submits at h ⊢
  rw [bind_of_some (report_apply event), h]
  simp [Journal.submissions_append]

theorem submits_perform_bind {call : Call} {answer : Timed σ α} {f : α → Timed (Session σ) β}
    {a : α} {m : Moment σ} (hcall : call.isSubmission = false)
    (ha : answer limit ⟨services, time⟩ = (some a, m))
    (h : Submits (f a) limit ⟨⟨m.state, journal ++ [⟨time, .called call⟩]⟩, m.now⟩ calls) :
    Submits (perform call answer >>= f) limit ⟨⟨services, journal⟩, time⟩ calls := by
  unfold Submits at h ⊢
  rw [bind_of_some (perform_of call ha), h]
  simp [Journal.submissions_append, hcall]

theorem reportEvaluation_apply (evaluation : Evaluation) :
    reportEvaluation evaluation limit (⟨⟨services, journal⟩, time⟩ : Moment (Session σ)) =
      (some (), ⟨⟨services, journal ++
        (evaluation.failures.map fun failure => ⟨time, .reported (.simulationTxFailed failure)⟩) ++
        [⟨time, .reported (.simulationSummary evaluation.success evaluation.profit)⟩]⟩, time⟩) :=
  bind_of_some (forM_report_apply Event.simulationTxFailed evaluation.failures)

theorem yields_reportEvaluation_bind {evaluation : Evaluation} {f : Unit → Timed (Session σ) β}
    {Q : Option β → Moment (Session σ) → Prop}
    (h : ∀ journal, (f ()).Yields limit ⟨⟨services, journal⟩, time⟩ Q) :
    (reportEvaluation evaluation >>= f).Yields limit ⟨⟨services, journal⟩, time⟩ Q := by
  unfold Yields
  rw [bind_of_some (reportEvaluation_apply evaluation)]
  exact h _

theorem submits_reportEvaluation_bind {evaluation : Evaluation} {f : Unit → Timed (Session σ) β}
    (h : ∀ journal, Submits (f ()) limit ⟨⟨services, journal⟩, time⟩ calls) :
    Submits (reportEvaluation evaluation >>= f) limit ⟨⟨services, journal⟩, time⟩ calls := by
  have hf := h (journal ++
    (evaluation.failures.map fun failure => ⟨time, .reported (.simulationTxFailed failure)⟩) ++
    [⟨time, .reported (.simulationSummary evaluation.success evaluation.profit)⟩])
  unfold Submits at hf ⊢
  rw [bind_of_some (reportEvaluation_apply evaluation), hf]
  simp [Journal.submissions_append]

/-! ## Runs that submit nothing -/

/-- Nothing is submitted: the journal shows no submission, and nothing hangs on what the relay would
do with one. -/
def Unsent (x : Collaborators σ → Timed (Session σ) α) (c : Collaborators σ) (limit : Option Nat)
    (m : Moment (Session σ)) : Prop :=
  Submits (x c) limit m [] ∧ ∀ submit, x (c.submitting submit) limit m = x c limit m

/-- A computation that does not know the services and submits nothing is unsent. -/
theorem unsent_of_same {x : Timed (Session σ) α} {m : Moment (Session σ)}
    (h : Submits x limit m []) : Unsent (fun _ => x) c limit m :=
  ⟨h, fun _ => rfl⟩

theorem unsent_pure (a : α) (m : Moment (Session σ)) : Unsent (fun _ => pure a) c limit m :=
  unsent_of_same (submits_pure a m)

theorem unsent_told (event : Event) (a : α) (m : Moment (Session σ)) :
    Unsent (fun _ => report event >>= fun _ => pure a) c limit m :=
  unsent_of_same (submits_bind (submits_report event m) fun _ => submits_pure a)

theorem unsent_map {x : Collaborators σ → Timed (Session σ) α} {m : Moment (Session σ)} (f : α → β)
    (h : Unsent x c limit m) : Unsent (fun c => f <$> x c) c limit m := by
  refine ⟨submits_map f h.1, fun submit => ?_⟩
  dsimp only
  rw [map_apply, map_apply, h.2 submit]

theorem unsent_report_bind {x : Collaborators σ → Unit → Timed (Session σ) α} {event : Event}
    (h : Unsent (fun c => x c ()) c limit
      ⟨⟨services, journal ++ [⟨time, .reported event⟩]⟩, time⟩) :
    Unsent (fun c => report event >>= x c) c limit ⟨⟨services, journal⟩, time⟩ := by
  refine ⟨submits_report_bind h.1, fun submit => ?_⟩
  dsimp only
  rw [bind_of_some (report_apply event), bind_of_some (report_apply event)]
  exact h.2 submit

theorem unsent_reportEvaluation_bind {x : Collaborators σ → Unit → Timed (Session σ) α}
    {evaluation : Evaluation}
    (h : ∀ journal, Unsent (fun c => x c ()) c limit ⟨⟨services, journal⟩, time⟩) :
    Unsent (fun c => reportEvaluation evaluation >>= x c) c limit ⟨⟨services, journal⟩, time⟩ := by
  refine ⟨submits_reportEvaluation_bind fun j => (h j).1, fun submit => ?_⟩
  dsimp only
  rw [bind_of_some (reportEvaluation_apply evaluation),
    bind_of_some (reportEvaluation_apply evaluation)]
  exact (h _).2 submit

/-- Where the clock does not reach to the end of the wait, the wait breaks off before the relay is
called. -/
theorem unsent_awaitInclusion_bind {b : Broadcast} {bundle : Bundle}
    {x : Collaborators σ → Except TransportError InclusionState → Timed (Session σ) α}
    {m : Moment (Session σ)} (h : ¬ b.HasDeadline m.now) :
    Unsent (fun c => b.awaitInclusion c.relay bundle >>= x c) c limit m := by
  have hhalt (c : Collaborators σ) :
      (b.awaitInclusion c.relay bundle >>= x c) limit m = (none, m) :=
    bind_of_none (Broadcast.awaitInclusion_halts c.relay bundle h)
  refine ⟨?_, fun submit => ?_⟩
  · dsimp only [Submits]
    rw [hhalt]
    exact (List.append_nil _).symm
  · dsimp only
    rw [hhalt, hhalt]

/-- What has submitted something after a call has an answer to the call, and goes on from it. -/
theorem exists_of_not_unsent {call : Call} {answer : Collaborators σ → Timed σ β}
    {x : Collaborators σ → β → Timed (Session σ) α} (hcall : call.isSubmission = false)
    (hsame : ∀ submit, answer (c.submitting submit) = answer c)
    (h : ¬ Unsent (fun c => perform call (answer c) >>= x c) c limit ⟨⟨services, journal⟩, time⟩) :
    ∃ b m, answer c limit ⟨services, time⟩ = (some b, m) ∧
      ¬ Unsent (fun c => x c b) c limit
        ⟨⟨m.state, journal ++ [⟨time, .called call⟩]⟩, m.now⟩ := by
  rcases hb : answer c limit ⟨services, time⟩ with ⟨_ | b, m⟩
  · -- An open call ends the run, so nothing can follow it.
    refine absurd ⟨?_, fun submit => ?_⟩ h
    · dsimp only [Submits]
      rw [bind_of_none (perform_of call hb)]
      simp [Journal.submissions_append, hcall]
    · dsimp only
      rw [hsame, bind_of_none (perform_of call hb), bind_of_none (perform_of call hb)]
  · refine ⟨b, m, rfl, fun hx => h ⟨submits_perform_bind hcall hb hx.1, fun submit => ?_⟩⟩
    dsimp only
    rw [hsame, bind_of_some (perform_of call hb), bind_of_some (perform_of call hb)]
    exact hx.2 submit

/-! ## What has to go well -/

/-- The chain tells its network and its newest block, so that a bundle can be routed. -/
structure Route (c : Collaborators σ) (limit : Option Nat) (start : Moment σ) where
  networkId : UInt64
  located : Moment σ
  head : UInt64
  routed : Moment σ
  identifies : Timed.call c.chain.networkId limit start = (some (.ok networkId), located)
  locates : Timed.call c.chain.blockNumber limit located = (some (.ok head), routed)

/-- The receiver of fee refunds is installed, where there is one to install. -/
def Credits (c : Collaborators σ) (config : Config) (limit : Option Nat)
    (start stop : Moment σ) : Prop :=
  match config.refundTarget? with
  | none => stop = start
  | some target => c.relay.updateFeeRefund target.address limit start = (some (.ok ()), stop)

/-- All that has to go well before a bundle may be submitted, from the moment at which a run
starts. -/
structure Clearance (c : Collaborators σ) (config : Config) (limit : Option Nat)
    (start : Moment σ) where
  verified : Moment σ
  credited : Moment σ
  built : BuiltBundle
  composed : Moment σ
  simulation : Simulation
  simulated : Moment σ
  agreed : Moment σ
  route : Route c limit agreed
  verifies : c.verify config limit start = (some (.ok ()), verified)
  credits : Credits c config limit verified credited
  builds : c.build config limit credited = (some (.ok built), composed)
  simulates : c.relay.simulate built.bundle config.simulationBlockOffset limit composed =
    (some (.ok (simulation, true)), simulated)
  aligned : simulation.results.length = built.bundle.size
  flawless : simulation.Flawless
  live : config.dryRun = false
  covered : config.profitCheck.Covers built.bundle built.expectedProfit
  agrees : c.confirm config.skipConfirmation limit simulated = (some (.ok true), agreed)

/-- The clock reaches to the end of the wait for what was cleared. -/
def Clearance.HasDeadline {start : Moment σ} (k : Clearance c config limit start) : Prop :=
  config.broadcast.HasDeadline k.route.routed.now

/-! ## Whatever is submitted was cleared -/

/-- A broadcast that may submit has a route, and a deadline behind it. -/
theorem route_of_not_unsent {bundle : Bundle} {simulation : Simulation}
    (h : ¬ Unsent (fun c => settle c config bundle simulation) c limit
      ⟨⟨services, journal⟩, time⟩) :
    ∃ route : Route c limit ⟨services, time⟩,
      config.broadcast.HasDeadline route.routed.now := by
  simp only [settle, Broadcast.send, bind_assoc] at h
  obtain ⟨network, located, hn, h⟩ := exists_of_not_unsent rfl (fun _ => rfl) h
  cases network with
  | error e => exact absurd (unsent_pure _ _) h
  | ok networkId =>
      simp only [bind_assoc] at h
      obtain ⟨newest, routed, hh, h⟩ := exists_of_not_unsent rfl (fun _ => rfl) h
      cases newest with
      | error e => exact absurd (unsent_pure _ _) h
      | ok head =>
          refine ⟨⟨networkId, located, head, routed, hn, hh⟩, Classical.not_not.1 fun hend => h ?_⟩
          simp only [bind_assoc]
          exact unsent_report_bind (unsent_awaitInclusion_bind hend)

/-- A bundle that may be submitted was agreed to. -/
theorem agreed_of_not_unsent {bundle : Bundle} {simulation : Simulation}
    (h : ¬ Unsent (fun c => proceed c config bundle simulation) c limit
      ⟨⟨services, journal⟩, time⟩) :
    ∃ agreed, c.confirm config.skipConfirmation limit ⟨services, time⟩ = (some (.ok true), agreed) ∧
      ∃ route : Route c limit agreed, config.broadcast.HasDeadline route.routed.now := by
  obtain ⟨answer, agreed, ha, h⟩ := exists_of_not_unsent rfl (fun _ => rfl) h
  rcases answer with e | _ | _
  · exact absurd (unsent_pure _ _) h
  · exact absurd (unsent_told _ _ _) h
  · have hs : ¬ Unsent (fun c => settle c config bundle simulation) c limit _ :=
      fun hs => h (unsent_map Except.ok hs)
    exact ⟨agreed, ha, route_of_not_unsent hs⟩

/-- A decision that may lead to a submission has found the simulation aligned and flawless, the
profit enough and the run no dry one. -/
theorem cleared_of_not_unsent {built : BuiltBundle} {simulation : Simulation} {verdict : Bool}
    (h : ¬ Unsent (fun c => decide c config built simulation verdict) c limit
      ⟨⟨services, journal⟩, time⟩) :
    verdict = true ∧ simulation.results.length = built.bundle.size ∧ simulation.Flawless ∧
      config.dryRun = false ∧ config.profitCheck.Covers built.bundle built.expectedProfit ∧
      ∃ agreed, c.confirm config.skipConfirmation limit ⟨services, time⟩ =
        (some (.ok true), agreed) ∧
          ∃ route : Route c limit agreed, config.broadcast.HasDeadline route.routed.now := by
  -- The figures are reported first; each gate behind them lets pass or ends the run.
  obtain ⟨journal', h⟩ := Classical.not_forall.1 (mt unsent_reportEvaluation_bind h)
  by_cases hd : config.dryRun = true
  · simp only [if_pos hd] at h
    exact absurd (unsent_told _ _ _) h
  simp only [if_neg hd] at h
  let evaluation := built.bundle.evaluate simulation verdict built.expectedProfit
  by_cases hs : (!evaluation.success) = true
  · simp only [evaluation, if_pos hs] at h
    exact absurd (unsent_pure _ _) h
  simp only [evaluation, if_neg hs] at h
  by_cases ha : (!config.profitCheck.admits evaluation.profit) = true
  · simp only [evaluation, if_pos ha] at h
    exact absurd (unsent_told _ _ _) h
  simp only [evaluation, if_neg ha] at h
  rw [Bool.not_eq_true, Bool.not_eq_false'] at hs ha
  obtain ⟨hv, hl, hf⟩ := (Bundle.evaluate_success_iff _ _ _ _).1 hs
  exact ⟨hv, hl, hf, Bool.eq_false_iff.2 hd, (ProfitCheck.admits_profit_iff _ _ _).1 ha,
    agreed_of_not_unsent h⟩

theorem not_unsent_of_preflight {x : Collaborators σ → Except TransportError Unit →
      Timed (Session σ) Result} {e : TransportError → ExecutionError}
    (herror : ∀ c error, x c (.error error) = pure (.error (e error)))
    (h : ¬ Unsent (fun c => preflight c config >>= x c) c limit ⟨⟨services, journal⟩, time⟩) :
    ∃ credited journal', Credits c config limit ⟨services, time⟩ credited ∧
      ¬ Unsent (fun c => x c (.ok ())) c limit ⟨⟨credited.state, journal'⟩, credited.now⟩ := by
  cases ht : config.refundTarget? with
  | none =>
      simp only [preflight, ht, pure_bind] at h
      exact ⟨⟨services, time⟩, journal, by simp [Credits, ht], h⟩
  | some target =>
      simp only [preflight, ht, bind_assoc] at h
      obtain ⟨answer, credited, hc, h⟩ := exists_of_not_unsent rfl (fun _ => rfl) h
      rcases answer with error | _
      · simp only [pure_bind, herror] at h
        exact absurd (unsent_pure _ _) h
      · simp only [bind_assoc, pure_bind] at h
        exact ⟨credited, _, by simpa [Credits, ht] using hc, fun hu => h (unsent_report_bind hu)⟩

/-! ## Whole runs -/

/-- A run that may submit is cleared, and its wait has a deadline. -/
theorem clearance_of_not_unsent
    (h : ¬ Unsent (fun c => run c config) c limit ⟨⟨services, journal⟩, time⟩) :
    ∃ k : Clearance c config limit ⟨services, time⟩, k.HasDeadline := by
  obtain ⟨answer, verified, hv, h⟩ := exists_of_not_unsent rfl (fun _ => rfl) h
  rcases answer with e | _
  · exact absurd (unsent_pure _ _) h
  obtain ⟨credited, journal', hc, h⟩ := not_unsent_of_preflight (fun _ _ => rfl) h
  obtain ⟨answer, composed, hb, h⟩ := exists_of_not_unsent rfl (fun _ => rfl) h
  rcases answer with e | built
  · exact absurd (unsent_pure _ _) h
  obtain ⟨answer, simulated, hs, h⟩ := exists_of_not_unsent rfl (fun _ => rfl) h
  rcases answer with e | ⟨simulation, verdict⟩
  · exact absurd (unsent_pure _ _) h
  obtain ⟨rfl, hl, hf, hd, hp, agreed, ha, route, htime⟩ := cleared_of_not_unsent h
  exact ⟨⟨verified, credited, built, composed, simulation, simulated, agreed, route,
    hv, hc, hb, hs, hl, hf, hd, hp, ha⟩, htime⟩

/-! ## Whatever was cleared is submitted -/

def Route.submission {start : Moment σ} (r : Route c limit start) (config : Config)
    (bundle : Bundle) : Call :=
  .sendAndAwait (bundle.routed r.networkId r.head) config.broadcast.retryRounds
    (config.broadcast.deadlineFrom r.routed.now)

def Clearance.submission {start : Moment σ} (k : Clearance c config limit start) : Call :=
  k.route.submission config k.built.bundle

/-- With a deadline the wait for inclusion makes one submission. -/
theorem submits_awaitInclusion {b : Broadcast} (relay : Relay σ) (bundle : Bundle)
    (h : b.HasDeadline time) :
    Submits (b.awaitInclusion relay bundle) limit ⟨⟨services, journal⟩, time⟩
      [.sendAndAwait bundle b.retryRounds (b.deadlineFrom time)] := by
  unfold Submits
  rw [Broadcast.awaitInclusion_apply relay bundle h, map_apply]
  dsimp only [Broadcast.supervised]
  rw [within_state, perform_apply]
  simp [Journal.submissions_append, Call.isSubmission]

/-- Over a route that leaves a deadline, a broadcast makes one submission. -/
theorem Route.submits_settle (r : Route c limit ⟨services, time⟩) (bundle : Bundle)
    (simulation : Simulation) (h : config.broadcast.HasDeadline r.routed.now) :
    Submits (settle c config bundle simulation) limit ⟨⟨services, journal⟩, time⟩
      [r.submission config bundle] := by
  refine submits_bind ?_ fun sent m' => ?_
  · refine submits_perform_bind rfl r.identifies ?_
    refine submits_perform_bind rfl r.locates ?_
    refine submits_report_bind (submits_bind (submits_awaitInclusion _ _ h) fun result m' => ?_)
    cases result with
    | error source => exact submits_pure _ m'
    | ok state => exact submits_pure _ m'
  · rcases sent with ⟨e | report, routed⟩
    · exact submits_pure _ m'
    · dsimp only
      split
      · exact submits_bind (submits_report _ m') fun _ => submits_pure _
      · exact submits_bind (submits_report _ m') fun _ => submits_pure _

theorem submits_preflight_bind {f : Except TransportError Unit → Timed (Session σ) α}
    {credited : Moment σ} (hc : Credits c config limit ⟨services, time⟩ credited)
    (h : ∀ journal, Submits (f (.ok ())) limit ⟨⟨credited.state, journal⟩, credited.now⟩ calls) :
    Submits (preflight c config >>= f) limit ⟨⟨services, journal⟩, time⟩ calls := by
  cases ht : config.refundTarget? with
  | none =>
      simp only [Credits, ht] at hc
      subst hc
      simpa only [preflight, ht, pure_bind] using h journal
  | some target =>
      simp only [Credits, ht] at hc
      simp only [preflight, ht, bind_assoc]
      refine submits_perform_bind rfl hc ?_
      simp only [bind_assoc, pure_bind]
      exact submits_report_bind (h _)

/-- A run that is cleared and has a deadline makes one submission. -/
theorem Clearance.submits_run (k : Clearance c config limit ⟨services, time⟩)
    (h : k.HasDeadline) :
    Submits (run c config) limit ⟨⟨services, journal⟩, time⟩ [k.submission] := by
  have hs : (k.built.bundle.evaluate k.simulation true k.built.expectedProfit).success = true :=
    (Bundle.evaluate_success_iff _ _ _ _).2 ⟨rfl, k.aligned, k.flawless⟩
  have ha : config.profitCheck.admits
      (k.built.bundle.evaluate k.simulation true k.built.expectedProfit).profit = true :=
    (ProfitCheck.admits_profit_iff _ _ _).2 k.covered
  refine submits_perform_bind rfl k.verifies ?_
  refine submits_preflight_bind k.credits fun journal => ?_
  refine submits_perform_bind rfl k.builds ?_
  refine submits_perform_bind rfl k.simulates ?_
  refine submits_reportEvaluation_bind fun journal => ?_
  simp only [k.live, hs, ha, Bool.not_true, Bool.false_eq_true, if_false]
  refine submits_perform_bind rfl k.agrees ?_
  exact submits_map _ (k.route.submits_settle _ _ h)

/-- Without clearance and deadline nothing hangs on what the relay would do with a submission. -/
theorem unsent_of_not_cleared {start : Moment σ}
    (h : ¬ ∃ k : Clearance c config limit start, k.HasDeadline) :
    Unsent (fun c => run c config) c limit ⟨Session.new start.state, start.now⟩ :=
  Classical.not_not.1 (mt clearance_of_not_unsent h)

/-- Without clearance and deadline the journal shows no submission. -/
theorem submissions_of_not_cleared {start : Moment σ}
    (h : ¬ ∃ k : Clearance c config limit start, k.HasDeadline) :
    (run c config limit ⟨Session.new start.state, start.now⟩).2.state.journal.submissions = [] :=
  (unsent_of_not_cleared h).1

/-- A run submits at most once, and it does so if and only if all that has to go well beforehand
does and the clock reaches to the end of the wait; otherwise the relay's way with submissions has no
influence on it. -/
theorem submits_once_iff_cleared (c : Collaborators σ) (config : Config) (limit : Option Nat)
    (start : Moment σ) :
    let ending := run c config limit ⟨Session.new start.state, start.now⟩
    ending.2.state.journal.submissions.length ≤ 1 ∧
      (ending.2.state.journal.submissions ≠ [] ↔
        ∃ k : Clearance c config limit start, k.HasDeadline) ∧
      (∀ k : Clearance c config limit start, k.HasDeadline →
        ending.2.state.journal.submissions = [k.submission]) ∧
      ((∃ k : Clearance c config limit start, k.HasDeadline) ∨ ∀ submit,
        run (c.submitting submit) config limit ⟨Session.new start.state, start.now⟩ = ending) := by
  intro ending
  by_cases hk : ∃ k : Clearance c config limit start, k.HasDeadline
  · have hsub (k : Clearance c config limit start) (h : k.HasDeadline) :
        ending.2.state.journal.submissions = [k.submission] := k.submits_run h
    obtain ⟨k, h⟩ := hk
    refine ⟨?_, ?_, hsub, Or.inl ⟨k, h⟩⟩
    · rw [hsub k h]
      exact Nat.le_refl 1
    · rw [hsub k h]
      exact iff_of_true (List.cons_ne_nil _ _) ⟨k, h⟩
  · have hempty : ending.2.state.journal.submissions = [] := submissions_of_not_cleared hk
    refine ⟨?_, ?_, fun k h => absurd ⟨k, h⟩ hk, Or.inr (unsent_of_not_cleared hk).2⟩
    · rw [hempty]
      exact Nat.zero_le 1
    · exact iff_of_false (fun h => h hempty) hk

/-- Settings that pass the check, with a window that ends behind the clock. -/
def endlessConfig : Config :=
  { Config.default with
    nodeAddress := .replicate 20 1
    skipConfirmation := true
    profitCheck := .disabled
    builderCommand := "true"
    broadcast := Broadcast.endless }

/-- Services of which each one answers well, and at once. -/
def obliging : RunScript where
  build _ := .ok ⟨default, 0⟩
  refund := .ok ()
  simulation bundle := .ok (RunScript.flawless (.zero 32) bundle)
  submission := .after 0 (.ok true)
  networkId := .ok Network.mainnet
  head := .ok 19
  terminal := .unlimited

theorem verify_scripted (s : RunScript) (limit : Option Nat) (m : Moment Bytes)
    (h : config.verify = .ok ()) : s.collaborators.verify config limit m = (some (.ok ()), m) := by
  have hverify : s.collaborators.verify config = pure config.verify := rfl
  rw [hverify, h]
  rfl

/-- No check of the settings bounds the window. -/
theorem verify_endlessConfig : endlessConfig.verify = .ok () :=
  Config.verify_of_isOk (by decide +kernel)

/-- What a run with these settings and services clears. -/
def endlessClearance :
    Clearance obliging.collaborators endlessConfig none ⟨[], 0⟩ where
  verified := ⟨[], 0⟩
  credited := ⟨[], 0⟩
  built := ⟨default, 0⟩
  composed := ⟨[], 0⟩
  simulation := (RunScript.flawless (.zero 32) default).1
  simulated := ⟨[], 0⟩
  agreed := ⟨[], 0⟩
  route := ⟨Network.mainnet, ⟨[], 0⟩, 19, ⟨[], 0⟩, rfl, rfl⟩
  verifies := verify_scripted obliging none _ verify_endlessConfig
  credits := rfl
  builds := rfl
  simulates := rfl
  aligned := rfl
  flawless := by simp [Simulation.Flawless, RunScript.flawless, TxOutcome.success]
  live := rfl
  covered := trivial
  agrees := rfl

/-- All that has to go well does, from the check of the settings on, and nothing is submitted. -/
theorem endless_window_unsent :
    let start : Moment Bytes := ⟨[], 0⟩
    Nonempty (Clearance obliging.collaborators endlessConfig none start) ∧
      (run obliging.collaborators endlessConfig none
        ⟨Session.new start.state, start.now⟩).2.state.journal.submissions = [] := by
  intro start
  have hnone : ¬ ∃ k : Clearance obliging.collaborators endlessConfig none start, k.HasDeadline :=
    fun ⟨k, h⟩ => Broadcast.not_hasDeadline_endless k.route.routed.now h
  exact ⟨⟨endlessClearance⟩, submissions_of_not_cleared hnone⟩

end Execution
end ArbBundle
