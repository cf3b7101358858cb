import ArbBundle.Proofs.Execution.Calls

/-!
# Settlement — the runs that end in an inclusion

A run that sees its bundle included has been cleared, and its submission has said so; and what it
reports is then taken from the simulation.

- `Route.settle_apply`: what a broadcast over a route comes to
- `Clearance.run_apply`: a run that was cleared is a broadcast over its route
- `Clearance.ends`, `Clearance.halts`: it comes to a result if the wait has a deadline, and else to
  nothing
- `Clearance.included_iff`, `clearance_of_included`: which runs end in an inclusion
-/

namespace ArbBundle
namespace Execution

open Timed Session

variable {σ : Type} {c : Collaborators σ} {config : Config} {limit : Option Nat}
  {services : σ} {journal : Journal} {time : Nat}

/-- The hash that a run reports for a bundle that was included. -/
def reportedHash (bundle : Bundle) (simulation : Simulation) : Digest :=
  simulation.settlementHash?.getD bundle.last.hash

/-! ## Broadcasts -/

/-- What the submission of a bundle over a route comes to, under its deadline. -/
def Route.submit {start : Moment σ} (r : Route c limit start) (config : Config) (bundle : Bundle) :
    Option (Except TransportError Bool) × Moment σ :=
  let deadline := config.broadcast.deadlineFrom r.routed.now
  c.relay.sendAndAwait (bundle.routed r.networkId r.head) config.broadcast.retryRounds deadline
    (some (limit.elim deadline (min deadline))) r.routed

/-- A broadcast over a route that has a deadline leaves the services as its submission leaves them,
comes to a result under no limit, and ends in an inclusion where the submission has seen one. -/
theorem Route.settle_apply (r : Route c limit ⟨services, time⟩) {bundle : Bundle}
    {simulation : Simulation} {result : Option (Except TransportError Bool)} {ended : Moment σ}
    (h : config.broadcast.HasDeadline r.routed.now)
    (hs : r.submit config bundle = (result, ended)) :
    let settled := settle c config bundle simulation limit ⟨⟨services, journal⟩, time⟩
    settled.2.state.services = ended.state ∧ (limit = none → ∃ outcome, settled.1 = some outcome) ∧
      ∀ txHash link, settled.1 = some (.included txHash link) ↔ result = some (.ok true) ∧
        txHash = reportedHash bundle simulation ∧
        link = explorerLink config r.networkId txHash := by
  intro settled
  obtain ⟨journal', hsend⟩ := Broadcast.send_of_located config.broadcast c.relay bundle
    simulation.bundleHash journal r.identifies r.locates
  obtain ⟨m', hstate, hsup⟩ := supervised_cases journal' hs
  rw [map_apply, Broadcast.awaitInclusion_apply c.relay _ h, map_apply] at hsend
  -- The broadcast hears what the submission came to, or is cut off together with it.
  rcases hsup with hsup | ⟨⟨rfl, hcut⟩, hsup⟩
  · rw [hsup] at hsend
    have hsettle : settled = _ := bind_of_some hsend
    rw [hsettle]
    rcases result with _ | e | _ | _
    · exact ⟨congrArg Session.services hstate, fun _ => ⟨_, rfl⟩, fun _ _ => ⟨nofun, nofun⟩⟩
    · exact ⟨congrArg Session.services hstate, fun _ => ⟨_, rfl⟩, fun _ _ => ⟨nofun, nofun⟩⟩
    · exact ⟨congrArg Session.services hstate, fun _ => ⟨_, rfl⟩, fun _ _ => ⟨nofun, nofun⟩⟩
    · refine ⟨congrArg Session.services hstate, fun _ => ⟨_, rfl⟩, fun txHash link =>
        ⟨fun h => ?_, ?_⟩⟩
      · cases h
        exact ⟨rfl, rfl, rfl⟩
      · rintro ⟨-, rfl, rfl⟩
        rfl
  · rw [hsup] at hsend
    have hopen : settled = (none, m') := bind_of_none hsend
    rw [hopen, hstate]
    exact ⟨rfl, fun hlimit => absurd hlimit hcut, fun _ _ => ⟨nofun, nofun⟩⟩

/-- A broadcast over a route without a deadline breaks off, behind the report of the departure. -/
theorem Route.settle_halts (r : Route c limit ⟨services, time⟩) {bundle : Bundle}
    {simulation : Simulation} (h : ¬ config.broadcast.HasDeadline r.routed.now) :
    (settle c config bundle simulation limit ⟨⟨services, journal⟩, time⟩).1 = none := by
  have hsend := Broadcast.send_halts c.relay bundle simulation.bundleHash journal r.identifies
    r.locates h
  exact congrArg Prod.fst (bind_of_none hsend)

/-! ## Whole runs -/

theorem preflight_of_credits {credited : Moment σ}
    (hc : Credits c config limit ⟨services, time⟩ credited) :
    ∃ journal', preflight c config limit ⟨⟨services, journal⟩, time⟩ =
      (some (.ok ()), ⟨⟨credited.state, journal'⟩, credited.now⟩) := by
  unfold Credits at hc
  unfold preflight
  cases ht : config.refundTarget? with
  | none =>
      rw [ht] at hc
      subst hc
      exact ⟨journal, rfl⟩
  | some target =>
      rw [ht] at hc
      dsimp only at hc ⊢
      rw [bind_of_some (perform_of _ hc)]
      exact ⟨_, rfl⟩

/-- A run that was cleared comes to what the broadcast of its bundle comes to. -/
theorem Clearance.run_apply (k : Clearance c config limit ⟨services, time⟩) :
    ∃ journal', run c config limit ⟨⟨services, journal⟩, time⟩ =
      (Except.ok <$> settle c config k.built.bundle k.simulation) limit
        ⟨⟨k.agreed.state, journal'⟩, k.agreed.now⟩ := by
  have hs : (k.built.bundle.evaluate k.simulation true k.built.expectedProfit).success = true :=
    (Bundle.evaluate_success_iff _ _ _ _).2 ⟨rfl, k.aligned, k.flawless⟩
  have ha : config.profitCheck.admits
      (k.built.bundle.evaluate k.simulation true k.built.expectedProfit).profit = true :=
    (ProfitCheck.admits_profit_iff _ _ _).2 k.covered
  obtain ⟨journal', hp⟩ : ∃ journal', preflight c config limit
      ⟨⟨k.verified.state, journal ++ [⟨time, .called .verify⟩]⟩, k.verified.now⟩ =
        (_, ⟨⟨_, journal'⟩, _⟩) :=
    preflight_of_credits k.credits
  -- The run is followed call by call; at each gate the clearance says that it is open.
  unfold run
  rw [bind_of_some (perform_of .verify k.verifies)]
  dsimp only
  rw [bind_of_some hp]
  dsimp only [execute]
  rw [bind_of_some (perform_of .build k.builds)]
  dsimp only
  rw [bind_of_some (perform_of _ k.simulates)]
  dsimp only [decide]
  rw [bind_of_some (reportEvaluation_apply _)]
  simp only [k.live, hs, ha, Bool.not_true, Bool.false_eq_true, if_false]
  unfold proceed
  rw [bind_of_some (perform_of _ k.agrees)]
  exact ⟨_, rfl⟩

variable {start : Moment σ}

/-- A run that was cleared, with a deadline, leaves the services as its submission leaves them, and
ends in an inclusion where the submission has seen one. -/
theorem Clearance.included_iff (k : Clearance c config limit start) (h : k.HasDeadline)
    {result : Option (Except TransportError Bool)} {ended : Moment σ}
    (hs : k.route.submit config k.built.bundle = (result, ended)) :
    let ending := run c config limit ⟨Session.new start.state, start.now⟩
    ending.2.state.services = ended.state ∧ ∀ txHash link,
      ending.1 = some (.ok (.included txHash link)) ↔ result = some (.ok true) ∧
        txHash = reportedHash k.built.bundle k.simulation ∧
        link = explorerLink config k.route.networkId txHash := by
  intro ending
  obtain ⟨journal, hrun⟩ : ∃ journal, ending = _ := k.run_apply
  obtain ⟨hservices, -, hincluded⟩ : _ ∧ _ ∧ _ := k.route.settle_apply h hs
  rw [map_apply] at hrun
  rw [hrun]
  refine ⟨hservices, fun txHash link => ?_⟩
  rw [← hincluded txHash link]
  simp

/-- Under no limit, a run that was cleared, with a deadline, comes to a result. -/
theorem Clearance.ends (k : Clearance c config none start) (h : k.HasDeadline) :
    ∃ r, (run c config none ⟨Session.new start.state, start.now⟩).1 = some r := by
  obtain ⟨journal, hrun⟩ := k.run_apply
  obtain ⟨-, hends, -⟩ : _ ∧ _ ∧ _ := k.route.settle_apply h rfl
  obtain ⟨outcome, houtcome⟩ := hends rfl
  rw [map_apply, houtcome] at hrun
  exact ⟨.ok outcome, congrArg Prod.fst hrun⟩

/-- A run that was cleared, without a deadline, comes to nothing. -/
theorem Clearance.halts (k : Clearance c config limit start) (h : ¬ k.HasDeadline) :
    (run c config limit ⟨Session.new start.state, start.now⟩).1 = none := by
  obtain ⟨journal, hrun⟩ := k.run_apply
  have hsettle : (settle c config k.built.bundle k.simulation limit
      ⟨⟨k.agreed.state, journal⟩, k.agreed.now⟩).1 = none := k.route.settle_halts h
  rw [map_apply, hsettle] at hrun
  exact congrArg Prod.fst hrun

/-- A run that has submitted was cleared. -/
theorem clearance_of_submissions
    (h : (run c config limit ⟨Session.new start.state, start.now⟩).2.state.journal.submissions ≠
      []) :
    ∃ k : Clearance c config limit start, k.HasDeadline :=
  clearance_of_not_unsent fun hunsent => h hunsent.1

/-- A run that ends in an inclusion was cleared. -/
theorem clearance_of_included {txHash : Digest} {link : String}
    (h : (run c config limit ⟨Session.new start.state, start.now⟩).1 =
      some (.ok (.included txHash link))) :
    ∃ k : Clearance c config limit start, k.HasDeadline := by
  obtain ⟨log, hnoted, found, hfollows⟩ : Makes (run c config) limit
    ⟨Session.new start.state, start.now⟩ _ := makes_run
  have hcalls := hfollows.calls_of_included h
  -- All calls of the itinerary were made, so the bundle was submitted.
  refine clearance_of_submissions fun hnone => ?_
  have hjournal : Journal.calls
      (run c config limit ⟨Session.new start.state, start.now⟩).2.state.journal = log.calls := by
    rw [Journal.calls, hnoted]
    simp [CallLog.noted, CallLog.calls, Session.new, Journal.timedCalls]
  rw [Journal.submissions, hjournal, hcalls, List.filter_eq_nil_iff] at hnone
  refine hnone (.sendAndAwait (found.bundle.routed found.networkId found.head)
    config.broadcast.retryRounds (config.broadcast.deadlineFrom found.located)) ?_ rfl
  simp [Config.itinerary, Config.voyage, Config.departure]

end Execution
end ArbBundle
