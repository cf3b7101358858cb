import ArbBundle.Execution.Scripted
import ArbBundle.Proofs.Execution.Events
import ArbBundle.Proofs.Fees
import ArbBundle.Report.Console

/-!
# Rejection — what is said of a bundle that does not pay

The check that turns a bundle down, the line on the console and the text of the outcome each choose
one of two fees by themselves.  They choose the same one wherever a bundle is turned down, since the
check that asks for no fee admits all.

- `BundleFee`: the two fees that a bundle can be measured by
- `ProfitCheck.fee?`: the one that a check asks for
- `Execution.CallLog.built_of_reviewed?`: the bundle that a run is about is the one that was built
- `Execution.rejection_names_fee`: the figures of such a run, and its words
-/

namespace ArbBundle

/-! ## The fees of a bundle -/

/-- The fees that a bundle can be measured by. -/
inductive BundleFee
  /-- The largest fee of all transactions together. -/
  | whole
  /-- The largest fee of the settling transaction. -/
  | settling
  deriving DecidableEq

namespace BundleFee

def amount (b : Bundle) : BundleFee → Wei
  | .whole => b.maxFee
  | .settling => b.last.maxFee

def exact (b : Bundle) : BundleFee → Nat
  | .whole => b.exactFee
  | .settling => b.last.exactFee

def words : BundleFee → String
  | .whole => "max bundle fees"
  | .settling => "max arbitrage fees"

/-- Up to `2 ^ 64` transactions neither fee of a bundle wraps around. -/
theorem toNat_amount {b : Bundle} (hsize : b.size ≤ 2 ^ 64) (fee : BundleFee) :
    (fee.amount b).toNat = fee.exact b := by
  cases fee with
  | whole =>
      exact Bundle.toNat_maxFee hsize
  | settling =>
      exact b.last.toNat_maxFee

end BundleFee

namespace ProfitCheck

/-- The fee that a check asks for, if it asks for one. -/
def fee? : ProfitCheck → Option BundleFee
  | .disabled => none
  | .strictCost => some .whole
  | .ignoreDistributeCost => some .settling

/-- The threshold of a check is the amount of the fee that it asks for. -/
theorem threshold?_profit (check : ProfitCheck) (b : Bundle) (expected : Wei) :
    check.threshold? (b.profit expected) = check.fee?.map (BundleFee.amount b) := by
  cases check <;> rfl

/-- The fee on the console is the one that the check asks for, if it asks for one. -/
theorem rejectedFee_of_threshold? {check : ProfitCheck} {profit : Profit} {required : Wei}
    (h : check.threshold? profit = some required) :
    Console.rejectedFee check profit = required := by
  cases check with
  | disabled =>
      cases h
  | strictCost | ignoreDistributeCost =>
      exact Option.some.inj h

/-- The fee in the text of the outcome is the one that the check asks for, if it asks for one. -/
theorem message_of_fee? {check : ProfitCheck} {fee : BundleFee} (h : check.fee? = some fee)
    (expected required : Wei) : (Outcome.profitTooLow check expected required).message =
      "expected profit is less than " ++ fee.words := by
  cases check with
  | disabled =>
      cases h
  | strictCost | ignoreDistributeCost =>
      cases h
      rfl

/-- A profit that is not admitted is below the fee that the check asks for. -/
theorem lt_of_not_admits {check : ProfitCheck} {profit : Profit} {required : Wei}
    (hadmits : check.admits profit = false) (h : check.threshold? profit = some required) :
    profit.expected < required := by
  rw [admits, h] at hadmits
  exact BitVec.not_le.1 (of_decide_eq_false hadmits)

end ProfitCheck

namespace Execution

open Session

variable {σ : Type} {c : Collaborators σ} {config : Config} {limit : Option Nat}

/-- What the first call of a kind was answered with was the answer to a call of the log. -/
theorem CallLog.mem_of_value? {β : Type} {pick : (call : Call) → call.Value → Option β}
    {log : CallLog σ} {b : β} (h : log.value? c config limit pick = some b) :
    ∃ x ∈ log, ∃ value m, c.answer config limit x.2 x.1 = (some (.ok value), m) ∧
      pick x.2 value = some b := by
  obtain ⟨x, hx, hanswered⟩ := List.exists_of_findSome?_eq_some h
  refine ⟨x, hx, ?_⟩
  obtain ⟨m, call⟩ := x
  rcases hanswer : c.answer config limit call m with ⟨_ | _ | value, m'⟩
  · rw [CallLog.answered?_of_open hanswer] at hanswered
    cases hanswered
  · rw [CallLog.answered?_of_error hanswer] at hanswered
    cases hanswered
  · rw [answered?, hanswer] at hanswered
    exact ⟨value, m', rfl, hanswered⟩

/-- The bundle that a run is about is the one that was built. -/
theorem CallLog.built_of_reviewed? {log : CallLog σ} {review : Review}
    (h : log.reviewed? c config limit = some review) :
    ∃ m m', (m, Call.build) ∈ log ∧ c.build config limit m = (some (.ok review.built), m') := by
  obtain ⟨built, hbuilt, simulated, -, hreview⟩ := by
    simpa only [reviewed?, Option.bind_eq_bind, Option.bind_eq_some_iff] using h
  cases hreview
  obtain ⟨⟨m, call⟩, hx, value, m', hanswer, hpick⟩ := mem_of_value? hbuilt
  cases call with
  | build =>
      cases hpick
      exact ⟨m, m', hx, hanswer⟩
  | _ => cases hpick

/-- A run that has turned its bundle down tells the fee that was missed behind all else. -/
theorem CallLog.account_profitTooLow {log : CallLog σ} {review : Review}
    (h : log.reviewed? c config limit = some review) (hroute : log.routed? c config limit = none)
    (check : ProfitCheck) (expected required : Wei) :
    ∃ told, log.account c config limit (some (.ok (.profitTooLow check expected required))) =
        told ++ [.profitRejected check review.evaluation.profit] ∧
      ∀ event ∈ told, event.turn < 4 := by
  refine ⟨(log.credited? c config limit).toList.map .refundRecipientUpdated ++ review.figures,
    ?_, fun event hevent => ?_⟩
  · rw [account, h, hroute]
    simp [Review.tale, Review.farewell]
  · rcases List.mem_append.1 hevent with hevent | hevent
    · obtain ⟨target, -, rfl⟩ := List.mem_map.1 hevent
      exact Nat.succ_pos 3
    · have := review.turn_of_mem_figures hevent
      omega

/-- A run that turns its bundle down does so by the check of its settings, which asks for one of the
two fees.  The expected profit that the builder has printed is below that fee, whose amount is
exact; it is the fee on the console and in the words of the outcome. -/
theorem rejection_names_fee (c : Collaborators σ) (config : Config) (limit : Option Nat)
    (start : Moment σ) {check : ProfitCheck} {expected required : Wei}
    {ending : Moment (Session σ)}
    (hrun : run c config limit ⟨Session.new start.state, start.now⟩ =
      (some (.ok (.profitTooLow check expected required)), ending)) :
    check = config.profitCheck ∧ check ≠ .disabled ∧
    ∃ (log : CallLog σ) (asked answered : Moment σ) (built : BuiltBundle) (fee : BundleFee)
      (told : List Event),
      ending.state.journal.timedCalls = log.noted ∧ Linked c config limit start log ∧
      (asked, Call.build) ∈ log ∧ c.build config limit asked = (some (.ok built), answered) ∧
      expected = built.expectedProfit ∧ expected < required ∧
      check.fee? = some fee ∧ required = fee.amount built.bundle ∧
      (built.bundle.size ≤ 2 ^ 64 → required.toNat = fee.exact built.bundle) ∧
      ending.state.journal.events =
        told ++ [.profitRejected check (built.bundle.profit expected)] ∧
      (∀ other profit, .profitRejected other profit ∉ told) ∧
      (∀ colours deadline,
        let head := Console.paint colours .red "Aborting:"
        Console.render colours deadline (.profitRejected check (built.bundle.profit expected)) =
          s!"{head} expected profit {Console.ether expected} " ++
          s!"is less than the max fee {Console.ether required} ({check.name})\n") ∧
      (Outcome.profitTooLow check expected required).message =
        "expected profit is less than " ++ fee.words := by
  obtain ⟨log, told, hadds, hlinked, rfl, hends⟩ : Tells c config (run c config) limit
    ⟨Session.new start.state, start.now⟩ _ := tells_run
  rw [hrun] at hadds hends
  have hevents : ending.state.journal.events = _ := hadds.events
  have hcalls : ending.state.journal.timedCalls = log.noted := hadds.calls
  generalize hreview : log.reviewed? c config limit = review?,
    hroute : log.routed? c config limit = route? at hends
  -- All other ends that may carry an outcome of this kind would be faults.
  cases hends with
  | unreviewed hfault | unsent _ _ hfault | lost _ _ hfault =>
      cases hfault _ rfl
  | @rejected review _ _ _ hadmits hthreshold =>
      obtain ⟨asked, answered, hasked, hbuild⟩ := CallLog.built_of_reviewed? hreview
      obtain ⟨told, haccount, htold⟩ := CallLog.account_profitTooLow hreview hroute
        config.profitCheck review.built.expectedProfit required
      have hamount : config.profitCheck.fee?.map (BundleFee.amount review.built.bundle) =
          some required :=
        (config.profitCheck.threshold?_profit _ _).symm.trans hthreshold
      -- A check with something to miss asks for one of the two fees.
      obtain ⟨fee, hfee, hrequired⟩ := Option.map_eq_some_iff.1 hamount
      have hchecks : config.profitCheck ≠ .disabled := by
        intro hdisabled
        rw [hdisabled] at hfee
        cases hfee
      refine ⟨rfl, hchecks, log, asked, answered, review.built, fee, told, hcalls, hlinked, hasked,
        hbuild, rfl, ProfitCheck.lt_of_not_admits hadmits hthreshold, hfee, hrequired.symm,
        fun hsize => ?_, ?_, fun other profit h => ?_, fun colours deadline => ?_,
        ProfitCheck.message_of_fee? hfee _ _⟩
      · rw [← hrequired]
        exact fee.toNat_amount hsize
      · exact hevents.trans haccount
      · exact absurd (htold _ h) (lt_irrefl 4)
      · intro head
        rw [← ProfitCheck.rejectedFee_of_threshold? hthreshold]
        rfl

/-- Two costly transactions whose profit falls short of the settling one by the least amount. -/
def shortfall : BuiltBundle :=
  ⟨⟨[Bundle.costliest, Bundle.costliest], List.cons_ne_nil _ _, none, []⟩,
    Bundle.costliest.maxFee - 1⟩

/-- Services under which the bundle goes through, and does not pay. -/
def underpaid : Collaborators Unit where
  verify _ := return .ok ()
  build _ := return .ok shortfall
  confirm _ := return .ok true
  relay := {
    updateFeeRefund _ := return .ok ()
    simulate bundle _ := return .ok (RunScript.flawless (.zero 32) bundle)
    sendAndAwait _ _ _ := return .ok true }
  chain := {
    networkId := .steady .never
    blockNumber := .steady .never
    inclusionBlock _ := .steady .never }

/-- Where only the settling transaction has to be paid for, it is the one whose fee is named. -/
theorem shortfall_names_settling :
    let config := { Config.default with profitCheck := .ignoreDistributeCost }
    let ending := (run underpaid config none ⟨.new (), 0⟩).2
    run underpaid config none ⟨.new (), 0⟩ = (some (.ok (.profitTooLow .ignoreDistributeCost
      shortfall.expectedProfit Bundle.costliest.maxFee)), ending) ∧
      (∃ told, ending.state.journal.events = told ++ [.profitRejected .ignoreDistributeCost
        (shortfall.bundle.profit shortfall.expectedProfit)]) ∧
      (Outcome.profitTooLow .ignoreDistributeCost shortfall.expectedProfit
        Bundle.costliest.maxFee).message =
          "expected profit is less than " ++ BundleFee.settling.words := by
  intro config ending
  have hrun : run underpaid config none ⟨.new (), 0⟩ = (some (.ok (.profitTooLow
      .ignoreDistributeCost shortfall.expectedProfit Bundle.costliest.maxFee)), ending) := rfl
  obtain ⟨-, -, log, asked, answered, built, fee, told, -, -, -, hbuild, -, -, hfee, -, -, hevents,
    -, -, hmessage⟩ := rejection_names_fee underpaid config none ⟨(), 0⟩ hrun
  -- There is only one bundle that these services build.
  obtain rfl : shortfall = built := Except.ok.inj (Option.some.inj (congrArg Prod.fst hbuild))
  obtain rfl : BundleFee.settling = fee := Option.some.inj hfee
  exact ⟨hrun, ⟨told, hevents⟩, hmessage⟩

end Execution
end ArbBundle
