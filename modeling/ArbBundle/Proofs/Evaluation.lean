import ArbBundle.Evaluation

/-!
# Evaluation — what the verdict on a bundle says

- `Simulation.Flawless`: no outcome carries an error text
- `ProfitCheck.Covers`: the expected profit covers the fee that a check asks for
- `Simulation.failuresFrom_eq`, `Simulation.mem_failuresFrom_iff`: which outcomes are failures
- `Simulation.failuresFrom_set`: the failures when one outcome becomes a failure
- `Bundle.evaluate_success_iff`: the verdict is the conjunction of its three conditions
- `Bundle.evaluates_each_outcome`: what an evaluation says of each outcome
-/

namespace ArbBundle

namespace TxOutcome

/-- A transaction went through if it has no error text but an empty one. -/
theorem isOk_iff (o : TxOutcome) : o.isOk = true ↔ ∀ e ∈ o.error, e = "" := by
  unfold isOk
  cases o.error with
  | none => simp
  | some e => simp [String.isEmpty_iff]

/-- The revert data can be read off its hexadecimal text. -/
theorem decode?_revertHex (o : TxOutcome) : Hex.decode? o.revertHex.toList = some o.revert := by
  rw [revertHex, String.toList_ofList, Hex.decode?_encode]

theorem isOk_eq_false {o : TxOutcome} {e : String} (herror : o.error = some e) (hne : e ≠ "") :
    o.isOk = false := by
  simp [isOk, herror, hne]

end TxOutcome

namespace Simulation

/-- No outcome carries an error text. -/
def Flawless (s : Simulation) : Prop :=
  ∀ o ∈ s.results, ∀ e ∈ o.error, e = ""

/-- Every transaction went through just where no outcome carries an error text. -/
theorem allOk_iff (s : Simulation) : s.allOk = true ↔ s.Flawless := by
  unfold allOk Flawless
  rw [List.all_eq_true]
  exact forall₂_congr fun o _ => o.isOk_iff

/-- No failure is found just where every transaction went through, wherever the counting starts. -/
theorem failuresFrom_eq_nil_iff (start : Nat) (outcomes : List TxOutcome) :
    failuresFrom start outcomes = [] ↔ ∀ o ∈ outcomes, o.isOk = true := by
  induction outcomes generalizing start with
  | nil => simp [failuresFrom]
  | cons o rest ih =>
      by_cases h : o.isOk = true
      · simp [failuresFrom, h, ih]
      · simp [failuresFrom, h]

/-- The failures are the outcomes with an error text, each with its place. -/
theorem failuresFrom_eq (start : Nat) (outcomes : List TxOutcome) :
    failuresFrom start outcomes =
      ((outcomes.zipIdx start).filter fun (o, _) => o.error.getD "" ≠ "").map
        fun (o, index) => ⟨index, o.error.getD "", o.revertHex⟩ := by
  induction outcomes generalizing start with
  | nil =>
      rfl
  | cons o rest ih =>
      have hok : o.isOk = true ↔ o.error.getD "" = "" := by
        rw [o.isOk_iff]
        cases o.error <;> simp
      by_cases h : o.error.getD "" = ""
      · simp [failuresFrom, hok.2 h, h, ih]
      · simp [failuresFrom, Bool.eq_false_iff.2 (mt hok.1 h), h, ih]

/-- The failures are the flawed outcomes; each shows its place, its error and its revert data. -/
theorem mem_failuresFrom_iff {start : Nat} {outcomes : List TxOutcome} {f : TxFailure} :
    f ∈ failuresFrom start outcomes ↔ ∃ i o e, outcomes[i]? = some o ∧ o.error = some e ∧ e ≠ "" ∧
      f = ⟨start + i, e, o.revertHex⟩ := by
  rw [failuresFrom_eq]
  simp only [List.mem_map, List.mem_filter, Prod.exists,
    List.mk_mem_zipIdx_iff_le_and_getElem?_sub, decide_eq_true_iff]
  constructor
  · rintro ⟨o, index, ⟨⟨hle, ho⟩, hne⟩, rfl⟩
    have hindex : start + (index - start) = index := by
      omega
    cases herror : o.error with
    | none =>
        simp [herror] at hne
    | some e =>
        simp only [herror, Option.getD_some] at hne
        exact ⟨index - start, o, e, ho, herror, hne, by simp [hindex]⟩
  · rintro ⟨i, o, e, ho, herror, hne, rfl⟩
    have hplace : start ≤ start + i ∧ outcomes[start + i - start]? = some o :=
      ⟨Nat.le_add_right start i, by simpa using ho⟩
    exact ⟨o, start + i, ⟨hplace, by simpa [herror] using hne⟩, by simp [herror]⟩

/-- Places of failures are counted from the first outcome on. -/
theorem le_index_of_mem {start : Nat} {outcomes : List TxOutcome} {f : TxFailure}
    (h : f ∈ failuresFrom start outcomes) : start ≤ f.index := by
  obtain ⟨i, o, e, -, -, -, rfl⟩ := mem_failuresFrom_iff.1 h
  exact Nat.le_add_right start i

/-- The failures stand in the order of their places, and no place has two of them. -/
theorem pairwise_failuresFrom (start : Nat) (outcomes : List TxOutcome) :
    (failuresFrom start outcomes).Pairwise fun f g => f.index < g.index := by
  induction outcomes generalizing start with
  | nil =>
      exact .nil
  | cons o rest ih =>
      by_cases h : o.isOk = true
      · simpa [failuresFrom, h] using ih (start + 1)
      · simp only [failuresFrom, h, Bool.false_eq_true, if_false]
        refine .cons (fun f hf => ?_) (ih (start + 1))
        exact le_index_of_mem hf

/-- Where one outcome becomes a failure, this failure stands at its place, and the failures before
and behind it stay as they are. -/
theorem failuresFrom_set (start : Nat) {i : Nat} {outcomes : List TxOutcome} {o : TxOutcome}
    {e : String} (hi : i < outcomes.length) (herror : o.error = some e) (hne : e ≠ "") :
    failuresFrom start (outcomes.set i o) =
      (failuresFrom start outcomes).filter (·.index < start + i) ++
        ⟨start + i, e, o.revertHex⟩ ::
          (failuresFrom start outcomes).filter (start + i < ·.index) := by
  induction outcomes generalizing start i with
  | nil =>
      cases hi
  | cons first rest ih =>
      have hbehind : ∀ f ∈ failuresFrom (start + 1) rest, start < f.index := by
        intro f hf
        exact le_index_of_mem hf
      cases i with
      | zero =>
          have hfailed := TxOutcome.isOk_eq_false herror hne
          have hnone : (failuresFrom (start + 1) rest).filter (·.index < start) = [] :=
            List.filter_eq_nil_iff.2 fun f hf => by simp [Nat.le_of_lt (hbehind f hf)]
          have hall : (failuresFrom (start + 1) rest).filter (start < ·.index) =
              failuresFrom (start + 1) rest :=
            List.filter_eq_self.2 fun f hf => by simp [hbehind f hf]
          by_cases hok : first.isOk = true
          · simp [failuresFrom, hfailed, hok, hnone, hall, herror]
          · simp [failuresFrom, hfailed, hok, hnone, hall, herror]
      | succ i =>
          have hplace : start + 1 + i = start + (i + 1) := by
            omega
          have hrest := ih (start + 1) (Nat.lt_of_succ_lt_succ hi)
          rw [hplace] at hrest
          by_cases hok : first.isOk = true
          · simp [failuresFrom, hok, hrest]
          · simp [failuresFrom, hok, hrest]

theorem failures_eq_nil_iff (s : Simulation) : s.failures = [] ↔ s.Flawless := by
  unfold failures Flawless
  rw [failuresFrom_eq_nil_iff]
  exact forall₂_congr fun o _ => o.isOk_iff

end Simulation

/-- The verdict on a bundle is the relay's own, unless an outcome is missing, left over or
flawed. -/
theorem Bundle.evaluate_success_iff (b : Bundle) (s : Simulation) (verdict : Bool)
    (expected : Wei) :
    (b.evaluate s verdict expected).success = true ↔
      verdict = true ∧ s.results.length = b.size ∧ s.Flawless := by
  simp [Bundle.evaluate, ← s.failures_eq_nil_iff, and_assoc]

/-- Where there is one outcome for each transaction and the relay says of them what they are, the
relay, the failures and the outcomes are of one mind, and the verdict is theirs. -/
theorem Bundle.evaluate_of_aligned {b : Bundle} {s : Simulation}
    (h : s.results.length = b.size) (expected : Wei) :
    let v := b.evaluate s s.allOk expected
    (v.success = true ↔ s.allOk = true) ∧ (v.success = true ↔ v.failures = []) := by
  have hsuccess : (b.evaluate s s.allOk expected).success = true ↔ s.Flawless := by
    rw [Bundle.evaluate_success_iff, s.allOk_iff]
    exact ⟨fun ⟨_, _, hflawless⟩ => hflawless, fun hflawless => ⟨hflawless, h, hflawless⟩⟩
  exact ⟨hsuccess.trans s.allOk_iff.symm, hsuccess.trans s.failures_eq_nil_iff.symm⟩

/-- An evaluation is a success where the relay says so, no outcome is missing or left over, and none
has an error text.  The outcomes with an error text, and no others, are listed as failures, by
growing places, each with its error and with revert data that can be read back.  Whichever outcome
becomes a failure, there is no success, and the list changes at its place only. -/
theorem Bundle.evaluates_each_outcome (b : Bundle) (s : Simulation) (verdict : Bool)
    (expected : Wei) :
    let v := b.evaluate s verdict expected
    (v.success = true ↔ verdict = true ∧ s.results.length = b.size ∧
      ∀ o ∈ s.results, ∀ e ∈ o.error, e = "") ∧
    v.failures.Pairwise (fun f g => f.index < g.index) ∧
    (∀ i, (∃ f ∈ v.failures, f.index = i) ↔
      ∃ o e, s.results[i]? = some o ∧ o.error = some e ∧ e ≠ "") ∧
    (∀ f ∈ v.failures, ∃ o, s.results[f.index]? = some o ∧ o.error = some f.error ∧
      Hex.decode? f.revertHex.toList = some o.revert) ∧
    ∀ i o e, i < s.results.length → o.error = some e → e ≠ "" →
      let v' := b.evaluate { s with results := s.results.set i o } verdict expected
      v'.success = false ∧
      v'.failures = v.failures.filter (·.index < i) ++
        ⟨i, e, o.revertHex⟩ :: v.failures.filter (i < ·.index) := by
  intro v
  have hfailures {f : TxFailure} : f ∈ v.failures ↔ ∃ i o e, s.results[i]? = some o ∧
      o.error = some e ∧ e ≠ "" ∧ f = ⟨0 + i, e, o.revertHex⟩ :=
    Simulation.mem_failuresFrom_iff
  simp only [Nat.zero_add] at hfailures
  refine ⟨b.evaluate_success_iff s verdict expected, Simulation.pairwise_failuresFrom 0 s.results,
    fun i => ⟨?_, ?_⟩, fun f hf => ?_, fun i o e hi herror hne => ⟨?_, ?_⟩⟩
  · rintro ⟨f, hf, rfl⟩
    obtain ⟨i, o, e, ho, herror, hne, rfl⟩ := hfailures.1 hf
    exact ⟨o, e, ho, herror, hne⟩
  · rintro ⟨o, e, ho, herror, hne⟩
    exact ⟨_, hfailures.2 ⟨i, o, e, ho, herror, hne, rfl⟩, rfl⟩
  · obtain ⟨i, o, e, ho, herror, hne, rfl⟩ := hfailures.1 hf
    exact ⟨o, ho, herror, o.decode?_revertHex⟩
  · -- The new outcome has an error text, so the conjunction fails in its last part.
    rw [Bool.eq_false_iff, ne_eq, Bundle.evaluate_success_iff]
    rintro ⟨-, -, hflawless⟩
    exact hne (hflawless o (List.mem_set hi o) e herror)
  · have hset := Simulation.failuresFrom_set 0 hi herror hne
    rw [Nat.zero_add] at hset
    exact hset

/-- The expected profit covers the fee that a check asks for, if it asks for one. -/
def ProfitCheck.Covers (check : ProfitCheck) (bundle : Bundle) (expected : Wei) : Prop :=
  match check with
  | .disabled => True
  | .strictCost => bundle.maxFee ≤ expected
  | .ignoreDistributeCost => bundle.last.maxFee ≤ expected

/-- A check admits a bundle just where the expected profit covers the fee that the check asks
for. -/
theorem ProfitCheck.admits_profit_iff (check : ProfitCheck) (bundle : Bundle) (expected : Wei) :
    check.admits (bundle.profit expected) = true ↔ check.Covers bundle expected := by
  cases check with
  | disabled => exact iff_of_true rfl trivial
  | strictCost => exact decide_eq_true_iff
  | ignoreDistributeCost => exact decide_eq_true_iff

/-- A check that does not admit a bundle has a fee to name. -/
theorem ProfitCheck.threshold?_of_not_admits {check : ProfitCheck} {profit : Profit}
    (h : check.admits profit = false) :
    check.threshold? profit = some ((check.threshold? profit).getD 0) := by
  cases check with
  | disabled =>
      cases h
  | strictCost =>
      rfl
  | ignoreDistributeCost =>
      rfl

end ArbBundle
