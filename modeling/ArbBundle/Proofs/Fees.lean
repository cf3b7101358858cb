import ArbBundle.Proofs.Evaluation
import Mathlib.Algebra.Order.BigOperators.Group.List
import Mathlib.Algebra.Order.Ring.Nat

/-!
# Fees — the largest fees do not wrap

Amounts wrap at 256 bits.  A fee is the product of a gas limit and a fee cap, and so it takes 192
bits; this leaves 64 bits for the number of the fees that are added up.

- `Transaction.exactFee`, `Bundle.exactFee`: the largest fees as natural numbers
- `Transaction.toNat_maxFee`, `Bundle.toNat_maxFee`: the amounts are these numbers
- `Bundle.gate_exact`: the profit check decides as it would on natural numbers
-/

namespace ArbBundle

/-! ## Single transactions -/

namespace Transaction

def exactFee (tx : Transaction) : Nat :=
  tx.gasLimit.toNat * tx.maxFeePerGas.toNat

/-- A bound that no fee reaches. -/
def feeBound : Nat := 2 ^ 192

/-- No transaction reaches the bound: a gas limit of 64 bits times a price of 128. -/
theorem exactFee_lt (tx : Transaction) : tx.exactFee < feeBound := by
  have hgas : tx.gasLimit.toNat < 2 ^ 64 := tx.gasLimit.toNat_lt
  have hcap : tx.maxFeePerGas.toNat < 2 ^ 128 := tx.maxFeePerGas.isLt
  calc tx.gasLimit.toNat * tx.maxFeePerGas.toNat
      ≤ 2 ^ 64 * tx.maxFeePerGas.toNat := Nat.mul_le_mul_right _ hgas.le
    _ < 2 ^ 64 * 2 ^ 128 := Nat.mul_lt_mul_of_pos_left hcap (by decide)
    _ = feeBound := (Nat.pow_add 2 64 128).symm

/-- The fee of a single transaction never wraps around. -/
theorem toNat_maxFee (tx : Transaction) : tx.maxFee.toNat = tx.exactFee := by
  have hgas : tx.gasLimit.toNat < 2 ^ 256 :=
    Nat.lt_trans tx.gasLimit.toNat_lt (by decide)
  have hcap : tx.maxFeePerGas.toNat < 2 ^ 256 :=
    Nat.lt_trans tx.maxFeePerGas.isLt (by decide)
  have hfee : tx.exactFee < 2 ^ 256 :=
    Nat.lt_trans tx.exactFee_lt (by decide)
  rw [maxFee, BitVec.toNat_mul, BitVec.toNat_ofNat, BitVec.toNat_setWidth,
    Nat.mod_eq_of_lt hgas, Nat.mod_eq_of_lt hcap]
  exact Nat.mod_eq_of_lt hfee

end Transaction

/-! ## Whole bundles -/

/-- A sum of fees is exact as long as the exact sum fits a word. -/
theorem toNat_foldl_maxFee (txs : List Transaction) (sum : Wei)
    (h : sum.toNat + (txs.map Transaction.exactFee).sum < 2 ^ 256) :
    (txs.foldl (fun sum tx => sum + tx.maxFee) sum).toNat =
      sum.toNat + (txs.map Transaction.exactFee).sum := by
  induction txs generalizing sum with
  | nil =>
      rfl
  | cons tx rest ih =>
      rw [List.map_cons, List.sum_cons] at h
      -- The sum so far is exact, since what is still to come does not make it smaller.
      have hsum : (sum + tx.maxFee).toNat = sum.toNat + tx.exactFee := by
        rw [BitVec.toNat_add, tx.toNat_maxFee]
        exact Nat.mod_eq_of_lt (by omega)
      have hrest : (sum + tx.maxFee).toNat + (rest.map Transaction.exactFee).sum < 2 ^ 256 := by
        rw [hsum]
        omega
      rw [List.foldl_cons, ih _ hrest, hsum, List.map_cons, List.sum_cons, Nat.add_assoc]

namespace Bundle

def exactFee (b : Bundle) : Nat :=
  (b.transactions.map Transaction.exactFee).sum

/-- The fee of a bundle is bounded by the number of its transactions. -/
theorem exactFee_le (b : Bundle) : b.exactFee ≤ b.size * (Transaction.feeBound - 1) := by
  have hfees : ∀ fee ∈ b.transactions.map Transaction.exactFee, fee ≤ Transaction.feeBound - 1 := by
    intro fee hfee
    obtain ⟨tx, -, rfl⟩ := List.mem_map.1 hfee
    exact Nat.le_sub_one_of_lt tx.exactFee_lt
  simpa [exactFee, size] using List.sum_le_card_nsmul _ _ hfees

/-- Up to `2 ^ 64` transactions the fee of a bundle fits a word. -/
theorem exactFee_lt {b : Bundle} (hsize : b.size ≤ 2 ^ 64) : b.exactFee < 2 ^ 256 :=
  calc b.exactFee
      ≤ b.size * (Transaction.feeBound - 1) := b.exactFee_le
    _ ≤ 2 ^ 64 * (Transaction.feeBound - 1) := Nat.mul_le_mul_right _ hsize
    _ < 2 ^ 256 := by decide

/-- Up to `2 ^ 64` transactions the fee of a bundle does not wrap around. -/
theorem toNat_maxFee {b : Bundle} (hsize : b.size ≤ 2 ^ 64) : b.maxFee.toNat = b.exactFee := by
  have hfits : (0 : Wei).toNat + (b.transactions.map Transaction.exactFee).sum < 2 ^ 256 := by
    simpa [exactFee] using exactFee_lt hsize
  simpa [maxFee, exactFee] using toNat_foldl_maxFee b.transactions 0 hfits

theorem last_mem (b : Bundle) : b.last ∈ b.transactions :=
  List.getLast_mem b.nonempty

/-- The settling transaction costs no more than the whole bundle. -/
theorem last_exactFee_le (b : Bundle) : b.last.exactFee ≤ b.exactFee :=
  List.single_le_sum (fun _ _ => Nat.zero_le _) _ (List.mem_map_of_mem b.last_mem)

/-! ## The profit check -/

/-- The fees of an evaluated bundle are exact, the one of the settling transaction is not above the
one of the whole bundle, and every profit check decides as it would on natural numbers.  So a higher
profit is admitted wherever a lower one is, and a check that asks for less admits whatever one that
asks for more does. -/
theorem gate_exact (b : Bundle) (s : Simulation) (verdict : Bool) (hsize : b.size ≤ 2 ^ 64)
    (expected : Wei) :
    let profit := (b.evaluate s verdict expected).profit
    let total := (b.transactions.map fun tx => tx.gasLimit.toNat * tx.maxFeePerGas.toNat).sum
    let settling := b.last.gasLimit.toNat * b.last.maxFeePerGas.toNat
    profit.bundleFee.toNat = total ∧ profit.arbitrageFee.toNat = settling ∧
      profit.arbitrageFee ≤ profit.bundleFee ∧
      (ProfitCheck.strictCost.admits profit = true ↔ total ≤ expected.toNat) ∧
      (ProfitCheck.ignoreDistributeCost.admits profit = true ↔ settling ≤ expected.toNat) ∧
      ProfitCheck.disabled.admits profit = true ∧
      (ProfitCheck.strictCost.admits profit = true →
        ProfitCheck.ignoreDistributeCost.admits profit = true) ∧
      ∀ (check : ProfitCheck) (higher : Wei), expected ≤ higher → check.admits profit = true →
        check.admits (b.evaluate s verdict higher).profit = true := by
  intro profit total settling
  have htotal : b.maxFee.toNat = total := toNat_maxFee hsize
  have hsettling : b.last.maxFee.toNat = settling := b.last.toNat_maxFee
  have hle : settling ≤ total := b.last_exactFee_le
  have hstrict : ProfitCheck.strictCost.admits profit = true ↔ total ≤ expected.toNat := by
    rw [← htotal]
    exact (ProfitCheck.admits_profit_iff .strictCost b expected).trans BitVec.le_def
  have hignore : ProfitCheck.ignoreDistributeCost.admits profit = true ↔
      settling ≤ expected.toNat := by
    rw [← hsettling]
    exact (ProfitCheck.admits_profit_iff .ignoreDistributeCost b expected).trans BitVec.le_def
  refine ⟨htotal, hsettling, ?_, hstrict, hignore, rfl, ?_, ?_⟩
  · rw [BitVec.le_def]
    exact (hsettling.trans_le hle).trans_eq htotal.symm
  · intro hadmits
    exact hignore.2 (hle.trans (hstrict.1 hadmits))
  · intro check higher hhigher hadmits
    have hcovers := (check.admits_profit_iff b expected).1 hadmits
    refine (check.admits_profit_iff b higher).2 ?_
    cases check with
    | disabled =>
        trivial
    | strictCost =>
        exact BitVec.le_trans hcovers hhigher
    | ignoreDistributeCost =>
        exact BitVec.le_trans hcovers hhigher

/-- A transaction whose fee no other one exceeds. -/
def costliest : Transaction :=
  ⟨.zero 32, .zero, none, 0, UInt64.ofNat (2 ^ 64 - 1), BitVec.allOnes 128, 0, 0, [], []⟩

/-- The fee of a bundle may need more bits than a fee of its transactions, and is exact. -/
theorem costliest_pair_exact :
    let pair : Bundle := ⟨[costliest, costliest], List.cons_ne_nil _ _, none, []⟩
    pair.size ≤ 2 ^ 64 ∧
      ∀ s verdict expected, (pair.evaluate s verdict expected).profit.bundleFee.toNat =
        2 * ((2 ^ 64 - 1) * (2 ^ 128 - 1)) := by
  intro pair
  have hsize : pair.size ≤ 2 ^ 64 := by decide
  refine ⟨hsize, fun s verdict expected => ?_⟩
  obtain ⟨hfee, -⟩ := pair.gate_exact s verdict hsize expected
  rw [hfee]
  decide

end Bundle
end ArbBundle
