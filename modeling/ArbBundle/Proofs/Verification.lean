import ArbBundle.Proofs.Settings.Fields
import ArbBundle.Verification
import Mathlib.Logic.Unique

/-!
# Verification — settings that pass all checks

Settings pass where each of their checks does, and no check looks at more than its own field.
-/

namespace ArbBundle

theorem Verification.positive_eq_ok_iff {field : String} {n : Nat} :
    Verification.positive field n = .ok () ↔ n ≠ 0 := by
  unfold Verification.positive
  split <;> simp_all

/-- Settings pass just where each of their nine fields does. -/
theorem Config.verify_eq_ok_iff {config : Config} :
    config.verify = .ok () ↔
      Verification.url "rpc" config.rpcUrl = .ok () ∧
      Verification.url "relay" config.relayUrl = .ok () ∧
      Verification.optional (Verification.url "explorer") config.explorerTxUrl = .ok () ∧
      Verification.address "node address" config.nodeAddress = .ok () ∧
      Verification.optional (Verification.address "refund address") config.refundAddress = .ok () ∧
      Verification.command config.builderCommand = .ok () ∧
      config.broadcast.retryRounds ≠ 0 ∧ config.broadcast.inclusionTimeoutSecs ≠ 0 ∧
      config.broadcast.pollIntervalMs ≠ 0 := by
  have hzero32 : config.broadcast.retryRounds.toNat ≠ 0 ↔ config.broadcast.retryRounds ≠ 0 :=
    not_congr (UInt32.toNat_inj (b := 0))
  have hzero64 (n : UInt64) : n.toNat ≠ 0 ↔ n ≠ 0 := not_congr (UInt64.toNat_inj (b := 0))
  simp only [Config.verify, Settings.bind_eq_ok_iff, Unique.exists_iff, PUnit.default_eq_unit,
    Verification.positive_eq_ok_iff, hzero32, hzero64]

/-- Whether settings pass can be computed, while the errors of the checks are compared nowhere. -/
theorem Config.verify_of_isOk {config : Config} (h : config.verify.isOk = true) :
    config.verify = .ok () := by
  cases hv : config.verify with
  | error e =>
      rw [hv] at h
      cases h
  | ok _ =>
      rfl

end ArbBundle
