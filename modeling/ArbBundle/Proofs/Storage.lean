import ArbBundle.Config
import ArbBundle.Proofs.Json.Record
import ArbBundle.Simulation

/-!
# Storage — what simulations, figures and settings keep in their text

- `Simulation.restores`, `Profit.restores`, `Config.restores`: what was stored is read back
- `stored_read_back`: the same for the texts
-/

namespace ArbBundle

/-! ## Simulations -/

/-- An outcome is read back as it was stored. -/
theorem TxOutcome.restores : Json.Restores TxOutcome.toJson TxOutcome.ofJson? := by
  refine .record (by decide) (fun _ => rfl) (fun o => ?_) fun o r hslots => ?_
  · simp only [List.forall_mem_cons]
    exact ⟨Json.restores_fixed.written o.txHash, Json.restores_uint64.written o.gasUsed,
      (Json.restores_text.nullable fun _ => nofun).written o.error,
      Json.restores_bytes.written o.revert, nofun⟩
  · -- An empty error text is a text, and no error is none.
    have herror := Json.restores_text.optional (fun _ => nofun) o.error
    simp only [List.forall_mem_cons] at hslots
    simp only [hslots, herror, Json.restores_fixed.required, Json.restores_uint64.required,
      Json.restores_bytes.required]
    rfl

/-- A simulation is read back as it was stored. -/
theorem Simulation.restores : Json.Restores Simulation.toJson Simulation.ofJson? := by
  refine .record (by decide) (fun _ => rfl) (fun s => ?_) fun s r hslots => ?_
  · simp only [List.forall_mem_cons]
    exact ⟨Json.restores_fixed.written s.bundleHash, TxOutcome.restores.list.written s.results,
      nofun⟩
  · simp only [List.forall_mem_cons] at hslots
    simp only [hslots, Json.restores_fixed.required, TxOutcome.restores.list.required]
    rfl

/-! ## Figures -/

/-- The figures are read back as they were stored. -/
theorem Profit.restores : Json.Restores Profit.toJson Profit.ofJson? := by
  refine .record (by decide) (fun _ => rfl) (fun p => ?_) fun p r hslots => ?_
  · simp only [List.forall_mem_cons]
    exact ⟨Json.restores_wei.written p.expected, Json.restores_wei.written p.bundleFee,
      Json.restores_wei.written p.arbitrageFee, nofun⟩
  · simp only [List.forall_mem_cons] at hslots
    simp only [hslots, Json.restores_wei.required]
    rfl

/-! ## Settings -/

/-- A profit check is read back by its name. -/
theorem ProfitCheck.restores : Json.Restores ProfitCheck.toJson ProfitCheck.ofJson? where
  written check := .text check.name
  read := ofName?_name

/-- The settings of a broadcast are read back as they were stored. -/
theorem Broadcast.restores : Json.Restores Broadcast.toJson Broadcast.ofJson? := by
  refine .record (by decide) (fun _ => rfl) (fun b => ?_) fun b r hslots => ?_
  · simp only [List.forall_mem_cons]
    exact ⟨Json.restores_uint32.written b.retryRounds,
      Json.restores_uint64.written b.inclusionTimeoutSecs,
      Json.restores_uint64.written b.pollIntervalMs, nofun⟩
  · simp only [List.forall_mem_cons] at hslots
    simp only [hslots, Json.restores_uint32.withDefault, Json.restores_uint64.withDefault]
    rfl

/-- The settings of a run are read back as they were stored; each of them stands in the text, so no
default takes its place. -/
theorem Config.restores : Json.Restores Config.toJson Config.ofJson? := by
  have hrefund : Json.Restores (Json.ofOption fun a : Address => Json.ofBytes a.toList) _ :=
    Json.restores_fixed.nullable fun _ => nofun
  have hpage := Json.restores_text.nullable fun _ => nofun
  refine .record (by decide) (fun _ => rfl) (fun c => ?_) fun c r hslots => ?_
  · simp only [List.forall_mem_cons]
    exact ⟨Json.restores_text.written c.rpcUrl, Json.restores_text.written c.relayUrl,
      Json.restores_fixed.written c.nodeAddress, hrefund.written c.refundAddress,
      Json.restores_bool.written c.randomPrivateKey, Json.restores_bool.written c.dryRun,
      Json.restores_bool.written c.skipConfirmation,
      ProfitCheck.restores.written c.profitCheck, Json.restores_text.written c.builderCommand,
      hpage.written c.explorerTxUrl, Json.restores_uint64.written c.simulationBlockOffset,
      Broadcast.restores.written c.broadcast, nofun⟩
  · simp only [List.forall_mem_cons] at hslots
    simp only [hslots, Json.restores_text.withDefault, Json.restores_fixed.withDefault,
      Json.restores_bool.withDefault, Json.restores_uint64.withDefault, hrefund.withDefault,
      hpage.withDefault, ProfitCheck.restores.withDefault, Broadcast.restores.withDefault]
    rfl

/-- Every simulation, all figures and all settings are read back from their text as they are: an
error text that is empty is told from one that is not there, and no setting is lost. -/
theorem stored_read_back :
    (∀ s : Simulation, (Json.ofText? s.toJson.render).bind Simulation.ofJson? = some s) ∧
      (∀ p : Profit, (Json.ofText? p.toJson.render).bind Profit.ofJson? = some p) ∧
      ∀ c : Config, (Json.ofText? c.toJson.render).bind Config.ofJson? = some c :=
  ⟨Simulation.restores.of_text, Profit.restores.of_text, Config.restores.of_text⟩

end ArbBundle
