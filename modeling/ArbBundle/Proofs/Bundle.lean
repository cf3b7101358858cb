import ArbBundle.Bundle
import ArbBundle.Proofs.Json.Record

/-!
# Bundle — what routing and storing keep

A bundle is written to text and read back, sent to a block, sent to the builders of a network, in
any order and any number of times.  Its transactions stay what they were; the block and the builders
are the ones that were set last.

- `Transaction.restores`, `Bundle.restores`: what was stored is read back
- `Bundle.text`, `Bundle.ofText?`: the stored text of a bundle
- `Bundle.lists_of_ofJson?`: what is read as a bundle lists the transactions of the bundle
- `Bundle.step?`, `Bundle.run?`: routing and storing, step by step
- `Bundle.keeps_transactions`: what holds after any steps
-/

namespace ArbBundle

/-- A transaction is read back as it was stored. -/
theorem Transaction.restores : Json.Restores Transaction.toJson Transaction.ofJson? := by
  refine .record (by decide) (fun _ => rfl) (fun tx => ?_) fun tx r hslots => ?_
  · simp only [List.forall_mem_cons]
    exact ⟨Json.restores_fixed.written tx.hash, Json.restores_fixed.written tx.sender,
      (Json.restores_fixed.nullable fun _ => nofun).written tx.recipient,
      Json.restores_wei.written tx.value, Json.restores_uint64.written tx.gasLimit,
      Json.restores_feeRate.written tx.maxFeePerGas,
      Json.restores_feeRate.written tx.maxPriorityFeePerGas, Json.restores_uint64.written tx.nonce,
      Json.restores_bytes.written tx.input, Json.restores_bytes.written tx.raw, nofun⟩
  · have hrecipient := Json.restores_fixed.optional (fun _ => nofun) tx.recipient
    simp only [List.forall_mem_cons] at hslots
    simp only [hslots, hrecipient, Json.restores_fixed.required, Json.restores_wei.required,
      Json.restores_uint64.required, Json.restores_feeRate.required, Json.restores_bytes.required]
    rfl

namespace Bundle

/-- A bundle is read back as it was stored. -/
theorem restores : Json.Restores toJson ofJson? := by
  have htarget := Json.restores_uint64.nullable fun _ => nofun
  refine .record (by decide) (fun _ => rfl) (fun b => ?_) fun b r hslots => ?_
  · simp only [List.forall_mem_cons]
    exact ⟨Transaction.restores.list.written b.transactions, htarget.written b.targetBlock,
      Json.restores_text.list.written b.builders, nofun⟩
  · simp only [List.forall_mem_cons] at hslots
    simp only [hslots, Transaction.restores.list.required, htarget.withDefault,
      Json.restores_text.list.withDefault]
    exact dif_neg b.nonempty

/-! ## Stored text -/

def text (b : Bundle) : String :=
  b.toJson.render

def ofText? (s : String) : Option Bundle :=
  (Json.ofText? s).bind ofJson?

/-- A bundle is read back from its text. -/
theorem ofText?_text (b : Bundle) : ofText? b.text = some b :=
  restores.of_text b

/-- A stored bundle lists transactions, and they are the transactions of the bundle. -/
theorem lists_of_ofJson? {j : Json} {b : Bundle} (h : ofJson? j = some b) :
    ∃ r es, Json.Record.ofJson? fieldNames j = some r ∧
      r.slot "transactions" = .given (.arr es) ∧
      es.mapM Transaction.ofJson? = some b.transactions ∧ es ≠ [] := by
  simp only [ofJson?, Option.bind_eq_bind, Option.bind_eq_some_iff] at h
  obtain ⟨r, hrecord, txs, htxs, target, -, builders, -, h⟩ := h
  split at h
  · cases h
  · rename_i hne
    cases h
    refine ⟨r, ?_⟩
    -- Only an array that is given is read as a list of transactions.
    cases hslot : r.slot "transactions" with
    | given v =>
        rw [hslot] at htxs
        cases v with
        | arr es =>
            have hes : es.mapM Transaction.ofJson? = some txs := htxs
            refine ⟨es, hrecord, rfl, hes, ?_⟩
            rintro rfl
            cases hes
            exact hne rfl
        | _ => cases htxs
    | omitted =>
        rw [hslot] at htxs
        cases htxs
    | cut =>
        rw [hslot] at htxs
        cases htxs

end Bundle

/-! ## Steps -/

inductive BundleStep
  | target (block : UInt64)
  | knownBuilders (chainId : UInt64)
  /-- The bundle is written to text and read back. -/
  | stored

namespace BundleStep

def block? : BundleStep → Option UInt64
  | .target block => some block
  | _ => none

def chainId? : BundleStep → Option UInt64
  | .knownBuilders chainId => some chainId
  | _ => none

end BundleStep

namespace Bundle

/-- The bundle after one step, if it survives the step. -/
def step? (b : Bundle) : BundleStep → Option Bundle
  | .target block => some (b.withTarget block)
  | .knownBuilders chainId => some (b.withKnownBuilders chainId)
  | .stored => ofText? b.text

def run? (b : Bundle) (steps : List BundleStep) : Option Bundle :=
  steps.foldlM step? b

/-- One step keeps the transactions and changes no more than it sets. -/
theorem step?_eq (b : Bundle) (step : BundleStep) :
    b.step? step = some { b with
      targetBlock := step.block?.or b.targetBlock
      builders := (step.chainId?.map Network.knownBuilders).getD b.builders } := by
  cases step with
  | target block =>
      rfl
  | knownBuilders chainId =>
      rfl
  | stored =>
      exact ofText?_text b

/-- After some steps the block and the builders are the ones that were set last. -/
theorem run?_eq (b : Bundle) (steps : List BundleStep) :
    b.run? steps = some { b with
      targetBlock := (steps.filterMap BundleStep.block?).getLast?.or b.targetBlock
      builders := ((steps.filterMap BundleStep.chainId?).getLast?.map Network.knownBuilders).getD
        b.builders } := by
  induction steps generalizing b with
  | nil =>
      rfl
  | cons step steps ih =>
      rw [run?, List.foldlM_cons, step?_eq, Option.bind_eq_bind, Option.bind_some, ← run?, ih]
      -- A later step hides what this one sets.
      cases step with
      | target block =>
          simp [BundleStep.block?, BundleStep.chainId?, List.getLast?_cons]
      | knownBuilders chainId =>
          cases hlast : (steps.filterMap BundleStep.chainId?).getLast? with
          | none =>
              have hnone : steps.filterMap BundleStep.chainId? = [] :=
                List.getLast?_eq_none_iff.1 hlast
              simp [BundleStep.block?, BundleStep.chainId?, hnone]
          | some later =>
              simp [BundleStep.block?, BundleStep.chainId?, List.getLast?_cons, hlast]
      | stored =>
          rfl

/-- A bundle of some transactions holds just these, and has no routing yet. -/
theorem ofTransactions_eq_ok_iff {txs : List Transaction} {b : Bundle} :
    ofTransactions txs = .ok b ↔
      b.transactions = txs ∧ b.targetBlock = none ∧ b.builders = [] := by
  unfold ofTransactions
  split
  · rename_i hempty
    refine ⟨nofun, fun h => absurd (h.1.trans hempty) b.nonempty⟩
  · constructor
    · intro h
      cases h
      exact ⟨rfl, rfl, rfl⟩
    · rintro ⟨rfl, htarget, hbuilders⟩
      rw [← htarget, ← hbuilders]

/-- However a bundle came to be — out of transactions or out of a text — and whatever steps it goes
through, each of them succeeds, its text is read back as the same bundle, it keeps its transactions,
and its block and its builders are the ones that were set last.  No text that lists no transactions
is read as a bundle. -/
theorem keeps_transactions :
    (∀ txs b, ofTransactions txs = .ok b ↔
      b.transactions = txs ∧ b.targetBlock = none ∧ b.builders = []) ∧
    (∀ (b : Bundle) (steps : List BundleStep), ∃ b',
      b.run? steps = some b' ∧ ofText? b'.text = some b' ∧
      b'.transactions = b.transactions ∧ b'.transactions ≠ [] ∧
      b'.targetBlock = (steps.filterMap BundleStep.block?).getLast?.or b.targetBlock ∧
      b'.builders = ((steps.filterMap BundleStep.chainId?).getLast?.map
        Network.knownBuilders).getD b.builders) ∧
    (∀ s b, ofText? s = some b → ∃ j r es,
      Json.ofText? s = some j ∧ Json.Record.ofJson? fieldNames j = some r ∧
      r.slot "transactions" = .given (.arr es) ∧
      es.mapM Transaction.ofJson? = some b.transactions ∧ es ≠ []) := by
  refine ⟨fun _ _ => ofTransactions_eq_ok_iff, fun b steps => ?_, fun s b hread => ?_⟩
  · exact ⟨_, b.run?_eq steps, ofText?_text _, rfl, b.nonempty, rfl, rfl⟩
  · obtain ⟨j, hj, hb⟩ := Option.bind_eq_some_iff.1 hread
    obtain ⟨r, es, hrecord, hslot, htxs, hes⟩ := lists_of_ofJson? hb
    exact ⟨j, r, es, hj, hrecord, hslot, htxs, hes⟩

end Bundle
end ArbBundle
