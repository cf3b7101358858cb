import ArbBundle.Builder.Output
import ArbBundle.Proofs.Bundle
import ArbBundle.Proofs.Transaction.Trailing

/-!
# Output — what a builder's output comes to

A builder's output is a profit and a list of encodings.  It comes to a bundle of all of them or to
no bundle, and then the error is the first fault in a fixed order: the profit, the encodings one
after the other, the lack of any.

- `Transaction.raw_of_decode`, `Transaction.place_of_decode`: what a decoded transaction keeps, and
  which place the error of an encoding names
- `BuilderOutput.decodeFrom_eq_ok_iff`, `BuilderOutput.decodeFrom_eq_error_iff`: the transactions
  of a list of encodings, place by place
- `BuiltBundle.all_or_first_fault`: what the bytes of an output come to
-/

namespace ArbBundle

namespace Transaction

variable {index : Nat} {raw : Bytes} {sender : Address}

/-- A decoded transaction keeps its encoding. -/
theorem raw_of_decode {tx : Transaction} (h : decode index raw sender = .ok tx) : tx.raw = raw := by
  unfold decode at h
  split at h
  · cases h
  · cases h
    rfl

/-- The error of an encoding names its place. -/
theorem place_of_decode {e : BundleError} (h : decode index raw sender = .error e) :
    ∃ reason, e = .decode index reason := by
  unfold decode at h
  split at h
  · cases h
    exact ⟨_, rfl⟩
  · cases h

end Transaction

namespace BuilderOutput

variable {index : Nat} {sender : Address} {raws : List Bytes}

/-! ## Encodings, place by place -/

/-- What holds at every place of a list holds at the first one, and at every place behind it. -/
theorem forall_places_cons {α : Type} {a : α} {as : List α} {P : Nat → α → Prop} :
    (∀ i b, (a :: as)[i]? = some b → P i b) ↔ P 0 a ∧ ∀ i b, as[i]? = some b → P (i + 1) b := by
  constructor
  · intro h
    exact ⟨h 0 a rfl, fun i b hb => h (i + 1) b hb⟩
  · rintro ⟨hfirst, hrest⟩ i b hb
    cases i with
    | zero =>
        cases hb
        exact hfirst
    | succ i =>
        exact hrest i b hb

/-- A list of encodings is decoded just where its first one is, and the others are in their
places. -/
theorem decodeFrom_cons_eq_ok_iff {raw : Bytes} {txs : List Transaction} :
    decodeFrom index sender (raw :: raws) = .ok txs ↔
      ∃ tx more, Transaction.decode index raw sender = .ok tx ∧
        decodeFrom (index + 1) sender raws = .ok more ∧ txs = tx :: more := by
  rw [decodeFrom]
  cases hraw : Transaction.decode index raw sender with
  | error e =>
      simp [bind, Except.bind]
  | ok tx =>
      cases hrest : decodeFrom (index + 1) sender raws with
      | error e =>
          simp [bind, Except.bind]
      | ok more =>
          simp [bind, Except.bind, pure, Except.pure, eq_comm]

/-- The fault of a list of encodings is that of the first one that has one. -/
theorem decodeFrom_cons_eq_error_iff {raw : Bytes} {e : BundleError} :
    decodeFrom index sender (raw :: raws) = .error e ↔
      Transaction.decode index raw sender = .error e ∨
        (∃ tx, Transaction.decode index raw sender = .ok tx) ∧
          decodeFrom (index + 1) sender raws = .error e := by
  rw [decodeFrom]
  cases hraw : Transaction.decode index raw sender with
  | error e' =>
      simp [bind, Except.bind]
  | ok tx =>
      cases hrest : decodeFrom (index + 1) sender raws with
      | error e' =>
          simp [bind, Except.bind]
      | ok more =>
          simp [bind, Except.bind, pure, Except.pure]

/-- The transactions of a list of encodings are the transactions of its places. -/
theorem decodeFrom_eq_ok_iff {txs : List Transaction} :
    decodeFrom index sender raws = .ok txs ↔
      txs.length = raws.length ∧ ∀ i raw, raws[i]? = some raw →
        ∃ tx, txs[i]? = some tx ∧ Transaction.decode (index + i) raw sender = .ok tx := by
  induction raws generalizing index txs with
  | nil =>
      simp [decodeFrom, eq_comm]
  | cons raw raws ih =>
      have hplace (i : Nat) : index + 1 + i = index + (i + 1) := by
        omega
      simp only [decodeFrom_cons_eq_ok_iff, ih, forall_places_cons, hplace]
      constructor
      · rintro ⟨tx, more, hraw, ⟨hlength, hrest⟩, rfl⟩
        exact ⟨congrArg Nat.succ hlength, ⟨tx, rfl, hraw⟩, hrest⟩
      · rintro ⟨hlength, ⟨tx, hfirst, hraw⟩, hrest⟩
        cases txs with
        | nil =>
            cases hfirst
        | cons tx' more =>
            cases hfirst
            exact ⟨tx, more, hraw, ⟨Nat.succ.inj hlength, hrest⟩, rfl⟩

/-- The first encoding that is no transaction decides the error of a list of encodings. -/
theorem decodeFrom_eq_error_iff {e : BundleError} :
    decodeFrom index sender raws = .error e ↔
      ∃ i raw, raws[i]? = some raw ∧ Transaction.decode (index + i) raw sender = .error e ∧
        ∀ j raw, raws[j]? = some raw → j < i →
          ∃ tx, Transaction.decode (index + j) raw sender = .ok tx := by
  induction raws generalizing index with
  | nil =>
      simp [decodeFrom]
  | cons raw raws ih =>
      have hplace (i : Nat) : index + 1 + i = index + (i + 1) := by
        omega
      simp only [decodeFrom_cons_eq_error_iff, ih, forall_places_cons, hplace]
      -- The fault is at the first place, or that place is sound and the fault is behind it.
      constructor
      · rintro (hraw | ⟨hraw, i, found, hi, hfound, hbefore⟩)
        · exact ⟨0, raw, rfl, hraw, fun h => absurd h (Nat.lt_irrefl 0), fun j _ _ h => by omega⟩
        · refine ⟨i + 1, found, hi, hfound, fun _ => hraw, fun j raw' hj hlt => ?_⟩
          exact hbefore j raw' hj (Nat.lt_of_succ_lt_succ hlt)
      · rintro ⟨i, found, hi, hfound, hfirst, hbefore⟩
        cases i with
        | zero =>
            cases hi
            exact Or.inl hfound
        | succ i =>
            refine Or.inr ⟨hfirst (Nat.succ_pos i), i, found, hi, hfound, fun j raw' hj hlt => ?_⟩
            exact hbefore j raw' hj (Nat.succ_lt_succ hlt)

/-- The encodings of decoded transactions are the ones that were decoded. -/
theorem encodings_of_decodeFrom {txs : List Transaction}
    (h : decodeFrom index sender raws = .ok txs) : txs.map Transaction.raw = raws := by
  obtain ⟨hlength, hplaces⟩ := decodeFrom_eq_ok_iff.1 h
  apply List.ext_getElem?
  intro i
  -- Both lists end at the same place, and before that each transaction keeps its encoding.
  cases hraw : raws[i]? with
  | none =>
      have hover : raws.length ≤ i := List.getElem?_eq_none_iff.1 hraw
      simp [hlength, hover]
  | some raw =>
      obtain ⟨tx, htx, hdecode⟩ := hplaces i raw hraw
      simp [htx, Transaction.raw_of_decode hdecode]

/-! ## The bundle of an output -/

variable {o : BuilderOutput} {profit : Wei}

/-- The profit of an output without the blanks around it. -/
def profitText (o : BuilderOutput) : List Char :=
  Text.trim o.expectedProfit.toList

/-- A profit that cannot be read is found before anything else. -/
theorem bundle_of_unpriced (h : Numeral.wei? o.profitText = none) :
    o.bundle sender = .error (.profit (String.ofList o.profitText)) := by
  rw [profitText] at h ⊢
  simp only [bundle, h]

/-- Behind the profit the first encoding without a transaction counts. -/
theorem bundle_of_undecoded {e : BundleError} (h : Numeral.wei? o.profitText = some profit)
    (he : decodeFrom 0 sender o.transactions = .error e) :
    o.bundle sender = .error (.bundle e) := by
  rw [profitText] at h
  simp only [bundle, h, he, Except.bind]

/-- Where all encodings are decoded, only an empty list is refused. -/
theorem bundle_of_decoded {txs : List Transaction} (h : Numeral.wei? o.profitText = some profit)
    (htxs : decodeFrom 0 sender o.transactions = .ok txs) :
    o.bundle sender = if hne : txs = [] then .error (.bundle .empty)
      else .ok ⟨⟨txs, hne, none, []⟩, profit⟩ := by
  rw [profitText] at h
  simp only [bundle, h, htxs, Except.bind, Bundle.ofTransactions]
  by_cases hne : txs = []
  · simp [hne]
  · simp [hne]

/-- Where a bundle comes of an output, it has the profit and the transactions of all encodings. -/
theorem of_bundle_eq_ok {built : BuiltBundle} (h : o.bundle sender = .ok built) :
    Numeral.wei? o.profitText = some built.expectedProfit ∧
      decodeFrom 0 sender o.transactions = .ok built.bundle.transactions ∧
      built.bundle.targetBlock = none ∧ built.bundle.builders = [] := by
  cases hprofit : Numeral.wei? o.profitText with
  | none =>
      rw [bundle_of_unpriced hprofit] at h
      cases h
  | some profit =>
      cases hdecode : decodeFrom 0 sender o.transactions with
      | error e =>
          rw [bundle_of_undecoded hprofit hdecode] at h
          cases h
      | ok txs =>
          rw [bundle_of_decoded hprofit hdecode] at h
          split at h
          · cases h
          · cases h
            exact ⟨rfl, rfl, rfl, rfl⟩

/-- The first encoding that is no transaction decides the error of an output with a profit. -/
theorem bundle_of_faulty {raw : Bytes} {fault : BundleError}
    (h : Numeral.wei? o.profitText = some profit) (hplace : o.transactions[index]? = some raw)
    (hfault : Transaction.decode index raw sender = .error fault)
    (hbefore : ∀ i raw, o.transactions[i]? = some raw → i < index →
      ∃ tx, Transaction.decode i raw sender = .ok tx) :
    o.bundle sender = .error (.bundle fault) := by
  have hdecode : decodeFrom 0 sender o.transactions = .error fault := by
    apply decodeFrom_eq_error_iff.2
    simp only [Nat.zero_add]
    exact ⟨index, raw, hplace, hfault, hbefore⟩
  exact bundle_of_undecoded h hdecode

theorem bundle_of_empty (h : Numeral.wei? o.profitText = some profit)
    (hempty : o.transactions = []) : o.bundle sender = .error (.bundle .empty) := by
  have hdecode : decodeFrom 0 sender o.transactions = .ok [] := by
    rw [hempty]
    rfl
  exact bundle_of_decoded h hdecode

/-- Encodings each of which is a transaction at its place are transactions together. -/
theorem exists_decodeFrom_eq_ok
    (h : ∀ i raw, raws[i]? = some raw → ∃ tx, Transaction.decode (index + i) raw sender = .ok tx) :
    ∃ txs, decodeFrom index sender raws = .ok txs := by
  cases hdecode : decodeFrom index sender raws with
  | ok txs =>
      exact ⟨txs, rfl⟩
  | error e =>
      obtain ⟨i, raw, hi, hfault, -⟩ := decodeFrom_eq_error_iff.1 hdecode
      obtain ⟨tx, htx⟩ := h i raw hi
      rw [hfault] at htx
      cases htx

/-- An output with a profit and some encodings, all of them of transactions, comes to a bundle. -/
theorem exists_bundle (h : Numeral.wei? o.profitText = some profit) (hne : o.transactions ≠ [])
    (hall : ∀ i raw, o.transactions[i]? = some raw →
      ∃ tx, Transaction.decode i raw sender = .ok tx) :
    ∃ built, o.bundle sender = .ok built := by
  obtain ⟨txs, hdecode⟩ : ∃ txs, decodeFrom 0 sender o.transactions = .ok txs := by
    apply exists_decodeFrom_eq_ok
    simpa only [Nat.zero_add] using hall
  -- There are as many transactions as encodings, so there is one.
  have hlength := (decodeFrom_eq_ok_iff.1 hdecode).1
  have htxs : txs ≠ [] := by
    rintro rfl
    exact hne (List.eq_nil_of_length_eq_zero hlength.symm)
  have hbuilt := bundle_of_decoded h hdecode
  rw [dif_neg htxs] at hbuilt
  exact ⟨_, hbuilt⟩

end BuilderOutput

namespace BuiltBundle

theorem ofBytes_of_output {b : Bytes} {o : BuilderOutput} (h : BuilderOutput.ofBytes? b = some o)
    (sender : Address) : ofBytes b sender = o.bundle sender := by
  simp only [ofBytes, h]

/-- An output whose profit is no amount comes to the error that shows the profit without the blanks
around it.  Otherwise it comes to the error of the first encoding that is no transaction, whatever
follows upon it, and where there is none, to the error that there are no transactions, or to a
bundle.  Such a bundle has the profit that was read, the transactions of all encodings in their
order, and no destination. -/
theorem all_or_first_fault {b : Bytes} {o : BuilderOutput} (h : BuilderOutput.ofBytes? b = some o)
    (sender : Address) :
    let text := Text.trim o.expectedProfit.toList
    (Numeral.wei? text = none → ofBytes b sender = .error (.profit (String.ofList text))) ∧
    (∀ profit, Numeral.wei? text = some profit →
      (∀ index raw fault, o.transactions[index]? = some raw →
        Transaction.decode index raw sender = .error fault →
        (∀ i raw, o.transactions[i]? = some raw → i < index →
          ∃ tx, Transaction.decode i raw sender = .ok tx) →
        ∃ reason, fault = .decode index reason ∧
          ofBytes b sender = .error (.bundle (.decode index reason))) ∧
      (o.transactions = [] → ofBytes b sender = .error (.bundle .empty)) ∧
      (o.transactions ≠ [] →
        (∀ i raw, o.transactions[i]? = some raw →
          ∃ tx, Transaction.decode i raw sender = .ok tx) →
        ∃ built, ofBytes b sender = .ok built)) ∧
    ∀ built, ofBytes b sender = .ok built →
      Numeral.wei? text = some built.expectedProfit ∧
      built.bundle.size = o.transactions.length ∧
      (∀ i raw, o.transactions[i]? = some raw → ∃ tx, built.bundle.transactions[i]? = some tx ∧
        Transaction.decode i raw sender = .ok tx) ∧
      built.bundle.encodings = o.transactions ∧
      built.bundle.targetBlock = none ∧ built.bundle.builders = [] := by
  intro text
  simp only [ofBytes_of_output h]
  refine ⟨BuilderOutput.bundle_of_unpriced, fun profit hprofit => ⟨?_, ?_, ?_⟩, ?_⟩
  · intro index raw fault hplace hfault hbefore
    obtain ⟨reason, rfl⟩ := Transaction.place_of_decode hfault
    exact ⟨reason, rfl, BuilderOutput.bundle_of_faulty hprofit hplace hfault hbefore⟩
  · intro hempty
    exact BuilderOutput.bundle_of_empty hprofit hempty
  · intro hne hall
    exact BuilderOutput.exists_bundle hprofit hne hall
  · intro built hbuilt
    obtain ⟨hprofit, hdecode, htarget, hbuilders⟩ := BuilderOutput.of_bundle_eq_ok hbuilt
    obtain ⟨hlength, hplaces⟩ := BuilderOutput.decodeFrom_eq_ok_iff.1 hdecode
    simp only [Nat.zero_add] at hplaces
    exact ⟨hprofit, hlength, hplaces, BuilderOutput.encodings_of_decodeFrom hdecode, htarget,
      hbuilders⟩

/-- An output with a profit between blanks, one transaction, and two encodings of none behind it. -/
def brokenOutput : Bytes :=
  Text.utf8 (Json.object [
    ("transactions", .arr ([Transaction.creation, [0x02], [0xff]].map Json.ofBytes)),
    ("expectedProfit", Json.text " 7\n")]).render.toList

/-- Of two encodings that are no transactions the first one is reported. -/
theorem reports_second_encoding :
    let o : BuilderOutput := ⟨[Transaction.creation, [0x02], [0xff]], " 7\n"⟩
    BuilderOutput.ofBytes? brokenOutput = some o ∧
      Numeral.wei? (Text.trim o.expectedProfit.toList) = some 7 ∧
      ofBytes brokenOutput .zero = .error (.bundle (.decode 1 "input too short")) := by
  intro o
  have hshape : BuilderOutput.ofBytes? brokenOutput = some o := by
    decide +kernel
  have hprofit : Numeral.wei? (Text.trim o.expectedProfit.toList) = some 7 := by
    decide +kernel
  have hfault : Transaction.decode 1 [0x02] .zero = .error (.decode 1 "input too short") :=
    rfl
  have hbefore : ∀ i raw, o.transactions[i]? = some raw → i < 1 →
      ∃ tx, Transaction.decode i raw .zero = .ok tx := by
    intro i raw hi hlt
    obtain rfl : i = 0 := Nat.lt_one_iff.1 hlt
    cases hi
    exact ⟨_, Transaction.decode_creation⟩
  obtain ⟨-, hpriced, -⟩ := all_or_first_fault hshape .zero
  obtain ⟨reason, hreason, hresult⟩ := (hpriced 7 hprofit).1 1 [0x02] _ rfl hfault hbefore
  cases hreason
  exact ⟨hshape, hprofit, hresult⟩

end BuiltBundle
end ArbBundle
