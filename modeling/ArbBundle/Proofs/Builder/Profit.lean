import ArbBundle.Proofs.Builder.Output
import ArbBundle.Proofs.Bytes.Numeral
import ArbBundle.Proofs.Text.Blank

/-!
# Profit — what the profit of a builder's output is read as

The profit of an output is a text.  Written as people write amounts, it is read exactly, and refused
where no word holds it.  Much else is read as an amount too, and a text without any digit as zero.

- `BuiltBundle.reads_plain_profit`: a plain numeral between blanks
- `BuiltBundle.prices_spelled`: all texts that are read, and those that are refused
-/

namespace ArbBundle

namespace Numeral

variable {n : Nat} {s : List Char}

theorem IsDigit.solid {base : Nat} {c : Char} (hbase : base ≤ 16) (h : IsDigit base c) :
    Text.isBlank c = false := by
  have hall : ∀ n < 128, IsDigit 16 (Char.ofNat n) → Text.isBlank (Char.ofNat n) = false := by
    decide +kernel
  obtain ⟨d, hd, hlower⟩ := h
  have h16 : IsDigit 16 c := ⟨d, Nat.lt_of_lt_of_le hd hbase, hlower⟩
  exact forall_ascii (P := fun c => IsDigit 16 c → Text.isBlank c = false) hall
    (h16.ascii (Nat.le_refl 16)) h16

/-- There is no blank in a plain numeral. -/
theorem Plain.solid (h : Plain n s) : ∀ c ∈ s, Text.isBlank c = false := by
  obtain ⟨mark, base, digits, hmark, rfl, hwrites⟩ := h.writes
  have hbase : base ≤ 16 := base_le_of_marks (List.mem_append_left _ hmark)
  have hmarks : ∀ m ∈ properMarks, ∀ c ∈ m.1, Text.isBlank c = false := by
    simp only [properMarks, List.forall_mem_cons, List.not_mem_nil, false_implies, implies_true,
      and_true]
    decide
  refine List.forall_mem_append.2 ⟨hmarks (mark, base) hmark, fun c hc => ?_⟩
  exact (hwrites.isDigit c hc).solid hbase

end Numeral

namespace BuilderOutput

variable {o : BuilderOutput} {sender : Address} {profit : Wei}

/-- An output whose profit is an amount does not fail for its profit. -/
theorem bundle_of_priced (h : Numeral.wei? o.profitText = some profit) (t : String) :
    o.bundle sender ≠ .error (.profit t) := by
  -- What fails behind the profit are the transactions, or their number.
  intro hfails
  cases hdecode : decodeFrom 0 sender o.transactions with
  | error e =>
      rw [bundle_of_undecoded h hdecode] at hfails
      cases hfails
  | ok txs =>
      rw [bundle_of_decoded h hdecode] at hfails
      split at hfails
      · cases hfails
      · cases hfails

end BuilderOutput

namespace BuiltBundle

variable {b : Bytes} {o : BuilderOutput} {n : Nat} {before numeral after : List Char}

/-- A profit that is written plainly, with blanks around it, is refused where no word holds it, and
the error shows it without the blanks.  Where a word holds it, an output that is sound otherwise
comes to a bundle; and whatever bundle there is has just that profit. -/
theorem reads_plain_profit (h : BuilderOutput.ofBytes? b = some o) (hn : Numeral.Plain n numeral)
    (hprofit : o.expectedProfit.toList = before ++ numeral ++ after)
    (hbefore : ∀ c ∈ before, Text.isBlank c = true) (hafter : ∀ c ∈ after, Text.isBlank c = true)
    (sender : Address) :
    (2 ^ 256 ≤ n → ofBytes b sender = .error (.profit (String.ofList numeral))) ∧
    (n < 2 ^ 256 → o.transactions ≠ [] →
      (∀ i raw, o.transactions[i]? = some raw → ∃ tx, Transaction.decode i raw sender = .ok tx) →
      ∃ built, ofBytes b sender = .ok built ∧ built.expectedProfit.toNat = n) ∧
    ∀ built, ofBytes b sender = .ok built → built.expectedProfit.toNat = n := by
  -- The blanks go, and nothing of the numeral goes with them.
  have htext : o.profitText = numeral := by
    rw [BuilderOutput.profitText, hprofit, Text.trim_append_append hbefore hafter,
      Text.trim_of_solid hn.solid]
  have hexact (built : BuiltBundle) (hbuilt : o.bundle sender = .ok built) :
      built.expectedProfit.toNat = n := by
    have hread := (BuilderOutput.of_bundle_eq_ok hbuilt).1
    rw [htext, Numeral.wei?_eq_some_iff] at hread
    exact hread.unique hn.spells
  rw [ofBytes_of_output h]
  refine ⟨fun hlarge => ?_, fun hfits hne hall => ?_, hexact⟩
  · have hnone : Numeral.wei? o.profitText = none := by
      rw [htext, Numeral.wei?_eq_none_iff]
      intro m hm
      rwa [hm.unique hn.spells]
    rw [BuilderOutput.bundle_of_unpriced hnone, htext]
  · have hnat : (BitVec.ofNat 256 n).toNat = n := Nat.mod_eq_of_lt hfits
    have hsome : Numeral.wei? o.profitText = some (BitVec.ofNat 256 n) := by
      rw [htext, Numeral.wei?_eq_some_iff, hnat]
      exact hn.spells
    obtain ⟨built, hbuilt⟩ := BuilderOutput.exists_bundle hsome hne hall
    exact ⟨built, hbuilt, hexact built hbuilt⟩

/-- The output of a builder with one transaction and some text for a profit. -/
def pricedOutput (profit : String) : Bytes :=
  Text.utf8 (Json.object [
    ("transactions", .arr [Json.ofBytes Transaction.creation]),
    ("expectedProfit", Json.text profit)]).render.toList

theorem decodes_priced : ∀ i raw, [Transaction.creation][i]? = some raw →
    ∃ tx, Transaction.decode i raw .zero = .ok tx := by
  intro i raw hi
  obtain rfl : i = 0 := by
    have hlt := (List.getElem?_eq_some_iff.1 hi).1
    simpa using hlt
  cases hi
  exact ⟨_, Transaction.decode_creation⟩

/-- The largest amount in hexadecimal, its letters in either case by turns, and a zero in front. -/
def largestNumeral : List Char :=
  '0' :: 'x' :: (List.replicate 1 '0' ++ (List.replicate 32 ['f', 'F']).flatten)

/-- That numeral between two blanks. -/
def largestProfit : String :=
  String.ofList (['\u00a0'] ++ largestNumeral ++ ['\n'])

/-- The largest amount is read. -/
theorem reads_largest_profit :
    BuilderOutput.ofBytes? (pricedOutput largestProfit) =
        some ⟨[Transaction.creation], largestProfit⟩ ∧
      Numeral.Plain (2 ^ 256 - 1) largestNumeral ∧
      ∃ built, ofBytes (pricedOutput largestProfit) .zero = .ok built ∧
        built.expectedProfit.toNat = 2 ^ 256 - 1 := by
  have hshape : BuilderOutput.ofBytes? (pricedOutput largestProfit) =
      some ⟨[Transaction.creation], largestProfit⟩ := by
    decide +kernel
  have hplain : Numeral.Plain (2 ^ 256 - 1) largestNumeral :=
    .hexadecimal 1 (by decide +kernel)
  have htext : largestProfit.toList = ['\u00a0'] ++ largestNumeral ++ ['\n'] :=
    String.toList_ofList
  have hbefore : ∀ c ∈ ['\u00a0'], Text.isBlank c = true :=
    List.forall_mem_singleton.2 (by decide)
  have hafter : ∀ c ∈ ['\n'], Text.isBlank c = true :=
    List.forall_mem_singleton.2 (by decide)
  obtain ⟨-, hread, -⟩ := reads_plain_profit hshape hplain htext hbefore hafter .zero
  exact ⟨hshape, hplain, hread (by decide) (by decide) decodes_priced⟩

/-- An output fails for its profit just where this, without the blanks around it, spells no number
that a word holds; and the error shows it so.  The profit of a bundle is the number that is spelled.
No proper numeral has to spell it: there may be underscores in the text, or no digit, or another
mark. -/
theorem prices_spelled (h : BuilderOutput.ofBytes? b = some o) (sender : Address) :
    let text := Text.trim o.expectedProfit.toList
    ((∃ t, ofBytes b sender = .error (.profit t)) ↔
      ∀ n, Numeral.Spells text n → 2 ^ 256 ≤ n) ∧
    (∀ t, ofBytes b sender = .error (.profit t) → t = String.ofList text) ∧
    ∀ built, ofBytes b sender = .ok built →
      Numeral.Spells text built.expectedProfit.toNat ∧
      (Numeral.Proper text ∨ '_' ∈ text ∨ (∃ m ∈ Numeral.properMarks, text = m.1) ∨
        ∃ m ∈ Numeral.otherMarks, m.1 <+: text) := by
  intro text
  rw [ofBytes_of_output h, ← Numeral.wei?_eq_none_iff]
  have hunpriced : Numeral.wei? text = none →
      o.bundle sender = .error (.profit (String.ofList text)) :=
    BuilderOutput.bundle_of_unpriced
  have hfails (t : String) (ht : o.bundle sender = .error (.profit t)) :
      Numeral.wei? text = none := by
    cases hread : Numeral.wei? text with
    | none =>
        rfl
    | some profit =>
        exact absurd ht (BuilderOutput.bundle_of_priced hread t)
  refine ⟨⟨?_, fun hnone => ⟨_, hunpriced hnone⟩⟩, fun t ht => ?_, fun built hbuilt => ?_⟩
  · rintro ⟨t, ht⟩
    exact hfails t ht
  · rw [hunpriced (hfails t ht)] at ht
    cases ht
    rfl
  · have hspells : Numeral.Spells text built.expectedProfit.toNat :=
      Numeral.wei?_eq_some_iff.1 (BuilderOutput.of_bundle_eq_ok hbuilt).1
    exact ⟨hspells, hspells.proper_or⟩

/-- A profit that reads as an amount is the expected profit of the bundle. -/
theorem exists_priced {profit : String} {w : Wei}
    (hshape : BuilderOutput.ofBytes? (pricedOutput profit) =
      some ⟨[Transaction.creation], profit⟩)
    (hread : Numeral.wei? (Text.trim profit.toList) = some w) :
    ∃ built, ofBytes (pricedOutput profit) .zero = .ok built ∧ built.expectedProfit = w := by
  let o : BuilderOutput := ⟨[Transaction.creation], profit⟩
  have hprofit : Numeral.wei? o.profitText = some w := hread
  obtain ⟨built, hbuilt⟩ := BuilderOutput.exists_bundle hprofit (by simp [o]) decodes_priced
  refine ⟨built, (ofBytes_of_output hshape .zero).trans hbuilt, ?_⟩
  have hsame := (BuilderOutput.of_bundle_eq_ok hbuilt).1
  rw [hprofit] at hsame
  exact (Option.some_inj.1 hsame).symm

/-- A binary numeral with an underscore in it is read. -/
theorem prices_binary_numeral :
    BuilderOutput.ofBytes? (pricedOutput "0b1_0") = some ⟨[Transaction.creation], "0b1_0"⟩ ∧
      ∃ built, ofBytes (pricedOutput "0b1_0") .zero = .ok built ∧ built.expectedProfit = 2 ∧
        Numeral.Spells (Text.trim "0b1_0".toList) built.expectedProfit.toNat := by
  have hshape : BuilderOutput.ofBytes? (pricedOutput "0b1_0") =
      some ⟨[Transaction.creation], "0b1_0"⟩ := by
    decide +kernel
  have hread : Numeral.wei? (Text.trim "0b1_0".toList) = some 2 := by
    decide +kernel
  obtain ⟨built, hbuilt, hprofit⟩ := exists_priced hshape hread
  obtain ⟨-, -, hspells⟩ := prices_spelled hshape .zero
  exact ⟨hshape, built, hbuilt, hprofit, (hspells built hbuilt).1⟩

/-- A profit without a figure is no proper numeral, and is taken for zero. -/
theorem accepts_blank_profit :
    BuilderOutput.ofBytes? (pricedOutput " ") = some ⟨[Transaction.creation], " "⟩ ∧
      ¬ Numeral.Proper (Text.trim " ".toList) ∧
      ∃ built, ofBytes (pricedOutput " ") .zero = .ok built ∧ built.expectedProfit = 0 := by
  have hshape : BuilderOutput.ofBytes? (pricedOutput " ") =
      some ⟨[Transaction.creation], " "⟩ := by
    decide +kernel
  have hread : Numeral.wei? (Text.trim " ".toList) = some 0 := by
    decide +kernel
  have htext : Text.trim " ".toList = [] := by
    decide +kernel
  refine ⟨hshape, ?_, exists_priced hshape hread⟩
  rw [htext]
  -- Nothing at all stands behind the mark that would have to be there.
  rintro ⟨mark, base, digits, -, hsplit, hne, -⟩
  exact hne (List.append_eq_nil_iff.1 hsplit.symm).2

end BuiltBundle
end ArbBundle
