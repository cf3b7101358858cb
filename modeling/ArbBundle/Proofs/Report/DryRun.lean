import ArbBundle.Proofs.Bytes.Checksum
import ArbBundle.Report.Console
import Mathlib.Data.List.Basic
import Mathlib.Data.List.Forall2

/-!
# Dry run — the printout of a bundle keeps all that it shows

A transaction is printed as a list of entries: a label, a value, and a mark that ends the value.  A
value that cannot hold its mark is told apart from what follows, so the printout falls apart into
its values, however many transactions there are.  The prices in gwei, which are rounded, stand
behind the mark of the exact price and decide nothing.

- `Console.Legible`: values that can be told from what stands behind their mark
- `Transaction.Alike`: two transactions that agree on all that is printed
- `Console.transactionText_inj`, `Console.transactionsText_inj`: one transaction, and all of them
- `Console.dryRun_text_eq_iff`: two bundles with one printout
-/

namespace ArbBundle

namespace Console

/-! ## Values with a mark behind them -/

/-- Different values are written differently, and none of them with the mark. -/
structure Legible {α : Type} (mark : Char) (write : α → List Char) : Prop where
  injective : Function.Injective write
  unmarked : ∀ a, mark ∉ write a

/-- A label, a value, the mark that ends it, and what follows. -/
def entry (label : String) (value : List Char) (mark : Char) (rest : List Char) : List Char :=
  label.toList ++ (value ++ mark :: rest)

namespace Legible

variable {α β : Type} {mark : Char} {write : α → List Char}

/-- Values that are told apart by legible ones are legible. -/
theorem comp (h : Legible mark write) {f : β → α} (hf : Function.Injective f) :
    Legible mark fun b => write (f b) :=
  ⟨h.injective.comp hf, fun b => h.unmarked (f b)⟩

/-- What stands ahead of the mark is the value. -/
theorem takeWhile_eq (h : Legible mark write) (a : α) (rest : List Char) :
    (write a ++ mark :: rest).takeWhile (· ≠ mark) = write a := by
  have hunmarked : ∀ c ∈ write a, decide (c ≠ mark) = true := by
    intro c hc
    have hne : c ≠ mark := fun hmark => h.unmarked a (hmark ▸ hc)
    exact decide_eq_true hne
  rw [List.takeWhile_append_of_pos hunmarked]
  simp

/-- A value and what stands behind its mark are both found again. -/
theorem entry_inj (h : Legible mark write) {label : String} {a a' : α} {rest rest' : List Char}
    (heq : entry label (write a) mark rest = entry label (write a') mark rest') :
    a = a' ∧ rest = rest' := by
  have hbody : write a ++ mark :: rest = write a' ++ mark :: rest' :=
    List.append_cancel_left heq
  -- Both values end at the first mark.
  obtain rfl : a = a' := by
    apply h.injective
    rw [← h.takeWhile_eq a rest, hbody, h.takeWhile_eq]
  exact ⟨rfl, (List.cons.inj (List.append_cancel_left hbody)).2⟩

/-- Decimal numbers are legible, up to a mark that is no digit. -/
theorem decimal (hmark : mark.isDigit = false) : Legible mark (Nat.toDigits 10) where
  injective := Function.LeftInverse.injective fun _ => Nat.ofDigitChars_ten_toDigits
  unmarked n h := by
    have hdigit : mark.isDigit = true := Nat.isDigit_of_mem_toDigits (by decide) (by decide) h
    exact Bool.false_ne_true (hmark.symm.trans hdigit)

/-- Checksummed addresses are legible, up to the end of the line. -/
theorem checksum : Legible '\n' fun a : Address => a.checksum.toList where
  injective _ _ h := Address.checksum_injective (String.toList_injective h)
  unmarked := Address.newline_notMem_checksum

/-- No address is written like the absence of a receiver. -/
theorem recipientText_some_ne_none (a : Address) : recipientText (some a) ≠ recipientText none := by
  intro h
  have hhead : some '0' = some 'c' := by
    have hheads := congrArg (fun s => s.toList.head?) h
    rw [recipientText, Address.checksum, String.toList_ofList] at hheads
    exact hheads
  exact absurd hhead (by decide)

/-- A receiver is legible, and so is its absence. -/
theorem recipient : Legible '\n' fun r : Option Address => (recipientText r).toList where
  injective r r' h := by
    cases r with
    | none =>
        cases r' with
        | none =>
            rfl
        | some a =>
            exact absurd (String.toList_injective h).symm (recipientText_some_ne_none a)
    | some a =>
        cases r' with
        | none =>
            exact absurd (String.toList_injective h) (recipientText_some_ne_none a)
        | some a' =>
            exact congrArg some (Legible.checksum.injective h)
  unmarked r := by
    cases r with
    | none =>
        decide
    | some a =>
        exact Address.newline_notMem_checksum a

theorem hex : Legible '\n' Hex.encode :=
  ⟨Hex.encode_injective, Hex.newline_notMem_encode⟩

end Legible

/-! ## Single transactions -/

/-- A price in gwei, beside the exact one. -/
def aside (places : Nat) (rate : FeeRate) : List Char :=
  '(' :: ((gwei places rate).toList ++ " Gwei)\n".toList)

/-- The lines about a transaction, and what follows them, as entries. -/
theorem toList_transactionText (sender : Address) (index : Nat) (tx : Transaction)
    (rest : List Char) :
    (transactionText sender index tx).toList ++ rest =
      entry "Transaction " (Nat.toDigits 10 (index + 1)) ':' ('\n' ::
      entry "    From: " sender.checksum.toList '\n' (
      entry "    To: " (recipientText tx.recipient).toList '\n' (
      entry "    Value: " (Nat.toDigits 10 tx.value.toNat) '\n' (
      entry "    Gas Limit: " (Nat.toDigits 10 tx.gasLimit.toNat) '\n' (
      entry "    Base Fee: " (Nat.toDigits 10 tx.maxFeePerGas.toNat) ' ' (
      aside 2 tx.maxFeePerGas ++
      entry "    Priority Fee: " (Nat.toDigits 10 tx.maxPriorityFeePerGas.toNat) ' ' (
      aside 4 tx.maxPriorityFeePerGas ++
      entry "    Nonce: " (Nat.toDigits 10 tx.nonce.toNat) '\n' (
      entry "    Data: " (Hex.encode tx.input) '\n' rest)))))))) := by
  have htext (s : String) : toString s = s := rfl
  have hnewline : "\n".toList = ['\n'] := rfl
  have hcolon : ":\n".toList = [':', '\n'] := rfl
  have hopen : " (".toList = [' ', '('] := rfl
  -- The marks come out of the literals that they stand in; the labels stay as they are.
  unfold transactionText
  simp only [entry, aside, htext, Nat.toString_eq_ofList_toDigits, String.toList_append,
    String.toList_ofList, hnewline, hcolon, hopen, List.append_assoc, List.cons_append,
    List.nil_append]

end Console

/-- Two transactions agree on all that is printed of them. -/
structure Transaction.Alike (tx tx' : Transaction) : Prop where
  recipient : tx.recipient = tx'.recipient
  value : tx.value = tx'.value
  gasLimit : tx.gasLimit = tx'.gasLimit
  maxFeePerGas : tx.maxFeePerGas = tx'.maxFeePerGas
  maxPriorityFeePerGas : tx.maxPriorityFeePerGas = tx'.maxPriorityFeePerGas
  nonce : tx.nonce = tx'.nonce
  input : tx.input = tx'.input

namespace Console

/-- What is printed of a transaction hangs on nothing else of it. -/
theorem transactionText_eq_of_alike {tx tx' : Transaction} (h : tx.Alike tx') (sender : Address)
    (index : Nat) : transactionText sender index tx = transactionText sender index tx' := by
  unfold transactionText
  rw [h.recipient, h.value, h.gasLimit, h.maxFeePerGas, h.maxPriorityFeePerGas, h.nonce, h.input]

/-- What is printed of a transaction, and what is printed behind it, are both found again. -/
theorem transactionText_inj {sender sender' : Address} {index : Nat} {tx tx' : Transaction}
    {rest rest' : List Char}
    (h : (transactionText sender index tx).toList ++ rest =
      (transactionText sender' index tx').toList ++ rest') :
    sender = sender' ∧ tx.Alike tx' ∧ rest = rest' := by
  have hword {w : Nat} : Legible '\n' fun v : BitVec w => Nat.toDigits 10 v.toNat :=
    (Legible.decimal rfl).comp fun _ _ => BitVec.eq_of_toNat_eq
  have hprice : Legible ' ' fun v : FeeRate => Nat.toDigits 10 v.toNat :=
    (Legible.decimal rfl).comp fun _ _ => BitVec.eq_of_toNat_eq
  have hcount : Legible '\n' fun v : UInt64 => Nat.toDigits 10 v.toNat :=
    (Legible.decimal rfl).comp fun _ _ => UInt64.toNat_inj.1
  rw [toList_transactionText, toList_transactionText] at h
  -- One entry after the other is taken off both sides.
  obtain ⟨-, h⟩ := (Legible.decimal rfl).entry_inj h
  obtain ⟨hsender, h⟩ := Legible.checksum.entry_inj (List.cons.inj h).2
  obtain ⟨hrecipient, h⟩ := Legible.recipient.entry_inj h
  obtain ⟨hvalue, h⟩ := hword.entry_inj h
  obtain ⟨hgas, h⟩ := hcount.entry_inj h
  obtain ⟨hcap, h⟩ := hprice.entry_inj h
  rw [hcap] at h
  obtain ⟨htip, h⟩ := hprice.entry_inj (List.append_cancel_left h)
  rw [htip] at h
  obtain ⟨hnonce, h⟩ := hcount.entry_inj (List.append_cancel_left h)
  obtain ⟨hinput, h⟩ := Legible.hex.entry_inj h
  exact ⟨hsender, ⟨hrecipient, hvalue, hgas, hcap, htip, hnonce, hinput⟩, h⟩

/-! ## Whole bundles -/

/-- Something is printed of every transaction. -/
theorem transactionText_ne_empty (sender : Address) (index : Nat) (tx : Transaction)
    (rest : List Char) : (transactionText sender index tx).toList ++ rest ≠ [] := by
  rw [toList_transactionText]
  exact List.append_ne_nil_of_left_ne_nil (List.cons_ne_nil _ _) _

/-- The lines about some transactions tell how many they are, what is printed of each, and the
sender unless there are none. -/
theorem transactionsText_inj {sender sender' : Address} {index : Nat}
    {txs txs' : List Transaction}
    (h : transactionsText sender index txs = transactionsText sender' index txs') :
    List.Forall₂ Transaction.Alike txs txs' ∧ (txs ≠ [] → sender = sender') := by
  -- Both texts count the transactions alike, so the place goes along with the tails.
  induction txs generalizing index txs' with
  | nil =>
      cases txs' with
      | nil =>
          exact ⟨.nil, fun hne => absurd rfl hne⟩
      | cons tx' rest' =>
          have hchars := congrArg String.toList h
          rw [transactionsText, transactionsText, String.toList_append] at hchars
          exact absurd hchars.symm (transactionText_ne_empty sender' index tx' _)
  | cons tx rest ih =>
      have hchars := congrArg String.toList h
      rw [transactionsText, String.toList_append] at hchars
      cases txs' with
      | nil =>
          exact absurd hchars (transactionText_ne_empty sender index tx _)
      | cons tx' rest' =>
          rw [transactionsText, String.toList_append] at hchars
          obtain ⟨hsender, htx, hrest⟩ := transactionText_inj hchars
          obtain ⟨hall, -⟩ := ih (String.toList_injective hrest)
          exact ⟨.cons htx hall, fun _ => hsender⟩

theorem transactionsText_eq_of_alike {txs txs' : List Transaction}
    (h : List.Forall₂ Transaction.Alike txs txs') (sender : Address) (index : Nat) :
    transactionsText sender index txs = transactionsText sender index txs' := by
  induction h generalizing index with
  | nil =>
      rfl
  | cons htx _ ih =>
      rw [transactionsText, transactionsText, transactionText_eq_of_alike htx, ih]

/-- Two bundles that are not sent are printed alike just where they belong to one account and have
as many transactions, which agree, one by one, on receiver, value, gas limit, both prices, nonce and
input. -/
theorem dryRun_text_eq_iff (colours colours' : Bool) (deadline deadline' : String)
    (sender sender' : Address) (b b' : Bundle) :
    render colours deadline (.dryRun sender b) = render colours' deadline' (.dryRun sender' b') ↔
      sender = sender' ∧ b.size = b'.size ∧
        ∀ (i : Nat) (tx tx' : Transaction), b.transactions[i]? = some tx →
          b'.transactions[i]? = some tx' → tx.Alike tx' := by
  have halike : List.Forall₂ Transaction.Alike b.transactions b'.transactions ↔
      b.size = b'.size ∧ ∀ (i : Nat) (tx tx' : Transaction), b.transactions[i]? = some tx →
        b'.transactions[i]? = some tx' → tx.Alike tx' := by
    rw [List.forall₂_iff_get]
    refine and_congr_right fun _ => ⟨fun h i tx tx' htx htx' => ?_, fun h i hi hi' => ?_⟩
    · obtain ⟨hi, rfl⟩ := List.getElem?_eq_some_iff.1 htx
      obtain ⟨hi', rfl⟩ := List.getElem?_eq_some_iff.1 htx'
      exact h i hi hi'
    · exact h i _ _ (List.getElem?_eq_getElem hi) (List.getElem?_eq_getElem hi')
  rw [← halike]
  show dryRunText sender b = dryRunText sender' b' ↔ _
  unfold dryRunText
  constructor
  · intro h
    have hchars := congrArg String.toList h
    rw [String.toList_append, String.toList_append] at hchars
    have htexts := String.toList_injective (List.append_cancel_left hchars)
    obtain ⟨hall, hsender⟩ := transactionsText_inj htexts
    exact ⟨hsender b.nonempty, hall⟩
  · rintro ⟨rfl, hall⟩
    rw [transactionsText_eq_of_alike hall]

end Console
end ArbBundle
