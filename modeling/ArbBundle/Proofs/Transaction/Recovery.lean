import ArbBundle.Proofs.Rlp.Reads
import ArbBundle.Transaction.Decode

/-!
# Recovery — a signed transaction is recovered from its encoding

Each type of transaction is read by a reader of its own, off the fields that its encoding writes in
the same order.

- `reads_legacy` to `reads_withAuthorizations`: the readers of the five types
- `Envelope.decode_encode_append`: the transaction at the front of a byte string
- `Transaction.recovers_fields`: the fields of a transaction as a bundle holds it
-/

namespace ArbBundle

open Rlp Rlp.Reader

namespace Envelope

/-! ## Fields -/

theorem reads_receiver (recipient : Option Address) :
    Reads receiver recipient (receiverItem recipient).encode := by
  intro behind
  cases recipient with
  | none =>
      rfl
  | some a =>
      have hread := (reads_fixed a (by decide)).map some behind
      have hencode : (receiverItem (some a)).encode = 0x94 :: a.toList := by
        obtain ⟨bytes, hlength⟩ := a
        rw [receiverItem, Item.ofFixed, Item.encode, encodeString]
        · simp [head, hlength]
        · rintro x rfl
          simp at hlength
      have hitem : (Item.ofFixed a).encode = 0x94 :: a.toList := hencode
      rw [hitem] at hread
      rw [hencode]
      exact hread

theorem reads_accessEntry {a : AccessItem} (h : a.item.Fits) :
    Reads accessEntry a a.item.encode := by
  refine reads_closed h ?_
  refine (reads_fixed a.address (by decide)).field ?_
  refine (reads_listOf (h.of_mem (by simp)) fun key _ => reads_fixed key (by decide)).field ?_
  exact reads_pure _

theorem reads_access {access : List AccessItem} (h : (accessItem access).Fits) :
    Reads (listOf accessEntry) access (accessItem access).encode :=
  reads_listOf h fun _ ha => reads_accessEntry (h.of_mem (List.mem_map_of_mem ha))

theorem reads_authorization {a : Authorization} (h : a.item.Fits) :
    Reads authorization a a.item.encode := by
  refine reads_closed h ?_
  refine (reads_word a.chainId).field ?_
  refine (reads_fixed a.address (by decide)).field ?_
  refine (reads_uint64 a.nonce).field ?_
  refine (reads_uint 1 a.yParity.toNat_lt (by decide)).field ?_
  refine (reads_word a.r).field ?_
  refine (reads_word a.s).field ?_
  rw [UInt8.ofNat_toNat]
  exact reads_pure _

/-! ## Types -/

section Types

variable {e : Envelope} {chainId? : Option UInt64} {chainId : UInt64} {price blobFee : FeeRate}
  {recipient? : Option Address} {recipient : Address} {access : List AccessItem}
  {fees : MarketFees} {hashes : List Digest} {authorizations : List Authorization}

theorem parityNumber_lt (e : Envelope) : e.parityNumber < 256 ^ 16 := by
  have hparity : e.yParity.toNat ≤ 1 := Bool.toNat_le e.yParity
  unfold parityNumber
  split
  · omega
  · rename_i chainId _ _ _
    have hchain : chainId.toNat < 2 ^ 64 := chainId.toNat_lt
    omega
  · omega

/-- The number of the first type tells the chain and the parity. -/
theorem legacyParity?_parityNumber (h : e.payload = .legacy chainId? price recipient?) :
    legacyParity? e.parityNumber = some (chainId?, e.yParity) := by
  unfold parityNumber
  rw [h]
  cases chainId? with
  | none =>
      cases e.yParity <;> rfl
  | some chainId =>
      -- Twice the chain is even, so that the parity is what is left of the number.
      have hchain : chainId.toNat < UInt64.size := chainId.toNat_lt
      have hparity : e.yParity.toNat ≤ 1 := Bool.toNat_le e.yParity
      have hhalf : (35 + 2 * chainId.toNat + e.yParity.toNat - 35) / 2 = chainId.toNat := by
        omega
      have hbit : (35 + 2 * chainId.toNat + e.yParity.toNat - 35) % 2 = e.yParity.toNat := by
        omega
      dsimp only [legacyParity?]
      rw [if_neg (by omega), if_neg (by omega), if_neg (by omega), if_neg (by omega), hhalf, hbit,
        UInt64.ofNat_toNat]
      cases e.yParity <;> rfl

/-- A transaction of the first type is read back. -/
theorem reads_legacy (h : e.payload = .legacy chainId? price recipient?) (hfits : e.item.Fits) :
    Reads legacy e e.item.encode := by
  have hinput : Item.Fits (.str e.input) := hfits.of_mem (by simp [fieldItems, h])
  have hitems : e.fieldItems ++ e.signatureItems =
      [.ofNat e.nonce.toNat, .ofNat price.toNat, .ofNat e.gasLimit.toNat, receiverItem recipient?,
        .ofNat e.value.toNat, .str e.input, .ofNat e.parityNumber, .ofNat e.r.toNat,
        .ofNat e.s.toNat] := by
    simp [fieldItems, h, signatureItems]
  refine reads_spanning hfits ?_
  rw [hitems]
  refine (reads_uint64 e.nonce).field ?_
  refine (reads_feeRate price).field ?_
  refine (reads_uint64 e.gasLimit).field ?_
  refine (reads_receiver recipient?).field ?_
  refine (reads_word e.value).field ?_
  refine (reads_string hinput.string).field ?_
  refine (reads_uint 16 e.parityNumber_lt (by decide)).field ?_
  rw [legacyParity?_parityNumber h]
  refine (reads_word e.r).field ?_
  refine (reads_word e.s).field ?_
  rw [← h]
  exact reads_pure e

/-- The signature at the end of the types with a type byte. -/
theorem reads_signature {f : Bool → Wei → Wei → Envelope}
    (hparity : e.parityNumber = e.yParity.toNat) (hf : f e.yParity e.r e.s = e) :
    Reads (do let yParity ← flag; let r ← word; let s ← word; pure (f yParity r s)) e
      (Item.encodeAll e.signatureItems) := by
  rw [signatureItems, hparity]
  refine (reads_flag e.yParity).field ?_
  refine (reads_word e.r).field ?_
  refine (reads_word e.s).field ?_
  rw [hf]
  exact reads_pure e

/-- The first fields of the types that set a tip and a cap. -/
theorem reads_marketFees {nonce : UInt64} {f : MarketFees × UInt64 → Reader Envelope}
    {items : List Item} (hf : Reads (f (fees, nonce)) e (Item.encodeAll items)) :
    Reads (marketFees >>= f) e
      (Item.encodeAll (.ofNat fees.chainId.toNat :: .ofNat nonce.toNat ::
        .ofNat fees.tipCap.toNat :: .ofNat fees.feeCap.toNat :: items)) := by
  simp only [marketFees, bind_assoc, pure_bind]
  refine (reads_uint64 fees.chainId).field ?_
  refine (reads_uint64 nonce).field ?_
  refine (reads_feeRate fees.tipCap).field ?_
  exact (reads_feeRate fees.feeCap).field hf

/-- A transaction of type 1 is read back. -/
theorem reads_withAccessList (h : e.payload = .accessList chainId price recipient? access)
    (hfits : e.item.Fits) : Reads withAccessList e e.item.encode := by
  have hinput : Item.Fits (.str e.input) := hfits.of_mem (by simp [fieldItems, h])
  have haccess : (accessItem access).Fits := hfits.of_mem (by simp [fieldItems, h])
  have hparity : e.parityNumber = e.yParity.toNat := by simp [parityNumber, h]
  refine reads_spanning hfits ?_
  simp only [fieldItems, h, List.cons_append, List.nil_append]
  refine (reads_uint64 chainId).field ?_
  refine (reads_uint64 e.nonce).field ?_
  refine (reads_feeRate price).field ?_
  refine (reads_uint64 e.gasLimit).field ?_
  refine (reads_receiver recipient?).field ?_
  refine (reads_word e.value).field ?_
  refine (reads_string hinput.string).field ?_
  refine (reads_access haccess).field ?_
  exact reads_signature hparity (by rw [← h])

/-- A transaction of type 2 is read back. -/
theorem reads_withDynamicFee (h : e.payload = .dynamicFee fees recipient? access)
    (hfits : e.item.Fits) : Reads withDynamicFee e e.item.encode := by
  have hinput : Item.Fits (.str e.input) := hfits.of_mem (by simp [fieldItems, marketItems, h])
  have haccess : (accessItem access).Fits := hfits.of_mem (by simp [fieldItems, marketItems, h])
  have hparity : e.parityNumber = e.yParity.toNat := by simp [parityNumber, h]
  refine reads_spanning hfits ?_
  simp only [fieldItems, marketItems, h, List.cons_append, List.nil_append]
  refine reads_marketFees ?_
  refine (reads_uint64 e.gasLimit).field ?_
  refine (reads_receiver recipient?).field ?_
  refine (reads_word e.value).field ?_
  refine (reads_string hinput.string).field ?_
  refine (reads_access haccess).field ?_
  exact reads_signature hparity (by rw [← h])

/-- A transaction of type 3 without its blobs is read back. -/
theorem reads_withBlobHashes (h : e.payload = .blob fees recipient access blobFee hashes)
    (hfits : e.item.Fits) : Reads withBlobHashes e e.item.encode := by
  have hinput : Item.Fits (.str e.input) := hfits.of_mem (by simp [fieldItems, marketItems, h])
  have haccess : (accessItem access).Fits := hfits.of_mem (by simp [fieldItems, marketItems, h])
  have hhashes : Item.Fits (.list (hashes.map .ofFixed)) := hfits.of_mem (by simp [fieldItems, h])
  have hparity : e.parityNumber = e.yParity.toNat := by simp [parityNumber, h]
  refine reads_spanning hfits ?_
  simp only [fieldItems, marketItems, h, List.cons_append, List.nil_append]
  refine reads_marketFees ?_
  refine (reads_uint64 e.gasLimit).field ?_
  refine (reads_fixed recipient (by decide)).field ?_
  refine (reads_word e.value).field ?_
  refine (reads_string hinput.string).field ?_
  refine (reads_access haccess).field ?_
  refine (reads_feeRate blobFee).field ?_
  refine (reads_listOf hhashes fun hash _ => reads_fixed hash (by decide)).field ?_
  exact reads_signature hparity (by rw [← h])

/-- A transaction of type 4 is read back. -/
theorem reads_withAuthorizations (h : e.payload = .setCode fees recipient access authorizations)
    (hfits : e.item.Fits) : Reads withAuthorizations e e.item.encode := by
  have hinput : Item.Fits (.str e.input) := hfits.of_mem (by simp [fieldItems, marketItems, h])
  have haccess : (accessItem access).Fits := hfits.of_mem (by simp [fieldItems, marketItems, h])
  have hgranted : Item.Fits (.list (authorizations.map Authorization.item)) :=
    hfits.of_mem (by simp [fieldItems, h])
  have hparity : e.parityNumber = e.yParity.toNat := by simp [parityNumber, h]
  refine reads_spanning hfits ?_
  simp only [fieldItems, marketItems, h, List.cons_append, List.nil_append]
  refine reads_marketFees ?_
  refine (reads_uint64 e.gasLimit).field ?_
  refine (reads_fixed recipient (by decide)).field ?_
  refine (reads_word e.value).field ?_
  refine (reads_string hinput.string).field ?_
  refine (reads_access haccess).field ?_
  refine (reads_listOf hgranted fun a ha =>
    reads_authorization (hgranted.of_mem (List.mem_map_of_mem ha))).field ?_
  exact reads_signature hparity (by rw [← h])

end Types

/-! ## Whole encodings -/

theorem header_of_string {input b rest : Bytes} (h : string input = .ok (b, rest)) :
    ∃ length behind, header input = .ok (⟨false, length⟩, behind) := by
  obtain ⟨⟨isList, length⟩, behind, hhead, htake⟩ := ok_of_bind h
  cases isList with
  | false =>
      exact ⟨length, behind, hhead⟩
  | true =>
      cases htake

/-- The first byte of a list is no type byte. -/
theorem first_of_list {items : List Item} (h : Item.Fits (.list items)) :
    ∃ b rest, (Item.list items).encode = b :: rest ∧ ¬ b < 0x80 := by
  obtain ⟨b, rest, hbytes⟩ := List.exists_cons_of_ne_nil (Item.encode_ne_nil (.list items))
  refine ⟨b, rest, hbytes, fun hb => ?_⟩
  -- A byte below the others would be a string of its own.
  have hstring : header (b :: rest) = .ok (⟨false, 1⟩, b :: rest) := if_pos hb
  have hlist : header (encodeList (Item.encodeAll items) ++ []) = _ := header_list h.payload
  rw [List.append_nil, ← Item.encode, hbytes, hstring] at hlist
  cases hlist

/-- A list that begins with a number is not taken for fields with blobs behind them. -/
theorem beginsWithList_eq_false {n : Nat} {items : List Item} {behind : Bytes}
    (h : Item.Fits (.list (.ofNat n :: items))) :
    beginsWithList ((Item.list (.ofNat n :: items)).encode ++ behind) = false := by
  have hfirst : Item.Fits (.ofNat n) := h.of_mem List.mem_cons_self
  have hread := reads_string hfirst.string (Item.encodeAll items ++ behind)
  obtain ⟨length, rest, hhead⟩ := header_of_string hread
  have hpayload : Item.encodeAll (.ofNat n :: items) ++ behind =
      (Item.str (Bytes.minimalBigEndian n)).encode ++ (Item.encodeAll items ++ behind) := by
    rw [Item.encodeAll, List.append_assoc]
    rfl
  unfold beginsWithList
  rw [Item.encode, header_list h.payload]
  dsimp only
  rw [hpayload, hhead]

/-- Without blobs, a transaction of type 3 is read back although they were possible. -/
theorem reads_withOptionalBlobs {e : Envelope} {fees : MarketFees} {recipient : Address}
    {access : List AccessItem} {blobFee : FeeRate} {hashes : List Digest}
    (h : e.payload = .blob fees recipient access blobFee hashes) (hfits : e.item.Fits) :
    Reads withOptionalBlobs e e.item.encode := by
  intro behind
  -- The first field is a number, so no blobs are looked for.
  have hplain : beginsWithList (e.item.encode ++ behind) = false := by
    have hitem : e.item = .list (.ofNat fees.chainId.toNat ::
        (e.fieldItems ++ e.signatureItems).tail) := by
      simp [item, fieldItems, marketItems, h]
    rw [hitem] at hfits ⊢
    exact beginsWithList_eq_false hfits
  unfold withOptionalBlobs
  rw [hplain]
  exact reads_withBlobHashes h hfits behind

/-- The reader of a type byte reads the transactions of that type. -/
theorem reads_ofType? {e : Envelope} {b : UInt8} (hb : e.payload.typeByte? = some b)
    (hfits : e.item.Fits) :
    b < 0x80 ∧ ∃ read, ofType? b = some read ∧ Reads read e e.item.encode := by
  cases hp : e.payload with
  | legacy chainId? price recipient? =>
      rw [hp] at hb
      cases hb
  | accessList chainId price recipient? access =>
      rw [hp] at hb
      cases hb
      exact ⟨by decide, _, rfl, reads_withAccessList hp hfits⟩
  | dynamicFee fees recipient? access =>
      rw [hp] at hb
      cases hb
      exact ⟨by decide, _, rfl, reads_withDynamicFee hp hfits⟩
  | blob fees recipient access blobFee hashes =>
      rw [hp] at hb
      cases hb
      exact ⟨by decide, _, rfl, reads_withOptionalBlobs hp hfits⟩
  | setCode fees recipient access authorizations =>
      rw [hp] at hb
      cases hb
      exact ⟨by decide, _, rfl, reads_withAuthorizations hp hfits⟩

/-- An encoded transaction is decoded, whatever stands behind it. -/
theorem decode_encode_append {e : Envelope} (hfits : e.item.Fits) (behind : Bytes) :
    decode (e.encode ++ behind) = .ok e := by
  -- A type byte chooses the reader; without one, the first byte is that of a list.
  cases hb : e.payload.typeByte? with
  | some b =>
      obtain ⟨hsmall, read, hread, hreads⟩ := reads_ofType? hb hfits
      have hbytes : e.encode ++ behind = b :: (e.item.encode ++ behind) := by
        simp [encode, hb]
      rw [hbytes, decode, if_pos hsmall]
      simp only [hread, hreads behind]
      rfl
  | none =>
      obtain ⟨b, rest, hbytes, hlarge⟩ := first_of_list hfits
      have hencode : e.encode ++ behind = b :: (rest ++ behind) := by
        have hitem : e.item.encode = b :: rest := hbytes
        simp [encode, hb, hitem]
      have hread : legacy (b :: (rest ++ behind)) = .ok (e, behind) := by
        rw [← List.cons_append, ← hbytes]
        cases hp : e.payload with
        | legacy chainId? price recipient? =>
            exact reads_legacy hp hfits behind
        | _ =>
            rw [hp] at hb
            cases hb
      rw [hencode, decode, if_neg hlarge, hread]
      rfl

/-- An encoding that memory can hold is short enough for its heads. -/
theorem fits_of_encode {e : Envelope} (h : e.encode.length < 2 ^ 64) : e.item.Fits := by
  have hlength : e.encode.length = e.payload.typeByte?.toList.length + e.item.encode.length := by
    simp [encode]
  unfold Item.Fits
  omega

/-- A transaction of the last type, with fields of every length: storage that it announces, a
permission, and an input whose length takes a head of its own. -/
def delegation : Envelope where
  payload := .setCode ⟨1, 0, 500000000000⟩ (FixedBytes.replicate 20 0x42)
    [⟨FixedBytes.replicate 20 0x43, [FixedBytes.zero 32, FixedBytes.replicate 32 0xff]⟩]
    [⟨1, FixedBytes.replicate 20 0x44, 127, 1, 128, 255⟩]
  nonce := 0
  gasLimit := 100000
  value := 3
  input := List.replicate 300 0xde
  yParity := true
  r := 1
  s := 2

end Envelope

namespace Transaction

/-- A signed transaction of any type is decoded from its canonical encoding, as long as memory can
hold that, and all fields are recovered: the fee cap and the tip cap are the gas price for the two
types that set one price, the hash is that of the encoding, and the encoding is what will be
sent. -/
theorem recovers_fields (e : Envelope) (h : e.encode.length < 2 ^ 64) (index : Nat)
    (sender : Address) :
    ∃ tx, decode index e.encode sender = .ok tx ∧
      (tx.recipient, tx.maxFeePerGas, tx.maxPriorityFeePerGas) =
        (match e.payload with
        | .legacy _ price recipient => (recipient, price, price)
        | .accessList _ price recipient _ => (recipient, price, price)
        | .dynamicFee fees recipient _ => (recipient, fees.feeCap, fees.tipCap)
        | .blob fees recipient _ _ _ => (some recipient, fees.feeCap, fees.tipCap)
        | .setCode fees recipient _ _ => (some recipient, fees.feeCap, fees.tipCap)) ∧
      tx.value = e.value ∧ tx.gasLimit = e.gasLimit ∧ tx.nonce = e.nonce ∧ tx.input = e.input ∧
      tx.hash = Keccak.hash e.encode ∧ tx.raw = e.encode ∧ tx.sender = sender := by
  have hdecoded : Envelope.decode e.encode = .ok e := by
    simpa using Envelope.decode_encode_append (Envelope.fits_of_encode h) []
  refine ⟨ofEnvelope e sender e.encode, ?_, ?_, rfl, rfl, rfl, rfl, rfl, rfl, rfl⟩
  · rw [decode, hdecoded]
  · simp only [ofEnvelope]
    cases e.payload <;> rfl

/-- Receiver, fees, value, gas limit, nonce and input of the delegation come back, with the hash of
its bytes. -/
theorem delegation_recovered :
    Envelope.delegation.encode.length < 2 ^ 64 ∧
      ∃ tx, decode 7 Envelope.delegation.encode Address.zero = .ok tx ∧
        (tx.recipient, tx.maxFeePerGas, tx.maxPriorityFeePerGas) =
          (some (FixedBytes.replicate 20 0x42), 500000000000, 0) ∧
        tx.value = 3 ∧ tx.gasLimit = 100000 ∧ tx.nonce = 0 ∧ tx.input = List.replicate 300 0xde ∧
        tx.hash = Keccak.hash Envelope.delegation.encode ∧ tx.raw = Envelope.delegation.encode ∧
        tx.sender = Address.zero := by
  have hlength : Envelope.delegation.encode.length < 2 ^ 64 := by
    decide +kernel
  exact ⟨hlength, recovers_fields Envelope.delegation hlength 7 Address.zero⟩

end Transaction
end ArbBundle
