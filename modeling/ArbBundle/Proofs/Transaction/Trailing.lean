import ArbBundle.Proofs.Rlp.Stable
import ArbBundle.Proofs.Transaction.Recovery

/-!
# Trailing — bytes behind a signed transaction

A byte string that holds a transaction holds it as well when more bytes stand behind it.  The hash
and the fields are those of the transaction at the front; the bytes that are kept for sending are
all of them.

- `stable_legacy` to `stable_withAuthorizations`: the readers of the five types
- `Envelope.decode_append`: the first byte chooses the reader, so the whole is as before
- `Transaction.keeps_trailing_bytes`: the same for the transactions of a bundle
-/

namespace ArbBundle
namespace Envelope

open Rlp
open Rlp.Reader

/-! ## Fields -/

theorem stable_receiver : Stable receiver := by
  intro input recipient? rest hread behind
  cases input with
  | nil =>
      cases hread
  | cons b bytes =>
      simp only [receiver] at hread
      rw [List.cons_append]
      simp only [receiver]
      split at hread
      · rename_i hnone
        cases hread
        rw [if_pos hnone]
      · rename_i hsome
        rw [if_neg hsome]
        exact (stable_fixed 20).map hread behind

theorem stable_marketFees : Stable marketFees :=
  stable_uint64.bind fun _ => stable_uint64.bind fun _ => stable_feeRate.bind fun _ =>
    stable_feeRate.bind fun _ => stable_pure _

/-- The signature behind the other fields. -/
theorem stable_signature {f : Bool → Wei → Wei → Envelope} :
    Stable (do return f (← flag) (← word) (← word)) :=
  stable_flag.bind fun _ => stable_word.bind fun _ => stable_word.bind fun _ => stable_pure _

/-- Reads blobs in the form that their first byte announces. -/
def sidecarOf (first : Option UInt8) : Reader Unit := do
  if first = some 1 then
    if (← uint 1) ≠ 1 then throw .wrapper
  discard (listOf (fixed 131072))
  discard (listOf (fixed 48))
  discard (listOf (fixed 48))

/-- A sidecar is read in the form that its first byte announces, which is looked at and not
taken. -/
theorem sidecar_eq : sidecar = (do sidecarOf (← get).head?) :=
  rfl

theorem stable_sidecar : Stable sidecar := by
  have hlists : Stable (do
      discard (listOf (fixed 131072))
      discard (listOf (fixed 48))
      discard (listOf (fixed 48))) :=
    (stable_listOf _).map.bind fun _ => (stable_listOf _).map.bind fun _ => (stable_listOf _).map
  rw [sidecar_eq]
  refine Stable.peek ?_ fun b => ?_
  · intro found hread
    cases hread
  · exact Stable.ite ((stable_uint 1).bind fun _ => Stable.unless hlists) hlists

/-! ## Types -/

theorem stable_legacy : Stable legacy := by
  refine stable_spanning ?_
  refine stable_uint64.bind fun nonce => stable_feeRate.bind fun gasPrice => ?_
  refine stable_uint64.bind fun gasLimit => stable_receiver.bind fun recipient? => ?_
  refine stable_word.bind fun value => stable_string.bind fun input => ?_
  refine (stable_uint 16).bind fun parity => ?_
  split
  · exact stable_throw _
  · exact stable_word.bind fun _ => stable_word.bind fun _ => stable_pure _

theorem stable_withAccessList : Stable withAccessList := by
  refine stable_spanning ?_
  refine stable_uint64.bind fun chainId => stable_uint64.bind fun nonce => ?_
  refine stable_feeRate.bind fun gasPrice => stable_uint64.bind fun gasLimit => ?_
  refine stable_receiver.bind fun recipient? => stable_word.bind fun value => ?_
  exact stable_string.bind fun input => (stable_listOf _).bind fun access => stable_signature

theorem stable_withDynamicFee : Stable withDynamicFee := by
  refine stable_spanning ?_
  refine stable_marketFees.bind fun fees => stable_uint64.bind fun gasLimit => ?_
  refine stable_receiver.bind fun recipient? => stable_word.bind fun value => ?_
  exact stable_string.bind fun input => (stable_listOf _).bind fun access => stable_signature

theorem stable_withBlobHashes : Stable withBlobHashes := by
  refine stable_spanning ?_
  refine stable_marketFees.bind fun fees => stable_uint64.bind fun gasLimit => ?_
  refine (stable_fixed 20).bind fun recipient => stable_word.bind fun value => ?_
  refine stable_string.bind fun input => (stable_listOf _).bind fun access => ?_
  exact stable_feeRate.bind fun blobFee => (stable_listOf _).bind fun hashes => stable_signature

theorem stable_withAuthorizations : Stable withAuthorizations := by
  refine stable_spanning ?_
  refine stable_marketFees.bind fun fees => stable_uint64.bind fun gasLimit => ?_
  refine (stable_fixed 20).bind fun recipient => stable_word.bind fun value => ?_
  refine stable_string.bind fun input => (stable_listOf _).bind fun access => ?_
  exact (stable_listOf _).bind fun authorizations => stable_signature

theorem stable_withBlobs : Stable withBlobs :=
  stable_spanning (stable_withBlobHashes.bind fun _ => stable_sidecar.bind fun _ => stable_pure _)

/-- A list in front of the fields of a list is there in front of more bytes as well. -/
theorem beginsWithList_append {input : Bytes} (h : beginsWithList input = true) (behind : Bytes) :
    beginsWithList (input ++ behind) = true := by
  unfold beginsWithList at h ⊢
  split at h
  · cases h
  · rename_i outer fields houter
    split at h
    · cases h
    · rename_i first rest hfirst
      rw [readsHeads_header.stable houter behind]
      dsimp only
      rw [readsHeads_header.stable hfirst behind]
      exact h

/-- Where the fields can be read without blobs, the first of them is a number. -/
theorem beginsWithList_of_withBlobHashes {input rest : Bytes} {e : Envelope}
    (h : withBlobHashes input = .ok (e, rest)) : beginsWithList input = false := by
  obtain ⟨length, fields, hhead, hfields, -⟩ := spanning_eq_ok_iff.1 h
  obtain ⟨fees, between, hfees, -⟩ := ok_of_bind hfields
  obtain ⟨chainId, afterChain, hchain, -⟩ := ok_of_bind hfees
  obtain ⟨number, afterNumber, hnumber, -⟩ := ok_of_bind hchain
  obtain ⟨digits, afterDigits, hdigits, -⟩ := ok_of_bind hnumber
  obtain ⟨width, payload, hfirst⟩ := header_of_string hdigits
  unfold beginsWithList
  rw [hhead]
  dsimp only
  rw [hfirst]

theorem stable_withOptionalBlobs : Stable withOptionalBlobs := by
  intro input e rest hread behind
  have hplain (hread : withBlobHashes input = .ok (e, rest)) :
      withOptionalBlobs (input ++ behind) = .ok (e, rest ++ behind) := by
    have hread' := stable_withBlobHashes hread behind
    unfold withOptionalBlobs
    rw [beginsWithList_of_withBlobHashes hread']
    exact hread'
  -- Blobs are tried where a list comes first; more bytes behind do not make one come first.
  unfold withOptionalBlobs at hread
  split at hread
  · rename_i hlist
    split at hread
    · rename_i found hblobs
      cases hread
      unfold withOptionalBlobs
      rw [if_pos (beginsWithList_append hlist behind), stable_withBlobs hblobs behind]
    · exact hplain hread
  · exact hplain hread

/-! ## Whole encodings -/

/-- Whatever the type, a transaction is found in front of more bytes as well. -/
theorem stable_ofType? {b : UInt8} {read : Reader Envelope} (h : ofType? b = some read) :
    Stable read := by
  unfold ofType? at h
  split at h <;> cases h
  · exact stable_legacy
  · exact stable_withAccessList
  · exact stable_withDynamicFee
  · exact stable_withOptionalBlobs
  · exact stable_withAuthorizations

/-- What a reader found, without the bytes behind it. -/
theorem found_eq_ok_iff {ε : Type} {read : Reader Envelope} {input : Bytes} {e : Envelope}
    {f : Rlp.Error → ε} :
    ((read input).mapError f |>.map Prod.fst) = .ok e ↔ ∃ rest, read input = .ok (e, rest) := by
  cases read input with
  | error fault =>
      constructor
      · intro h
        cases h
      · rintro ⟨rest, h⟩
        cases h
  | ok found =>
      constructor
      · intro h
        cases h
        exact ⟨found.2, rfl⟩
      · rintro ⟨rest, h⟩
        cases h
        rfl

/-- The transaction at the front of a byte string is the same one, whatever stands behind it. -/
theorem decode_append {raw : Bytes} {e : Envelope} (h : decode raw = .ok e) (behind : Bytes) :
    decode (raw ++ behind) = .ok e := by
  cases raw with
  | nil =>
      cases h
  | cons b bytes =>
      rw [List.cons_append]
      simp only [decode] at h ⊢
      split at h
      · rename_i hsmall
        rw [if_pos hsmall]
        cases htype : ofType? b with
        | none =>
            rw [htype] at h
            cases h
        | some read =>
            rw [htype] at h
            obtain ⟨rest, hread⟩ := found_eq_ok_iff.1 h
            exact found_eq_ok_iff.2 ⟨rest ++ behind, stable_ofType? htype hread behind⟩
      · rename_i hlarge
        rw [if_neg hlarge]
        obtain ⟨rest, hread⟩ := found_eq_ok_iff.1 h
        exact found_eq_ok_iff.2 ⟨rest ++ behind, stable_legacy hread behind⟩

end Envelope

namespace Transaction

/-- A transaction of the first type that creates an empty contract. -/
def created : Envelope where
  payload := .legacy none 0 none
  nonce := 0
  gasLimit := 0
  value := 0
  input := []
  yParity := false
  r := 1
  s := 1

def creation : Bytes :=
  [0xc9, 0x80, 0x80, 0x80, 0x80, 0x80, 0x80, 0x1b, 0x01, 0x01]

theorem decode_creation :
    decode 0 creation Address.zero = .ok (ofEnvelope created Address.zero creation) := by
  have hdecoded : Envelope.decode creation = .ok created := rfl
  rw [decode, hdecoded]

/-- Bytes behind an accepted transaction are accepted and kept with it, while the hash and all
fields stay those of the transaction in front of them. -/
theorem keeps_trailing_bytes {index : Nat} {raw : Bytes} {sender : Address} {tx : Transaction}
    (h : decode index raw sender = .ok tx) (behind : Bytes) :
    decode index (raw ++ behind) sender = .ok { tx with raw := raw ++ behind } := by
  cases hdecode : Envelope.decode raw with
  | error fault =>
      rw [decode, hdecode] at h
      cases h
  | ok e =>
      rw [decode, hdecode] at h
      cases h
      rw [decode, Envelope.decode_append hdecode behind]
      rfl

/-- A zero byte behind a transaction is accepted and kept. -/
theorem keeps_trailing_zero :
    decode 0 creation Address.zero = .ok (ofEnvelope created Address.zero creation) ∧
      decode 0 (creation ++ [0]) Address.zero =
        .ok (ofEnvelope created Address.zero (creation ++ [0])) :=
  ⟨decode_creation, keeps_trailing_bytes decode_creation [0]⟩

/-- So an accepted byte string need not be one transaction and no more. -/
theorem accepts_longer_than_one :
    ¬ ∀ (index : Nat) (raw : Bytes) (sender : Address) (tx : Transaction) (behind : Bytes),
      decode index raw sender = .ok tx → behind ≠ [] →
        ∃ place reason, decode index (raw ++ behind) sender = .error (.decode place reason) := by
  intro hrejects
  obtain ⟨place, reason, hrejected⟩ :=
    hrejects 0 creation Address.zero _ [0] decode_creation (by decide)
  have hlonger : Envelope.decode (creation ++ [0]) = .ok created := rfl
  rw [decode, hlonger] at hrejected
  cases hrejected

end Transaction
end ArbBundle
