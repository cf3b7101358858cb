import ArbBundle.Address
import Mathlib.Logic.Function.Defs

/-!
# Checksum — an address is found again behind its mixed case

The case of the letters in a checksummed address tells of a hash and of nothing else.  In lower case
its digits are those of the bytes, so no two addresses have one spelling.

- `Hex.encode_injective`: no two byte strings have the same digits
- `Hex.exists_digit_of_mem_encode`, `Hex.toLower_digit`: what the digits are, and how they take case
- `Address.map_toLower_checksumDigits`: the digits behind the case
- `Address.checksum_injective`: no two addresses have one spelling
-/

namespace ArbBundle

/-! ## Digits -/

namespace Hex

/-- Different bytes have different digits. -/
theorem encode_injective : Function.Injective encode := by
  intro b b' h
  have hdecoded : some b = some b' := by
    rw [← decode?_encode b, h, decode?_encode]
  exact Option.some.inj hdecoded

theorem length_encode (b : Bytes) : (encode b).length = 2 * b.length := by
  induction b with
  | nil =>
      rfl
  | cons d rest ih =>
      rw [encode, List.length_cons, List.length_cons, ih, List.length_cons]
      omega

theorem exists_digit_of_mem_encode {b : Bytes} {c : Char} (h : c ∈ encode b) :
    ∃ n < 16, c = digit n := by
  induction b with
  | nil =>
      cases h
  | cons d rest ih =>
      have hd : d.toNat < 256 := d.toNat_lt
      rcases List.mem_cons.1 h with rfl | h
      · exact ⟨d.toNat / 16, by omega, rfl⟩
      rcases List.mem_cons.1 h with rfl | h
      · exact ⟨d.toNat % 16, by omega, rfl⟩
      · exact ih h

/-- A digit is in lower case, and is not lost where it is written in upper case. -/
theorem toLower_digit {n : Nat} (h : n < 16) :
    (digit n).toLower = digit n ∧ (digit n).toUpper.toLower = digit n := by
  have hdigits : ∀ m : Fin 16, (digit m).toLower = digit m ∧
      (digit m).toUpper.toLower = digit m := by
    decide
  exact hdigits ⟨n, h⟩

theorem newline_notMem_encode (b : Bytes) : '\n' ∉ encode b := by
  intro h
  obtain ⟨n, hn, hdigit⟩ := exists_digit_of_mem_encode h
  have hdigits : ∀ m : Fin 16, '\n' ≠ digit m := by
    decide
  exact hdigits ⟨n, hn⟩ hdigit

end Hex

/-! ## Addresses -/

namespace Address

theorem length_halves (b : Bytes) : (halves b).length = 2 * b.length := by
  induction b with
  | nil =>
      rfl
  | cons d rest ih =>
      rw [halves, List.flatMap_cons, List.length_append, ← halves, ih, List.length_cons,
        List.length_cons, List.length_cons, List.length_nil]
      omega

/-- Whatever letters are written in upper case, the digits are found again. -/
theorem map_toLower_zipWith {digits : List Char} {hash : List Nat}
    (hdigits : ∀ c ∈ digits, ∃ n < 16, c = Hex.digit n) (hlength : digits.length ≤ hash.length) :
    (List.zipWith (fun c h => if 8 ≤ h then c.toUpper else c) digits hash).map Char.toLower =
      digits := by
  induction digits generalizing hash with
  | nil =>
      rfl
  | cons c rest ih =>
      cases hash with
      | nil =>
          cases hlength
      | cons h hash =>
          obtain ⟨n, hn, rfl⟩ := hdigits c List.mem_cons_self
          obtain ⟨hlower, hupper⟩ := Hex.toLower_digit hn
          have hhead : (if 8 ≤ h then (Hex.digit n).toUpper else Hex.digit n).toLower =
              Hex.digit n := by
            split
            · exact hupper
            · exact hlower
          rw [List.zipWith_cons_cons, List.map_cons, hhead,
            ih (fun c hc => hdigits c (List.mem_cons_of_mem _ hc)) (Nat.le_of_succ_le_succ hlength)]

/-- The checksum changes no digit of an address but the case of its letters. -/
theorem map_toLower_checksumDigits (a : Address) :
    (checksumDigits a).map Char.toLower = Hex.encode a.toList := by
  refine map_toLower_zipWith (fun c hc => Hex.exists_digit_of_mem_encode hc) ?_
  -- A hash has enough half-bytes for all digits.
  rw [length_halves, Hex.length_encode, a.length_eq, FixedBytes.length_eq]
  decide

/-- Different addresses have different checksummed spellings. -/
theorem checksum_injective : Function.Injective checksum := by
  intro a a' h
  have hchars : '0' :: 'x' :: checksumDigits a = '0' :: 'x' :: checksumDigits a' :=
    String.ofList_injective h
  have hdigits : checksumDigits a = checksumDigits a' :=
    (List.cons.inj (List.cons.inj hchars).2).2
  -- The hashes need not be looked at: in lower case they leave no trace.
  have hbytes : Hex.encode a.toList = Hex.encode a'.toList := by
    rw [← map_toLower_checksumDigits, hdigits, map_toLower_checksumDigits]
  cases a
  cases a'
  cases Hex.encode_injective hbytes
  rfl

theorem newline_notMem_checksum (a : Address) : '\n' ∉ a.checksum.toList := by
  rw [checksum, String.toList_ofList]
  intro h
  have hdigits : '\n' ∈ checksumDigits a := by
    simpa using h
  -- The end of a line has no case, so it would be among the digits.
  have hlower : '\n' ∈ Hex.encode a.toList := by
    rw [← map_toLower_checksumDigits]
    exact List.mem_map.2 ⟨'\n', hdigits, rfl⟩
  exact Hex.newline_notMem_encode _ hlower

end Address

end ArbBundle
