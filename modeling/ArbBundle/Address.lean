import ArbBundle.Bytes.Hex
import ArbBundle.Hash.Keccak

/-!
# Address — accounts of the chain

An address is twenty bytes.  It has two spellings: lower-case digits inside machine-readable
data, and everywhere else the checksummed one, in which the case of each letter carries one bit
of the hash of the lower-case digits.
-/

namespace ArbBundle

/-- An account of the chain. -/
abbrev Address := FixedBytes 20

namespace Address

def zero : Address := FixedBytes.zero 20

/-- The lower-case spelling, marked with `0x`. -/
def lower (a : Address) : String :=
  Hex.marked a.toList

/-- The half-bytes of a byte string, high half first. -/
def halves (b : Bytes) : List Nat :=
  b.flatMap fun d => [d.toNat / 16, d.toNat % 16]

/-- The digits of an address, each letter in upper case where the hash has a half-byte of eight
or more. -/
def checksumDigits (a : Address) : List Char :=
  let digits := Hex.encode a.toList
  let hash := Keccak.hash (Text.utf8 digits)
  List.zipWith (fun c h => if 8 ≤ h then c.toUpper else c) digits (halves hash.toList)

def checksum (a : Address) : String :=
  String.ofList ('0' :: 'x' :: checksumDigits a)

end Address
end ArbBundle
