import ArbBundle.Text.Symbol

/-!
# Fixed — byte strings of a known length, and numbers as bytes

- `FixedBytes n`: exactly `n` bytes; addresses and digests are such strings
- `ofBigEndian`, `bigEndian`, `minimalBigEndian`: numbers written most significant byte first
-/

namespace ArbBundle

structure FixedBytes (n : Nat) where
  toList : Bytes
  length_eq : toList.length = n
  deriving DecidableEq

namespace FixedBytes

def ofList? {n : Nat} (b : Bytes) : Option (FixedBytes n) :=
  if h : b.length = n then some ⟨b, h⟩ else none

def replicate (n : Nat) (b : UInt8) : FixedBytes n :=
  ⟨List.replicate n b, List.length_replicate⟩

def zero (n : Nat) : FixedBytes n :=
  replicate n 0

instance {n : Nat} : Inhabited (FixedBytes n) := ⟨zero n⟩

@[simp] theorem ofList?_toList {n : Nat} (b : FixedBytes n) : ofList? b.toList = some b := by
  simp [ofList?, b.length_eq]

end FixedBytes

abbrev Digest := FixedBytes 32

namespace Bytes

/-- The number that a byte string writes, most significant byte first. -/
def ofBigEndian (b : Bytes) : Nat :=
  b.foldl (fun n d => n * 256 + d.toNat) 0

/-- The low `width` bytes of a number, most significant byte first. -/
def bigEndian : (width : Nat) → Nat → Bytes
  | 0, _ => []
  | width + 1, n => bigEndian width (n / 256) ++ [UInt8.ofNat n]

/-- A number in as few bytes as hold it; zero has none. -/
def minimalBigEndian (n : Nat) : Bytes :=
  if _h : n = 0 then []
  else minimalBigEndian (n / 256) ++ [UInt8.ofNat n]
termination_by n
decreasing_by omega

@[simp] theorem length_bigEndian (width n : Nat) : (bigEndian width n).length = width := by
  induction width generalizing n with
  | zero => rfl
  | succ width ih => simp [bigEndian, ih]

end Bytes
end ArbBundle
