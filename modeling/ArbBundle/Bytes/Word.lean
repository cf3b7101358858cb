/-!
# Word — the fixed-width numbers of the chain

- `Wei`: amounts, profits and fees; arithmetic wraps modulo `2 ^ 256`
- `FeeRate`: wei per unit of gas, `128` bits wide
-/

namespace ArbBundle

abbrev Wei := BitVec 256

/-- A price of one unit of gas, in wei. -/
abbrev FeeRate := BitVec 128

namespace Word

def ofNat? (width : Nat) (n : Nat) : Option (BitVec width) :=
  if n < Nat.pow 2 width then some (BitVec.ofNat width n) else none

def uint64? (n : Nat) : Option UInt64 :=
  if n < UInt64.size then some (UInt64.ofNat n) else none

def uint32? (n : Nat) : Option UInt32 :=
  if n < UInt32.size then some (UInt32.ofNat n) else none

def int64? (n : Int) : Option Int :=
  let bound : Int := (Nat.pow 2 63 : Nat)
  if -bound ≤ n ∧ n < bound then some n else none

/-- A word is read back from its number. -/
theorem ofNat?_toNat {width : Nat} (w : BitVec width) : ofNat? width w.toNat = some w := by
  simp [ofNat?, w.isLt]

/-- A number that is taken for a word is not changed. -/
theorem toNat_of_ofNat? {width n : Nat} {w : BitVec width} (h : ofNat? width n = some w) :
    w.toNat = n := by
  simp only [ofNat?] at h
  split at h
  · cases h
    simpa using Nat.mod_eq_of_lt ‹n < Nat.pow 2 width›
  · cases h

end Word
end ArbBundle
