import ArbBundle.Bytes.Word

/-!
# Numeral — amounts written as text

An amount is written in radix ten, or in radix 16, 8 or 2 behind one of the marks `0x`, `0o`,
`0b` (the letter in either case).  Digits go on from nine to the letters of either case, an
underscore between or around digits is passed over, and no digit at all writes zero.  A sign, a
blank, a digit outside the radix or a value past the last word is refused.
-/

namespace ArbBundle
namespace Numeral

def digitValue? (c : Char) : Option Nat :=
  if '0' ≤ c && c ≤ '9' then some (c.toNat - 48)
  else if 'a' ≤ c && c ≤ 'z' then some (c.toNat - 87)
  else if 'A' ≤ c && c ≤ 'Z' then some (c.toNat - 55)
  else none

/-- The radix that a text announces, and its digits. -/
def radix : List Char → Nat × List Char
  | '0' :: 'x' :: rest | '0' :: 'X' :: rest => (16, rest)
  | '0' :: 'o' :: rest | '0' :: 'O' :: rest => (8, rest)
  | '0' :: 'b' :: rest | '0' :: 'B' :: rest => (2, rest)
  | s => (10, s)

/-- The number that digits write behind the value `acc` of the digits before them. -/
def digits? (base : Nat) : (acc : Nat) → List Char → Option Nat
  | acc, [] => some acc
  | acc, '_' :: rest => digits? base acc rest
  | acc, c :: rest =>
    match digitValue? c with
    | none => none
    | some d => if d < base then digits? base (acc * base + d) rest else none

def nat? (s : List Char) : Option Nat :=
  digits? (radix s).1 0 (radix s).2

def wei? (s : List Char) : Option Wei :=
  (nat? s).bind (Word.ofNat? 256)

end Numeral
end ArbBundle
