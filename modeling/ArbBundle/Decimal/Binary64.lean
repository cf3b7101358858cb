import ArbBundle.Decimal.Rounding

/-!
# Binary64 — double-precision numbers as exact values

A double is a sign, a whole mantissa and a power of two, so that every operation here is exact
integer arithmetic followed by one rounding.

- `Binary64.ofRatio`: the double nearest to a quotient
- `Binary64.ofDecimal`: the double nearest to a decimal number
- `Binary64.sub`: the double nearest to a difference
- `Binary64.bits`: the bit pattern of the interchange format
- `Binary64.fixed`: decimal text with a fixed number of places, rounded from the exact value
-/

namespace ArbBundle
namespace Decimal

/-- A double: no number, infinity, or `± mantissa * 2 ^ exponent`. -/
inductive Binary64
  | nan
  | infinite (negative : Bool)
  | finite (negative : Bool) (mantissa : Nat) (exponent : Int)
  deriving DecidableEq

namespace Binary64

/-- The exponent of the smallest positive double. -/
def minExponent : Int := -1074

/-- The exponent of the largest finite double. -/
def maxExponent : Int := 971

/-- The double of a mantissa below `2 ^ 53`; infinity where the exponent is too large. -/
def bounded (negative : Bool) (mantissa : Nat) (exponent : Int) : Binary64 :=
  if exponent ≤ maxExponent then .finite negative mantissa exponent else .infinite negative

/-- The double nearest to `num * 2 ^ shift / den`, ties to the even mantissa. -/
def ofScaled (negative : Bool) (num den : Nat) (shift : Int) : Binary64 :=
  if num = 0 then .finite false 0 minExponent
  else
    -- the quotient lies between `2 ^ (size - 1)` and `2 ^ (size + 1)`
    let size : Int := (num.log2 : Int) - den.log2 + shift
    let scaled (e : Int) : Nat × Nat :=
      let k := shift - e
      if 0 ≤ k then (num * Nat.pow 2 k.toNat, den) else (num, den * Nat.pow 2 (-k).toNat)
    let pick : Int :=
      let e := size - 52
      if (scaled e).1 < (scaled e).2 * Nat.pow 2 52 then e - 1 else e
    let e := max minExponent pick
    let m := roundDiv (scaled e).1 (scaled e).2
    if m = Nat.pow 2 53 then bounded negative (Nat.pow 2 52) (e + 1) else bounded negative m e

def ofRatio (num den : Nat) : Binary64 :=
  ofScaled false num den 0

/-- The double nearest to `digits * 10 ^ scale`; what is far outside the range of doubles is not
worked out. -/
def ofDecimal (negative : Bool) (digits : Nat) (scale : Int) : Binary64 :=
  let size := scale + (Nat.toDigits 10 digits).length
  if digits = 0 ∨ size < -400 then .finite negative 0 minExponent
  else if 400 < size then .infinite negative
  else if 0 ≤ scale then ofScaled negative (digits * Nat.pow 10 scale.toNat) 1 0
  else ofScaled negative digits (Nat.pow 10 (-scale).toNat) 0

/-- The value in units of `2 ^ e`, for an `e` not above the exponent. -/
def unitsAt (negative : Bool) (mantissa : Nat) (exponent e : Int) : Int :=
  let n : Int := (mantissa * Nat.pow 2 (exponent - e).toNat : Nat)
  if negative then -n else n

def sub : Binary64 → Binary64 → Binary64
  | .finite sx mx ex, .finite sy my ey =>
    let e := min ex ey
    let d := unitsAt sx mx ex e - unitsAt sy my ey e
    ofScaled (d < 0) d.natAbs 1 e
  | .infinite sx, .infinite sy => if sx = sy then .nan else .infinite sx
  | .infinite sx, .finite .. => .infinite sx
  | .finite .., .infinite sy => .infinite (!sy)
  | .nan, _ => .nan
  | _, .nan => .nan

def bits : Binary64 → Nat
  | .nan => 0x7ff8000000000000
  | .infinite negative => (if negative then Nat.pow 2 63 else 0) + 0x7ff0000000000000
  | .finite negative mantissa exponent =>
    let sign := if negative then Nat.pow 2 63 else 0
    if mantissa < Nat.pow 2 52 then sign + mantissa
    else sign + (exponent + 1075).toNat * Nat.pow 2 52 + (mantissa - Nat.pow 2 52)

/-- The digits of a number, with zeros in front to make up the width. -/
def padded (width n : Nat) : List Char :=
  let digits := Nat.toDigits 10 n
  List.replicate (width - digits.length) '0' ++ digits

/-- Decimal text with a fixed number of places; a half goes to the even digit. -/
def fixed (places : Nat) : Binary64 → String
  | .nan => "NaN"
  | .infinite negative => if negative then "-inf" else "inf"
  | .finite negative mantissa exponent =>
    let num := mantissa * Nat.pow 10 places * Nat.pow 2 exponent.toNat
    let scaled := roundDiv num (Nat.pow 2 (-exponent).toNat)
    let whole := Nat.toDigits 10 (scaled / Nat.pow 10 places)
    let sign := if negative then ['-'] else []
    String.ofList (sign ++ whole ++ '.' :: padded places (scaled % Nat.pow 10 places))

end Binary64
end Decimal
end ArbBundle
