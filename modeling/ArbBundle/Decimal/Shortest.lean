import ArbBundle.Decimal.Binary64

/-!
# Shortest — doubles in as few digits as read back

- `Binary64.shortest`: the decimal number with the fewest digits that rounds to a double; of several
  the nearest one
- `Binary64.positional`: that number as text without an exponent
- `Binary64.toUInt64`: the nearest whole number, with what lies outside the range moved to its ends

The numbers of a given count of digits form a grid.  If a point of the grid rounds to the double, so
does one of the two points next to the double's exact value, so only these are looked at.
-/

namespace ArbBundle
namespace Decimal

/-- A decimal number `digits * 10 ^ scale`. -/
structure DecimalNumber where
  digits : Nat
  scale : Int
  deriving DecidableEq

namespace Binary64

def quotient (mantissa : Nat) (exponent : Int) : Nat × Nat :=
  (mantissa * Nat.pow 2 exponent.toNat, Nat.pow 2 (-exponent).toNat)

/-- The power of ten that leads `num / den`. -/
def leadingPower (num den : Nat) : Int :=
  let k : Int := (Nat.toDigits 10 num).length - (Nat.toDigits 10 den).length
  if den * Nat.pow 10 k.toNat ≤ num * Nat.pow 10 (-k).toNat then k else k - 1

/-- The points of the grid with step `10 ^ scale` on both sides of `num / den`, the nearer first. -/
def neighbours (num den : Nat) (scale : Int) : List DecimalNumber :=
  let n := num * Nat.pow 10 (-scale).toNat
  let d := den * Nat.pow 10 scale.toNat
  let below : DecimalNumber := ⟨n / d, scale⟩
  let above : DecimalNumber := ⟨n / d + 1, scale⟩
  if d < 2 * (n % d) then [above, below] else [below, above]

/-- The shortest decimal number with `count` digits at least that rounds to a double. -/
def shortestFrom (mantissa : Nat) (exponent : Int) (count : Nat) : (more : Nat) → DecimalNumber
  | 0 => ⟨0, 0⟩
  | more + 1 =>
    let (num, den) := quotient mantissa exponent
    let scale := leadingPower num den + 1 - count
    let found := (neighbours num den scale).find? fun p =>
      ofDecimal false p.digits p.scale = .finite false mantissa exponent
    match found with
    | some p => p
    | none => shortestFrom mantissa exponent (count + 1) more

/-- The shortest decimal number that rounds to a positive double; seventeen digits always do. -/
def shortest (mantissa : Nat) (exponent : Int) : DecimalNumber :=
  if mantissa = 0 then ⟨0, 0⟩ else shortestFrom mantissa exponent 1 18

end Binary64

/-- The text of a decimal number without an exponent and without needless zeros. -/
def DecimalNumber.positional (p : DecimalNumber) : List Char :=
  let digits := Nat.toDigits 10 p.digits
  let places := (-p.scale).toNat
  let digits := digits ++ List.replicate p.scale.toNat '0'
  let digits := List.replicate (places + 1 - digits.length) '0' ++ digits
  let whole := digits.take (digits.length - places)
  let fraction := (digits.drop (digits.length - places)).reverse.dropWhile (· = '0') |>.reverse
  if fraction.isEmpty then whole else whole ++ '.' :: fraction

namespace Binary64

def positional : Binary64 → String
  | .nan => "NaN"
  | .infinite negative => if negative then "-inf" else "inf"
  | .finite negative mantissa exponent =>
    let sign := if negative then ['-'] else []
    String.ofList (sign ++ (shortest mantissa exponent).positional)

def isZero : Binary64 → Bool
  | .finite _ mantissa _ => mantissa == 0
  | _ => false

/-- The nearest whole number, a half away from zero.  What is below zero or no number is zero, and
what is too large is the largest number. -/
def toUInt64 : Binary64 → UInt64
  | .nan => 0
  | .infinite negative => if negative then 0 else UInt64.ofNat (UInt64.size - 1)
  | .finite negative mantissa exponent =>
    if negative then 0
    else
      let (num, den) := quotient mantissa exponent
      UInt64.ofNat (min ((2 * num + den) / (2 * den)) (UInt64.size - 1))

end Binary64
end Decimal
end ArbBundle
