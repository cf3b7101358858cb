import ArbBundle.Json.Value

/-!
# Kept — values of any shape

A value that is kept whole, whatever its shape, has to be writable as data: its strings are texts,
its numbers are finite in double precision, and it is not nested too deeply.

- `Json.isFinite`: the numbers that do not round to infinity
- `Json.kept?`: a value that can be kept, below some containers
-/

namespace ArbBundle
namespace Json

/-- How deeply kept values may be nested, the containers around them included. -/
def maxDepth : Nat := 127

/-- A spelling split into the digits before the exponent, how many of them follow the point, and
the exponent. -/
def scientific (spelling : List Char) : List Char × Nat × Int :=
  let cs := spelling.filter (· ≠ '-')
  let isMark (c : Char) : Bool := c = 'e' || c = 'E'
  let mantissa := cs.takeWhile (fun c => !isMark c)
  let scale := (cs.dropWhile (fun c => !isMark c)).drop 1
  let exponent := ((decimal? (scale.filter Char.isDigit)).getD 0 : Nat)
  let isSmall := (spelling.dropWhile (fun c => !isMark c)).contains '-'
  let places := ((mantissa.dropWhile (· ≠ '.')).drop 1).length
  (mantissa.filter Char.isDigit, places, if isSmall then -(exponent : Int) else exponent)

/-- The least number that rounds to infinity in double precision. -/
def infinityBound : Nat :=
  Nat.pow 2 1024 - Nat.pow 2 970

def isFinite (spelling : List Char) : Bool :=
  let (digits, places, exponent) := scientific spelling
  let significant := digits.dropWhile (· = '0')
  let shift := exponent - places
  if significant = [] then true
  else if significant.length + shift ≤ 308 then true
  else if 310 ≤ significant.length + shift then false
  else
    let n := (decimal? significant).getD 0
    if 0 ≤ shift then n * Nat.pow 10 shift.toNat < infinityBound
    else n < infinityBound * Nat.pow 10 (-shift).toNat

mutual

/-- Whether the strings of a value are texts and its numbers finite. -/
def isData : Json → Bool
  | .str t => t.isSome
  | .num cs => isFinite cs
  | .arr es => areData es
  | .obj ms => membersAreData ms
  | _ => true

def areData : List Json → Bool
  | [] => true
  | e :: es => isData e && areData es

def membersAreData : List (Option String × Json) → Bool
  | [] => true
  | (k, v) :: ms => k.isSome && isData v && membersAreData ms

end

def kept? (outer : Nat) (j : Json) : Option Json :=
  if outer + j.depth ≤ maxDepth && j.isData then some j else none

end Json
end ArbBundle
