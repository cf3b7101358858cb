import ArbBundle.Bytes.Word
import ArbBundle.Decimal.Binary64
import ArbBundle.Text.Reader

/-!
# Spelled — numbers written in decimal digits

- `Decimal.unsigned?`, `Decimal.nonNegative?`, `Decimal.signed64?`: whole numbers with the signs
  that they may have
- `Decimal.real?`: numbers that may have a fraction and an exponent, infinity and no number
-/

namespace ArbBundle
namespace Decimal

open Text Text.Reader

/-! ## Whole numbers -/

def digits? (s : List Char) : Option Nat :=
  if s ≠ [] ∧ s.all Char.isDigit then
    some (s.foldl (fun n c => n * 10 + (c.toNat - 48)) 0)
  else none

def unsigned? : List Char → Option Nat
  | '+' :: rest => digits? rest
  | s => digits? s

/-- A number that may stand behind a sign; below zero there is none. -/
def nonNegative? : List Char → Option Nat
  | '-' :: rest => (digits? rest).bind fun n => if n = 0 then some 0 else none
  | s => unsigned? s

def signed64? (s : List Char) : Option Int :=
  let n? : Option Int := match s with
    | '-' :: rest => (digits? rest).map fun n => -(n : Int)
    | s => (unsigned? s).map fun n => (n : Int)
  n?.bind Word.int64?

/-! ## Numbers with a fraction -/

/-- A sign; without one a number is not negative. -/
def sign : Reader Bool :=
  (do char '-'; return true) <|> (do char '+'; return false) <|> pure false

def numberOf (ds : List Char) : Nat :=
  (digits? ds).getD 0

def fraction : Reader (List Char) := do
  char '.'
  takeWhile Char.isDigit

def exponent : Reader Int := do
  let _ ← satisfy fun c => c = 'e' || c = 'E'
  let negative ← sign
  let n : Int := numberOf (← takeWhile1 Char.isDigit)
  return if negative then -n else n

/-- A finite number: digits before the point, behind it, or both. -/
def finite : Reader Binary64 := do
  let negative ← sign
  let whole ← takeWhile Char.isDigit
  let places := (← possibly fraction).getD []
  let scale := (← possibly exponent).getD 0
  if whole.isEmpty ∧ places.isEmpty then refuse
  else return .ofDecimal negative (numberOf (whole ++ places)) (scale - places.length)

/-- Infinity or no number, in letters of either case. -/
def special : Reader Binary64 := do
  let negative ← sign
  let word ← takeWhile fun _ => true
  match String.ofList (word.map Char.toLower) with
  | "inf" => return .infinite negative
  | "infinity" => return .infinite negative
  | "nan" => return .nan
  | _ => refuse

def real? (s : List Char) : Option Binary64 :=
  whole? (finite <|> special) s

end Decimal
end ArbBundle
