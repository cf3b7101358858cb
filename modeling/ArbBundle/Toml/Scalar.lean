import ArbBundle.Bytes.Word
import ArbBundle.Decimal.Shortest
import ArbBundle.Text.Reader
import ArbBundle.Toml.Value

/-!
# Scalar — the numbers, truth values, dates and times of a TOML document

- `Toml.wholeNumber`: whole numbers of 64 bits, decimal or marked as hexadecimal, octal, binary
- `Toml.realNumber`: numbers with a fraction or an exponent, infinity and no number
- `Toml.dateOrTime`: dates and times; they are checked against the calendar and spelled anew

Underscores may stand between digits.  A positive number that rounds to infinity is refused.
-/

namespace ArbBundle
namespace Toml

open Text Text.Reader
open Decimal (Binary64)

/-! ## Digits -/

/-- The value of a digit in any base up to sixteen. -/
def digitValue (c : Char) : Nat :=
  if c.isDigit then c.toNat - 48 else (c.toNat ||| 32) - 87

def isDigitOf (base : Nat) (c : Char) : Bool :=
  (c.isDigit || ('a' ≤ c && c ≤ 'f') || ('A' ≤ c && c ≤ 'F')) && digitValue c < base

def numberOf (base : Nat) (ds : List Char) : Nat :=
  ds.foldl (fun n c => n * base + digitValue c) 0

/-- A digit that may stand behind an underscore. -/
def furtherDigit (base : Nat) : Reader Char := do
  let _ ← possibly (char '_')
  satisfy (isDigitOf base)

def digits (base : Nat) : Reader (List Char) := do
  let first ← satisfy (isDigitOf base)
  return first :: (← many (furtherDigit base))

/-- Decimal digits that do not begin with a needless zero. -/
def leadingDigits : Reader (List Char) := do
  if (← peek) = some '0' then
    char '0'
    return ['0']
  else digits 10

/-- A sign; without one a number is not negative. -/
def sign : Reader Bool := do
  match ← peek with
  | some '-' => char '-'; return true
  | some '+' => char '+'; return false
  | _ => return false

/-! ## Numbers -/

def inRange (n : Int) : Reader Int :=
  match Word.int64? n with
  | some n => return n
  | none => refuse

/-- A whole number behind the mark of its base. -/
def marked (mark : Char) (base : Nat) : Reader Int := do
  exactly ['0', mark]
  inRange (numberOf base (← digits base))

def decimal : Reader Int := do
  let negative ← sign
  let n : Int := numberOf 10 (← leadingDigits)
  inRange (if negative then -n else n)

def wholeNumber : Reader Int :=
  marked 'x' 16 <|> marked 'o' 8 <|> marked 'b' 2 <|> decimal

def fraction : Reader (List Char) := do
  char '.'
  digits 10

def exponent : Reader Int := do
  let _ ← satisfy fun c => c = 'e' || c = 'E'
  let negative ← sign
  let n : Int := numberOf 10 (← digits 10)
  return if negative then -n else n

/-- A number with a fraction or an exponent. -/
def finiteNumber : Reader Binary64 := do
  let negative ← sign
  let whole ← leadingDigits
  let places ← possibly fraction
  let scale ← possibly exponent
  if places = none ∧ scale = none then refuse
  else
    let places := places.getD []
    let x := Binary64.ofDecimal negative (numberOf 10 (whole ++ places))
      (scale.getD 0 - places.length)
    if x = .infinite false then refuse else return x

/-- Infinity, or no number. -/
def specialNumber : Reader Binary64 := do
  let negative ← sign
  (do exactly ['i', 'n', 'f']; return .infinite negative)
    <|> do exactly ['n', 'a', 'n']; return .nan

def realNumber : Reader Binary64 :=
  finiteNumber <|> specialNumber

def truth : Reader Bool :=
  (do exactly ['t', 'r', 'u', 'e']; return true)
    <|> do exactly ['f', 'a', 'l', 's', 'e']; return false

/-! ## Dates and times -/

/-- A number of so many decimal digits between two bounds. -/
def bounded (count low high : Nat) : Reader Nat := do
  let n := numberOf 10 (← takeExactly count Char.isDigit)
  if low ≤ n ∧ n ≤ high then return n else refuse

def daysOf (year month : Nat) : Nat :=
  if month = 2 then
    if year % 4 = 0 ∧ (year % 100 ≠ 0 ∨ year % 400 = 0) then 29 else 28
  else if month = 4 ∨ month = 6 ∨ month = 9 ∨ month = 11 then 30
  else 31

/-- A number with zeros in front to make up the width. -/
def wide (width n : Nat) : List Char :=
  Binary64.padded width n

def date : Reader (List Char) := do
  let year ← bounded 4 0 9999
  char '-'
  let month ← bounded 2 1 12
  char '-'
  let day ← bounded 2 1 (daysOf year month)
  return wide 4 year ++ '-' :: wide 2 month ++ '-' :: wide 2 day

/-- The fraction of a second, cut after nine places and spelled without zeros at its end. -/
def secondFraction : Reader (List Char) := do
  char '.'
  let ds ← takeWhile1 Char.isDigit
  let ds := ((ds.take 9).reverse.dropWhile (· = '0')).reverse
  return if ds.isEmpty then [] else '.' :: ds

def timeOfDay : Reader (List Char) := do
  let hour ← bounded 2 0 23
  char ':'
  let minute ← bounded 2 0 59
  char ':'
  let second ← bounded 2 0 60
  let rest := (← possibly secondFraction).getD []
  return wide 2 hour ++ ':' :: wide 2 minute ++ ':' :: wide 2 second ++ rest

def offset : Reader (List Char) :=
  (do let _ ← satisfy fun c => c = 'Z' || c = 'z'
      return ['Z'])
    <|> do
      let mark ← satisfy fun c => c = '+' || c = '-'
      let hour ← bounded 2 0 23
      char ':'
      let minute ← bounded 2 0 59
      let mark := if hour = 0 ∧ minute = 0 then '+' else mark
      return mark :: wide 2 hour ++ ':' :: wide 2 minute

def timeOfDate : Reader (List Char) := do
  let _ ← satisfy fun c => c = 'T' || c = 't' || c = ' '
  let time ← timeOfDay
  let zone ← possibly offset
  return 'T' :: time ++ zone.getD []

def dateOrTime : Reader String :=
  String.ofList <$> ((do
    let day ← date
    return day ++ (← possibly timeOfDate).getD [])
    <|> timeOfDay)

def scalar : Reader Toml :=
  .moment <$> dateOrTime <|> .real <$> realNumber <|> .integer <$> wholeNumber
    <|> .boolean <$> truth

end Toml
end ArbBundle
