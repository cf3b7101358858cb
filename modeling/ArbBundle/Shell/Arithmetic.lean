import ArbBundle.Decimal.Spelled
import ArbBundle.Text.Reader
import ArbBundle.Bytes.Hex

/-!
# Arithmetic — whole numbers in a shell script

- `Arithmetic.levels`: the operators, from those that bind loosest to those that bind tightest
- `Arithmetic.value?`: the value of an expression, with the values of its variables given

A comparison is one or zero, and division drops the remainder.
-/

namespace ArbBundle
namespace Shell
namespace Arithmetic

open Text Text.Reader

/-- What an operator makes of two numbers; `none` for a division by zero. -/
abbrev Operator := Int → Int → Option Int

def truth (b : Bool) : Int :=
  if b then 1 else 0

def bitwise (f : UInt64 → UInt64 → UInt64) : Operator := fun a b =>
  some (f (Int64.ofInt a).toUInt64 (Int64.ofInt b).toUInt64).toInt64.toInt

/-- The operators with two operands, from those that bind loosest to those that bind tightest. -/
def levels : List (List (String × Operator)) := [
  [("||", fun a b => some (truth (a != 0 || b != 0)))],
  [("&&", fun a b => some (truth (a != 0 && b != 0)))],
  [("|", bitwise (· ||| ·))],
  [("^", bitwise fun a b => UInt64.xor a b)],
  [("&", bitwise (· &&& ·))],
  [("==", fun a b => some (truth (a == b))), ("!=", fun a b => some (truth (a != b)))],
  [("<=", fun a b => some (truth (a ≤ b))), (">=", fun a b => some (truth (b ≤ a))),
    ("<", fun a b => some (truth (a < b))), (">", fun a b => some (truth (b < a)))],
  [("<<", bitwise (· <<< ·)), (">>", bitwise (· >>> ·))],
  [("+", fun a b => some (a + b)), ("-", fun a b => some (a - b))],
  [("*", fun a b => some (a * b)),
    ("/", fun a b => if b = 0 then none else some (Int.tdiv a b)),
    ("%", fun a b => if b = 0 then none else some (Int.tmod a b))]]

def blanks : Reader Unit := do
  let _ ← takeWhile fun c => c = ' ' || c = '\t' || c = '\n'

/-- An operator, which is no part of a longer one. -/
def operator (name : String) : Reader Unit := do
  exactly name.toList
  match ← peek, name.toList with
  | some next, [c] => if (['<', '>', '|', '&'].contains c && next = c) then refuse else blanks
  | _, _ => blanks

/-- An expression with the operators of one level between operands. -/
def level (operators : List (String × Operator)) (operand : Reader Int) : Reader Int := do
  let first ← operand
  let step : Reader (Operator × Int) := do
    let f ← operators.foldr (fun (name, f) (r : Reader Operator) =>
      (do operator name; return f) <|> r) refuse
    return (f, ← operand)
  match (← many step).foldlM (fun a (f, b) => f a b) first with
  | some n => return n
  | none => refuse

/-- The number that a text writes: hexadecimal behind `0x`, octal behind `0`, else decimal. -/
def numberOf (s : List Char) : Int :=
  let inBase (base : Nat) (ds : List Char) : Int :=
    ds.foldl (fun n c => n * base + ((Hex.value? c).getD 0 : Nat)) 0
  match s with
  | '-' :: s => -inBase 10 s
  | '0' :: 'x' :: s => inBase 16 s
  | '0' :: s => inBase 8 s
  | s => inBase 10 s

def literal : Reader Int := do
  let ds ← takeWhile1 fun c => c.isAlphanum
  if ds.head?.any Char.isDigit then return numberOf ds else refuse

/-- The number in a variable; one that is not set holds zero. -/
def reference (valueOf : String → List Char) : Reader Int := do
  let _ ← possibly (char '$')
  let inBraces ← possibly (char '\x7b')
  let name ← takeWhile1 fun c => c.isAlphanum || c = '_' || c = '#' || c = '?'
  if inBraces.isSome then char '\x7d'
  return numberOf (valueOf (String.ofList name))

def between (operand : Reader Int) : Reader Int :=
  levels.foldr level operand

/-- A number, a variable, or an expression in brackets, with at most `depth` brackets and signs
around each other. -/
def operand (valueOf : String → List Char) : (depth : Nat) → Reader Int
  | 0 => refuse
  | depth + 1 => do
    let sign (c : Char) (f : Int → Int) : Reader Int := do
      char c
      blanks
      return f (← operand valueOf depth)
    let bracketed : Reader Int := do
      char '('
      blanks
      let n ← between (operand valueOf depth)
      char ')'
      return n
    let n ← bracketed <|> sign '-' (fun n => -n) <|> sign '+' id <|>
      sign '!' (fun n => truth (n == 0)) <|> sign '~' (fun n => -n - 1) <|>
      literal <|> reference valueOf
    blanks
    return n

def value? (valueOf : String → List Char) (s : List Char) : Option Int :=
  whole? (do blanks; between (operand valueOf (s.length + 1))) s

end Arithmetic
end Shell
end ArbBundle
