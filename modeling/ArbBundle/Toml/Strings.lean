import ArbBundle.Text.Reader

/-!
# Strings — the strings, blanks and comments of a TOML document

- `Toml.blanks`, `Toml.newline`, `Toml.comment`: what stands between values
- `Toml.basicString`, `Toml.literalString`: strings on one line, with and without escapes
- `Toml.longBasicString`, `Toml.longLiteralString`: strings over several lines; a line always ends
  in a line feed, however it was written
-/

namespace ArbBundle
namespace Toml

open Text Text.Reader

/-! ## Blanks -/

def isBlank (c : Char) : Bool :=
  c = ' ' || c = '\t'

/-- The characters of comments and literal strings: no control character but the tab. -/
def isPrintable (c : Char) : Bool :=
  c = '\t' || (' ' ≤ c && c ≠ '\x7f')

def blank : Reader Unit := do
  let _ ← satisfy isBlank

def blanks : Reader Unit := do
  let _ ← takeWhile isBlank

def newline : Reader Unit :=
  char '\n' <|> exactly ['\r', '\n']

def comment : Reader Unit := do
  char '#'
  let _ ← takeWhile isPrintable

/-- What may stand behind a value or a header: blanks, a comment, and the end of the line. -/
def lineEnd : Reader Unit := do
  blanks
  let _ ← possibly comment
  newline <|> atEnd

/-- Blanks, line ends and comments between the elements of an array. -/
def spread : Reader Unit := do
  let _ ← many (blank <|> newline <|> do comment; newline)

/-! ## Escapes -/

def hexValue (ds : List Char) : Nat :=
  ds.foldl (fun n c =>
    n * 16 + (if c.isDigit then c.toNat - 48 else (c.toNat ||| 32) - 87)) 0

def isHexDigit (c : Char) : Bool :=
  c.isDigit || ('a' ≤ c && c ≤ 'f') || ('A' ≤ c && c ≤ 'F')

/-- The character with a number written in so many hexadecimal digits. -/
def numbered (count : Nat) : Reader Char := do
  let n := hexValue (← takeExactly count isHexDigit)
  if n.isValidChar then return Char.ofNat n else refuse

def escaped : Reader Char := do
  match ← satisfy fun _ => true with
  | 'b' => return '\x08'
  | 'f' => return '\x0c'
  | 'n' => return '\n'
  | 'r' => return '\r'
  | 't' => return '\t'
  | '"' => return '"'
  | '\\' => return '\\'
  | 'u' => numbered 4
  | 'U' => numbered 8
  | _ => refuse

def escape : Reader Char := do
  char '\\'
  escaped

/-! ## Strings -/

def basicChar : Reader Char :=
  escape <|> satisfy fun c => isPrintable c && c ≠ '"' && c ≠ '\\'

def basicString : Reader (List Char) := do
  char '"'
  let cs ← many basicChar
  char '"'
  return cs

def literalString : Reader (List Char) := do
  char '\''
  let cs ← takeWhile fun c => isPrintable c && c ≠ '\''
  char '\''
  return cs

/-- An end of line that a backslash takes out of a string, with the blanks around it. -/
def continuedLine : Reader (List Char) := do
  char '\\'
  blanks
  newline
  let _ ← many (blank <|> newline)
  return []

def lineFeed : Reader (List Char) := do
  newline
  return ['\n']

/-- A run of at most two quotes that do not close a long string. -/
def innerQuotes (quote : Char) : Reader (List Char) := fun s =>
  let run := s.takeWhile (· = quote)
  if run.length = 1 ∨ run.length = 2 then some (run, s.drop run.length) else none

/-- The quotes that close a long string; up to two more before them belong to it. -/
def closingQuotes (quote : Char) : Reader (List Char) := fun s =>
  let run := s.takeWhile (· = quote)
  if 3 ≤ run.length ∧ run.length ≤ 5 then some (run.drop 3, s.drop run.length) else none

/-- A long string of pieces between three quotes at each end; a line end right behind the opening
quotes does not count. -/
def longString (quote : Char) (piece : Reader (List Char)) : Reader (List Char) := do
  exactly (List.replicate 3 quote)
  let _ ← possibly newline
  let pieces ← many (innerQuotes quote <|> piece)
  return pieces.flatten ++ (← closingQuotes quote)

def longBasicString : Reader (List Char) :=
  longString '"' (lineFeed <|> continuedLine <|> (fun c => [c]) <$> basicChar)

def longLiteralString : Reader (List Char) :=
  longString '\'' (lineFeed <|> takeWhile1 fun c => isPrintable c && c ≠ '\'')

def string : Reader String :=
  String.ofList <$> (longBasicString <|> basicStringAlone <|> longLiteralString
    <|> literalStringAlone)
where
  /-- A basic string that is not the beginning of a long one. -/
  basicStringAlone : Reader (List Char) := fun s =>
    if ['"', '"', '"'].isPrefixOf s then none else basicString s
  /-- A literal string that is not the beginning of a long one. -/
  literalStringAlone : Reader (List Char) := fun s =>
    if ['\'', '\'', '\''].isPrefixOf s then none else literalString s

end Toml
end ArbBundle
