import ArbBundle.Toml.Draft
import ArbBundle.Toml.Scalar
import ArbBundle.Toml.Strings

/-!
# Document — reading a TOML document

- `Toml.value`: a value, with arrays and inline tables nested at most `Toml.maxDepth` deep
- `Toml.statement`: a header or an entry, with the rest of its line
- `Toml.document?`: the table of a text
-/

namespace ArbBundle
namespace Toml

open Text Text.Reader

/-- How deeply arrays and inline tables may be nested, and how long a dotted key may be. -/
def maxDepth : Nat := 79

/-! ## Keys -/

def isKeyChar (c : Char) : Bool :=
  c.isAlphanum || c = '-' || c = '_'

def simpleKey : Reader String :=
  String.ofList <$> (basicString <|> literalString <|> takeWhile1 isKeyChar)

def spacedKey : Reader String := do
  blanks
  let key ← simpleKey
  blanks
  return key

/-- A key that may be dotted: the parts before the last one, and the last one. -/
def key : Reader (List String × String) := do
  let parts ← separated spacedKey (char '.')
  if maxDepth < parts.length then refuse
  else
    match parts.getLast? with
    | none => refuse
    | some last => return (parts.dropLast, last)

def keyValue (value : Reader Toml) : Reader ((List String × String) × Toml) := do
  let k ← key
  char '='
  blanks
  let v ← value
  return (k, v)

/-! ## Values -/

def element (value : Reader Toml) : Reader Toml := do
  spread
  let v ← value
  spread
  return v

def bracketed (value : Reader Toml) : Reader Toml := do
  char '['
  let elements ← possibly (do
    let elements ← separated (element value) (char ',')
    let _ ← possibly (char ',')
    return elements)
  spread
  char ']'
  return .array (elements.getD [])

def tableOf? (entries : List ((List String × String) × Toml)) : Option Toml :=
  (entries.foldlM (fun t ((path, last), v) => Draft.insert? path last v t) []).map fun t =>
    .table (Draft.finishEntries t)

def inlineTable (value : Reader Toml) : Reader Toml := do
  char '\x7b'
  let entries ← possibly (separated (do
    let e ← keyValue value
    blanks
    return e) (char ','))
  blanks
  char '\x7d'
  match tableOf? (entries.getD []) with
  | some t => return t
  | none => refuse

/-- A value with at most `depth` containers around each other. -/
def value : (depth : Nat) → Reader Toml
  | 0 => Toml.text <$> string <|> scalar
  | depth + 1 =>
    Toml.text <$> string <|> bracketed (value depth) <|> inlineTable (value depth) <|> scalar

/-! ## Statements -/

inductive Statement
  | header (path : List String) (key : String)
  | elementHeader (path : List String) (key : String)
  | entry (path : List String) (key : String) (value : Toml)

def elementHeader : Reader Statement := do
  exactly ['[', '[']
  let (path, last) ← key
  exactly [']', ']']
  return .elementHeader path last

def header : Reader Statement := do
  char '['
  let (path, last) ← key
  char ']'
  return .header path last

def entry : Reader Statement := do
  let ((path, last), v) ← keyValue (value maxDepth)
  return .entry path last v

/-- A header or an entry, with the rest of its line. -/
def statement : Reader Statement := do
  let s ← elementHeader <|> header <|> entry
  lineEnd
  return s

def emptyLine : Reader Unit :=
  newline <|> do
    comment
    newline <|> atEnd

/-- One line, and the blanks in front of the next one. -/
def line : Reader (Option Statement) := do
  let s ← (do emptyLine; return none) <|> some <$> statement
  blanks
  return s

def statements : Reader (List Statement) := do
  blanks
  let lines ← many line
  return lines.filterMap id

/-- The entries of a document, and the table that entries belong to. -/
structure Outline where
  root : Entries
  path : List String

def Outline.add? (o : Outline) : Statement → Option Outline
  | .header path key => (Draft.open? path key o.root).map fun root => ⟨root, path ++ [key]⟩
  | .elementHeader path key =>
    (Draft.openElement? path key o.root).map fun root => ⟨root, path ++ [key]⟩
  | .entry path key v =>
    (Draft.atHeader? (Draft.insert? path key v) o.path o.root).map fun root => { o with root }

def document? (s : List Char) : Option (List (String × Toml)) := do
  let found ← whole? statements s
  let outline ← found.foldlM Outline.add? ⟨[], []⟩
  return Draft.finishEntries outline.root

end Toml
end ArbBundle
