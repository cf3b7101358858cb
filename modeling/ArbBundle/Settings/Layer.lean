import ArbBundle.Settings.Value
import ArbBundle.Toml.Document

/-!
# Layer — settings laid over one another

- `SettingPath`: where a key puts its value; a key may lead through tables and arrays
- `Setting.lay`: a value laid over an older one; tables are merged entry by entry
- `Layer`: the keys of one source with their values; `Layer.lay` puts them over what is there
- `Layer.ofToml`, `Layer.ofEnvironment`: the layers of a file and of the environment

Keys are in lower case.  What stands in the way of a path is replaced by a table or an array.
-/

namespace ArbBundle

open Text Text.Reader

/-! ## Paths -/

inductive SettingStep
  | key (name : String)
  | index (i : Int)
  deriving DecidableEq

/-- The way to a setting from the root table: a key, and what follows it. -/
structure SettingPath where
  first : String
  rest : List SettingStep
  deriving DecidableEq

namespace SettingPath

def isKeyChar (c : Char) : Bool :=
  c.isAlphanum || c = ' ' || c = '_' || c = '-'

def key : Reader String :=
  String.ofList <$> takeWhile1 isKeyChar

/-- The place of an element; a negative one counts from the end. -/
def place : Reader Int := do
  let _ ← takeWhile Toml.isBlank
  let negative ← possibly (char '-')
  let n : Int := Decimal.numberOf (← takeWhile1 Char.isDigit)
  let _ ← takeWhile Toml.isBlank
  let n := if negative.isSome then -n else n
  match Word.int64? n with
  | some n => return n
  | none => refuse

def step : Reader SettingStep :=
  (do char '.'
      return .key (← key))
    <|> do
      char '['
      let i ← place
      char ']'
      return .index i

def path : Reader SettingPath := do
  return ⟨← key, ← many step⟩

/-- The path that a text spells; any other text is a key as a whole. -/
def ofText (s : String) : SettingPath :=
  (whole? path s.toList).getD ⟨s, []⟩

end SettingPath

/-! ## Laying -/

namespace Setting

/-- Puts a value in the place of the one that a key stands for, or behind all. -/
def put (key : String) (v : Setting) : List (String × Setting) → List (String × Setting)
  | [] => [(key, v)]
  | (k, old) :: rest => if k = key then (key, v) :: rest else (k, old) :: put key v rest

/-- The entries of a table; any other value has none. -/
def entries : Setting → List (String × Setting)
  | .table entries => entries
  | _ => []

/-- The elements of an array; any other value has none. -/
def elements : Setting → List Setting
  | .array elements => elements
  | _ => []

mutual

/-- A value laid over an older one.  A table is merged into it; any other value takes its place. -/
def lay (old : Setting) : Setting → Setting
  | .table incoming => layEntries old incoming
  | .nothing => .nothing
  | .text s => .text s
  | .integer n => .integer n
  | .real x => .real x
  | .boolean b => .boolean b
  | .array elements => .array elements

def layEntries (old : Setting) : List (String × Setting) → Setting
  | [] => old
  | (k, v) :: rest =>
    let before := ((entries old).lookup (lower k)).getD (.table [])
    layEntries (.table (put (lower k) (lay before v) (entries old))) rest

end

def indexOf (length : Nat) (i : Int) : Nat :=
  if 0 ≤ i then i.toNat else length - i.natAbs

/-- A setting with a value put behind some steps. -/
def layAt (v : Setting) : List SettingStep → Setting → Setting
  | [], old => lay old v
  | .key k :: rest, old =>
    let before := ((entries old).lookup k).getD (.table [])
    .table (put k (layAt v rest before) (entries old))
  | .index i :: rest, old =>
    let es := elements old
    let i := indexOf es.length i
    let es := es ++ List.replicate (i + 1 - es.length) .nothing
    let before := if rest.isEmpty then .table [] else es[i]?.getD .nothing
    .array (es.set i (layAt v rest before))

end Setting

abbrev Layer := List (String × Setting)

namespace Layer

def layOne (below : List (String × Setting)) (key : String) (v : Setting) :
    List (String × Setting) :=
  let path := SettingPath.ofText (Setting.lower key)
  (Setting.layAt v (.key path.first :: path.rest) (.table below)).entries

def lay (below : List (String × Setting)) (layer : Layer) : List (String × Setting) :=
  layer.foldl (fun below (key, v) => layOne below key v) below

/-! ## Sources -/

def ofToml? (text : List Char) : Option Layer :=
  (Toml.document? text).map Setting.ofEntries

/-- What the names of environment variables that hold settings begin with. -/
def mark : List Char := ['a', 'r', 'b', '_']

/-- A text with a point for each pair of underscores. -/
def pointed : List Char → List Char
  | '_' :: '_' :: rest => '.' :: pointed rest
  | c :: rest => c :: pointed rest
  | [] => []

/-- The key of an environment variable, if it holds a setting. -/
def keyOf? (name : String) : Option String :=
  let word := Text.lowerWord name.toList
  if mark.isPrefixOf word then some (String.ofList (pointed (word.drop mark.length))) else none

/-- The value of an environment variable: a truth value, a whole number or a number with a fraction
if it reads as one, and else a text. -/
def valueOf (s : String) : Setting :=
  match Setting.lower s with
  | "true" => .boolean true
  | "false" => .boolean false
  | _ =>
    match Decimal.signed64? s.toList with
    | some n => .integer n
    | none =>
      match Decimal.real? s.toList with
      | some x => .real x
      | none => .text s

def ofEnvironment (environment : List (String × String)) : Layer :=
  environment.filterMap fun (name, value) => (keyOf? name).map fun key => (key, valueOf value)

end Layer
end ArbBundle
