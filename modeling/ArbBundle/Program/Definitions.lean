import ArbBundle.Text.Blank
import ArbBundle.Text.Reader

/-!
# Definitions — variables from a file

A file of definitions gives the environment variables that are not set otherwise.

- `Definitions.lines`: the lines of a file; quotes and escaped line ends keep lines together, and
  comments are gone
- `Definitions.definition?`: the name in a line, and what stands behind the equals sign
- `Definitions.value?`: the value that this spells
- `Definitions.load`: an environment with the definitions of a file

Lines are taken one by one; the first one that is no definition ends the file.
-/

namespace ArbBundle
namespace Definitions

open Text Text.Reader

/-! ## Lines -/

inductive Openness
  | closed
  | blank
  | escape
  | single
  | singleEscape
  | double
  | doubleEscape
  deriving DecidableEq

def Openness.next (c : Char) : Openness → Openness
  | .escape => .closed
  | .single => if c = '\\' then .singleEscape else if c = '\'' then .closed else .single
  | .singleEscape => .single
  | .double => if c = '\\' then .doubleEscape else if c = '"' then .closed else .double
  | .doubleEscape => .double
  | o =>
    if c = '\\' then .escape
    else if c = '"' then .double
    else if c = '\'' then .single
    else if o = .closed ∧ isBlank c ∧ c ≠ '\n' ∧ c ≠ '\r' then .blank
    else .closed

/-- What stands open behind a line, or the line up to the comment that it ends in. -/
def scan (kept : List Char) (o : Openness) : List Char → Openness ⊕ List Char
  | [] => .inl o
  | c :: cs =>
    if o = .blank ∧ c = '#' then .inr kept else scan (kept ++ [c]) (o.next c) cs

def split : List Char → List (List Char)
  | [] => []
  | '\n' :: cs => ['\n'] :: split cs
  | c :: cs =>
    match split cs with
    | [] => [[c]]
    | line :: rest => (c :: line) :: rest

def withoutEnd (line : List Char) : List Char :=
  match line.reverse with
  | '\n' :: '\r' :: cs => cs.reverse
  | '\n' :: cs => cs.reverse
  | _ => line

/-- Lines that belong together as one, up to one that stays open. -/
def joined (kept : List Char) (o : Openness) : List (List Char) → List (List Char)
  | [] => []
  | line :: rest =>
    let whole := kept ++ line
    if (trimStart whole).head? = some '#' then joined [] .closed rest
    else
      match scan kept o line with
      | .inr before => before :: joined [] .closed rest
      | .inl .closed => withoutEnd whole :: joined [] .closed rest
      | .inl o => joined whole o rest

def lines (text : List Char) : List (List Char) :=
  joined [] .closed (split text)

/-! ## Definitions -/

def blanks : Reader Unit := do
  let _ ← Reader.takeWhile isBlank

def name : Reader String := do
  let c ← satisfy fun c => c.isAlpha || c = '_'
  let cs ← Reader.takeWhile fun c => c.isAlphanum || c = '_' || c = '.'
  blanks
  return String.ofList (c :: cs)

def named : Reader String := do
  let n ← name
  match n, ← peek with
  | "export", some '=' => char '='
  | "export", _ => return ← exported
  | _, _ => char '='
  return n
where
  /-- The name behind a word that has no meaning here. -/
  exported : Reader String := do
    let n ← name
    char '='
    return n

/-- The name in a line, and what stands behind the equals sign; `none` for what is no definition,
and nothing in a line that is empty. -/
def definition? (line : List Char) : Option (Option (String × List Char)) :=
  let line := trim line
  if line.isEmpty ∨ line.head? = some '#' then some none
  else (named line).map fun (n, rest) => some (n, trimStart rest)

/-! ## Values -/

inductive Place
  | plain
  /-- Single quotes, where every character stands for itself. -/
  | single
  | escape
  /-- The name of a variable behind a dollar sign. -/
  | reference (name : List Char)
  /-- The name of a variable in braces. -/
  | braces (name : List Char)
  /-- The blanks behind the value. -/
  | behind
  | comment
  deriving DecidableEq

structure Reading where
  inQuotes : Bool
  place : Place
  value : List Char
  deriving DecidableEq

namespace Reading

def push (r : Reading) (c : Char) : Reading :=
  { r with place := .plain, value := r.value ++ [c] }

def insert (r : Reading) (lookup : String → List Char) (name : List Char) : Reading :=
  { r with place := .plain, value := r.value ++ lookup (String.ofList name) }

def escaped? (r : Reading) (c : Char) : Option Reading :=
  if c = 'n' then some (r.push '\n')
  else if ['\\', '\'', '"', '$', ' '].contains c then some (r.push c)
  else none

def plain (r : Reading) (c : Char) : Reading :=
  if c = '$' then { r with place := .reference [] }
  else if c = '\\' then { r with place := .escape }
  else if c = '"' then { r with inQuotes := !r.inQuotes }
  else if r.inQuotes then r.push c
  else if c = '\'' then { r with place := .single }
  else if c = ' ' ∨ c = '\t' then { r with place := .behind }
  else r.push c

/-- Reads one character; `none` where it cannot stand. -/
def step? (lookup : String → List Char) (r : Reading) (c : Char) : Option Reading :=
  match r.place with
  | .plain => some (r.plain c)
  | .single =>
    if c = '\'' then some { r with place := .plain } else some { r.push c with place := .single }
  | .escape => r.escaped? c
  | .reference name =>
    if c.isAlphanum then some { r with place := .reference (name ++ [c]) }
    else if c = '\x7b' ∧ name.isEmpty then some { r with place := .braces [] }
    else if c = '$' then some { r.insert lookup name with place := .reference [] }
    else some ((r.insert lookup name).push c)
  | .braces name =>
    if c = '\x7d' then some (r.insert lookup name)
    else some { r with place := .braces (name ++ [c]) }
  | .behind =>
    if c = ' ' ∨ c = '\t' then some r
    else if c = '#' then some { r with place := .comment }
    else none
  | .comment => some r

/-- The value at its end, unless something stands open. -/
def finish? (lookup : String → List Char) (r : Reading) : Option (List Char) :=
  if r.inQuotes then none
  else
    match r.place with
    | .single => none
    | .braces _ => none
    | .reference name => some (r.insert lookup name).value
    | _ => some r.value

end Reading

/-- The value that a text spells, where variables stand for their values. -/
def value? (lookup : String → List Char) (text : List Char) : Option (List Char) :=
  if text.head? = some '#' then some []
  else (text.foldlM (Reading.step? lookup) ⟨false, .plain, []⟩).bind (Reading.finish? lookup)

/-! ## Loading -/

/-- The value of a variable; one that is not set is empty. -/
def valueIn (environment : List (String × String)) (name : String) : List Char :=
  ((environment.lookup name).getD "").toList

/-- An environment with the definition in a line, unless the variable is set already. -/
def define? (environment : List (String × String)) (line : List Char) :
    Option (List (String × String)) := do
  match ← definition? line with
  | none => return environment
  | some (name, text) =>
    let value ← value? (valueIn environment) text
    if (environment.lookup name).isSome then return environment
    else return environment ++ [(name, String.ofList value)]

/-- An environment with the definitions in some lines, up to the first line that is none. -/
def loadLines (environment : List (String × String)) : List (List Char) → List (String × String)
  | [] => environment
  | line :: rest =>
    match define? environment line with
    | none => environment
    | some environment => loadLines environment rest

def load (environment : List (String × String)) (file : List Char) : List (String × String) :=
  loadLines environment (lines (if file.head? = some '\ufeff' then file.tail else file))

end Definitions
end ArbBundle
