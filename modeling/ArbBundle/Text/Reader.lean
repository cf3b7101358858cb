/-!
# Reader — taking values off the front of a text

- `Reader`: a partial function from a text to a value and the rest of the text
- `Reader.satisfy`, `Reader.exactly`, `Reader.takeWhile`: characters and words
- `Reader.many`, `Reader.separated`: as many values as there are
- `Reader.whole?`: the value of a text that is used up

`a <|> b` reads with `b` where `a` reads nothing.
-/

namespace ArbBundle
namespace Text

/-- Takes a value off the front of a text. -/
abbrev Reader (α : Type) := StateT (List Char) Option α

namespace Reader

variable {α β : Type}

def refuse : Reader α := fun _ => none

/-- The next character, which stays where it is. -/
def peek : Reader (Option Char) := fun s => some (s.head?, s)

def satisfy (p : Char → Bool) : Reader Char
  | c :: s => if p c then some (c, s) else none
  | [] => none

def char (c : Char) : Reader Unit := do
  let _ ← satisfy (· = c)

def exactly (word : List Char) : Reader Unit := fun s =>
  if word.isPrefixOf s then some ((), s.drop word.length) else none

def takeWhile (p : Char → Bool) : Reader (List Char) := fun s =>
  some (s.takeWhile p, s.dropWhile p)

def takeWhile1 (p : Char → Bool) : Reader (List Char) := fun s =>
  match s.takeWhile p with
  | [] => none
  | cs => some (cs, s.dropWhile p)

def takeExactly (count : Nat) (p : Char → Bool) : Reader (List Char) := fun s =>
  let cs := s.take count
  if cs.length = count ∧ cs.all p then some (cs, s.drop count) else none

def atEnd : Reader Unit := fun s => if s.isEmpty then some ((), s) else none

def possibly (item : Reader α) : Reader (Option α) := fun s =>
  match item s with
  | some (a, r) => some (some a, r)
  | none => some (none, s)

/-- Values one after the other until one does not follow or uses up nothing. -/
def manyFrom (item : Reader α) (s : List Char) : List α × List Char :=
  match item s with
  | none => ([], s)
  | some (a, r) =>
    if _h : r.length < s.length then
      let (as, r') := manyFrom item r
      (a :: as, r')
    else ([], s)
termination_by s.length

def many (item : Reader α) : Reader (List α) := fun s => some (manyFrom item s)

def separated (item : Reader α) (separator : Reader β) : Reader (List α) := do
  let first ← item
  let more ← many (do
    let _ ← separator
    item)
  return first :: more

/-- The value of a text that a reader uses up. -/
def whole? (reader : Reader α) (s : List Char) : Option α :=
  match reader s with
  | some (a, []) => some a
  | _ => none

end Reader
end Text
end ArbBundle
