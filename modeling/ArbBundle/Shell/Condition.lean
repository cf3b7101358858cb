import ArbBundle.Decimal.Spelled
import ArbBundle.Shell.Process
import ArbBundle.Text.Blank

/-!
# Condition — the conditions that a shell script can test

- `Condition.Reading`: a condition that was read off the front of some words
- `Condition.primary`: a comparison, a question about a text or a file, or a text
- `Condition.holds`: whether the condition that some words make up holds

A text holds if it is not empty.  `-a` binds tighter than `-o`.
-/

namespace ArbBundle
namespace Shell
namespace Condition

structure Reading where
  holds : Bool
  /-- The last word of it. -/
  last : List Char
  rest : List (List Char)

inductive Fault
  | illegalNumber (word : List Char)
  | missingArgument (operator : List Char)
  /-- More words follow behind the condition. -/
  | unexpected (last : List Char)
  deriving DecidableEq

def Fault.message : Fault → String
  | .illegalNumber word => s!"Illegal number: {String.ofList word}"
  | .missingArgument operator => s!"{String.ofList operator}: argument expected"
  | .unexpected last => s!"{String.ofList last}: unexpected operator"

def question? (p : Process) : List Char → Option (List Char → Bool)
  | ['-', 'n'] => some fun s => !s.isEmpty
  | ['-', 'z'] => some fun s => s.isEmpty
  | ['-', 'e'] => some fun s => (p.read? (String.ofList s)).isSome || isDirectory s
  | ['-', 'd'] => some isDirectory
  | ['-', 'f'] => some isFile
  | ['-', 'r'] => some isFile
  | ['-', 'w'] => some isFile
  | ['-', 'x'] => some isDirectory
  | ['-', 's'] => some fun s => (p.read? (String.ofList s)).any (!·.isEmpty)
  | ['-', 't'] => some fun _ => false
  | _ => none
where
  /-- Whether a text names a directory that is always there. -/
  isDirectory (s : List Char) : Bool := ["/", ".", "..", "/tmp", "/dev"].contains (String.ofList s)
  /-- Whether a text names a file. -/
  isFile (s : List Char) : Bool := (p.files.lookup (String.ofList s)).isSome

def numbers? : List Char → Option (Int → Int → Bool)
  | ['-', 'e', 'q'] => some fun a b => a == b
  | ['-', 'n', 'e'] => some fun a b => a != b
  | ['-', 'l', 't'] => some fun a b => a < b
  | ['-', 'l', 'e'] => some fun a b => a ≤ b
  | ['-', 'g', 't'] => some fun a b => b < a
  | ['-', 'g', 'e'] => some fun a b => b ≤ a
  | _ => none

def number (word : List Char) : Except Fault Int :=
  match Decimal.signed64? (Text.trim word) with
  | some n => .ok n
  | none => .error (.illegalNumber word)

def comparison? (op : List Char) : Option (List Char → List Char → Except Fault Bool) :=
  match op with
  | ['='] => some fun a b => .ok (a == b)
  | ['!', '='] => some fun a b => .ok (a != b)
  | ['<'] => some fun a b => .ok (String.ofList a < String.ofList b)
  | ['>'] => some fun a b => .ok (String.ofList b < String.ofList a)
  | op => (numbers? op).map fun f a b => do
    let a ← number a
    let b ← number b
    return f a b

/-- Whether a word that could be a question is a text, by the words behind it. -/
def isText : List (List Char) → Bool
  | [] => true
  | [_] => false
  | op :: _ :: _ => (comparison? op).isSome

/-- A comparison, a question, or a text; `last` is the word in front. -/
def primary (p : Process) (last : List Char) : List (List Char) → Except Fault Reading
  | [] => .ok ⟨false, last, []⟩
  | w :: rest =>
    match question? p w, isText rest, rest with
    | some f, false, s :: rest => .ok ⟨f s, s, rest⟩
    | _, _, rest =>
      match rest with
      | [] => .ok ⟨!w.isEmpty, w, []⟩
      | op :: behind =>
        match comparison? op, behind with
        | some _, [] => .error (.missingArgument op)
        | some f, b :: rest => do return ⟨← f w b, b, rest⟩
        | none, _ => .ok ⟨!w.isEmpty, w, rest⟩

def negated (p : Process) (last : List Char) : List (List Char) → Except Fault Reading
  | ['!'] :: rest => do
    let r ← negated p ['!'] rest
    return { r with holds := !r.holds }
  | words => primary p last words

def allOf (p : Process) (count : Nat) (last : List Char) (words : List (List Char)) :
    Except Fault Reading := do
  let r ← negated p last words
  match count, r.rest with
  | count + 1, ['-', 'a'] :: rest => do
    let more ← allOf p count ['-', 'a'] rest
    return { more with holds := r.holds && more.holds }
  | _, _ => return r

def anyOf (p : Process) (count : Nat) (last : List Char) (words : List (List Char)) :
    Except Fault Reading := do
  let r ← allOf p count last words
  match count, r.rest with
  | count + 1, ['-', 'o'] :: rest => do
    let more ← anyOf p count ['-', 'o'] rest
    return { more with holds := r.holds || more.holds }
  | _, _ => return r

def holds (p : Process) (words : List (List Char)) : Except Fault Bool := do
  let r ← anyOf p words.length [] words
  if r.rest.isEmpty then return r.holds else throw (.unexpected r.last)

end Condition
end Shell
end ArbBundle
