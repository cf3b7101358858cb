import ArbBundle.Json.Token

/-!
# Spelling — values as their text wrote them

- `Word`: a word of a text with its spelling and the white space before it
- `Spelling.member?`: the words of a member of an object
- `Spelling.text`: the text of some words, without the white space before the first one

These read texts that are known to be correct.
-/

namespace ArbBundle
namespace Json

open Text (Symbol)

/-- A word of a text with its spelling and the white space before it. -/
structure Word where
  gap : List Char
  token : Token
  spelling : List Char

namespace Spelling

def characters (s : List Symbol) : List Char :=
  s.filterMap fun
    | .char c => some c
    | .damage _ => none

/-- The words of a text behind the white space `gap`. -/
def words? (gap : List Char) (s : List Symbol) : Option (List Word) :=
  match s with
  | [] => some []
  | .char c :: rest =>
    if Token.isSpace c then words? (gap ++ [c]) rest
    else
      match h : Token.next? (.char c :: rest) with
      | none => none
      | some (t, rest') =>
        have : rest'.length < rest.length + 1 := Token.length_next? h
        let spelling := characters ((.char c :: rest).take (rest.length + 1 - rest'.length))
        (words? [] rest').map (⟨gap, t, spelling⟩ :: ·)
  | .damage _ :: _ => none
termination_by s.length

def depthAfter (depth : Nat) : Token → Nat
  | .openArray => depth + 1
  | .openObject => depth + 1
  | .closeArray => depth - 1
  | .closeObject => depth - 1
  | _ => depth

/-- The words up to the end of the value that they begin with, below `depth` open containers. -/
def valueWords (depth : Nat) : List Word → List Word
  | [] => []
  | w :: rest =>
    let depth := depthAfter depth w.token
    if depth = 0 then [w] else w :: valueWords depth rest

/-- The words behind a key of the outermost object. -/
def behindKey? (key : String) (depth : Nat) : List Word → Option (List Word)
  | [] => none
  | w :: rest =>
    match depth, w.token, rest with
    | 1, .str (some k), ⟨_, .colon, _⟩ :: value =>
      if k = key then some value else behindKey? key 1 rest
    | _, _, _ => behindKey? key (depthAfter depth w.token) rest

def member? (key : String) (object : List Word) : Option (List Word) :=
  (behindKey? key 0 object).map (valueWords 0)

def text : List Word → String
  | [] => ""
  | w :: rest => String.ofList (w.spelling ++ rest.flatMap fun w => w.gap ++ w.spelling)

end Spelling
end Json
end ArbBundle
