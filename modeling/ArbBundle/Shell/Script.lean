/-!
# Script — the commands of a shell script

- `Piece`: the parts of a word, before anything is put in their places
- `Use`: what is made of the value of a variable
- `Redirect`: where a command reads or writes instead
- `Script`: commands, and what joins them
-/

namespace ArbBundle
namespace Shell

mutual

/-- A part of a word.  What stands in quotes is neither split at its blanks nor a pattern. -/
inductive Piece
  | literal (s : List Char) (quoted : Bool)
  /-- The value of a variable. -/
  | value (name : String) (use : Use) (quoted : Bool)
  /-- What commands write. -/
  | output (body : Script) (quoted : Bool)
  /-- The value of an arithmetic expression. -/
  | number (expression : List Char) (quoted : Bool)

/-- What is made of the value of a variable.  `filled` asks for a value that is not empty. -/
inductive Use
  | whole
  | length
  /-- The value, or else a word, which `keeps` makes the value. -/
  | orElse (filled keeps : Bool) (word : List Piece)
  /-- The value, or else an error. -/
  | orFail (filled : Bool) (word : List Piece)
  /-- A word if there is a value. -/
  | instead (filled : Bool) (word : List Piece)
  /-- The value without the shortest or the longest start or end that a pattern fits. -/
  | strip (atEnd longest : Bool) (pattern : List Piece)

inductive Redirect
  /-- What goes to stream `fd` goes where stream `other` goes. -/
  | copy (fd other : Nat)
  | close (fd : Nat)
  | write (fd : Nat) (file : List Piece)
  | append (fd : Nat) (file : List Piece)
  | read (file : List Piece)
  /-- The input stands in the script. -/
  | here (body : List Piece)

inductive Script
  | nothing
  | simple (assignments : List (String × List Piece)) (words : List (List Piece))
      (redirects : List Redirect)
  | sequence (first second : Script)
  | both (first second : Script)
  | either (first second : Script)
  | pipe (first second : Script)
  | negation (body : Script)
  | background (body : Script)
  | subshell (body : Script)
  | redirected (body : Script) (redirects : List Redirect)
  | choice (test yes no : Script)
  /-- The body for as long as the test ends well, or as long as it does not. -/
  | loop (wellWanted : Bool) (test body : Script)
  /-- The body for each of some words, or for each argument. -/
  | forEach (name : String) (words : Option (List (List Piece))) (body : Script)
  /-- The first branch with a pattern that fits. -/
  | select (subject : List Piece) (branches : List (List (List Piece) × Script))
  | function (name : String) (body : Script)

end

/-- A word, before anything is put in the places of its parts. -/
abbrev Word := List Piece

end Shell
end ArbBundle
