import ArbBundle.Json.Value
import ArbBundle.Bytes.Hex

/-!
# Printer — writing a JSON text

Values are written without white space.  In a string the quote, the backslash and the control
characters are escaped, by a letter where there is one; every other character stands for itself.
A string that stands for no text is written as an empty one.
-/

namespace ArbBundle
namespace Json

def escape (c : Char) : List Char :=
  match c with
  | '"' => ['\\', '"']
  | '\\' => ['\\', '\\']
  | '\x08' => ['\\', 'b']
  | '\x0c' => ['\\', 'f']
  | '\n' => ['\\', 'n']
  | '\r' => ['\\', 'r']
  | '\t' => ['\\', 't']
  | c =>
    if c.toNat < 0x20 then
      ['\\', 'u', '0', '0', Hex.digit (c.toNat / 16), Hex.digit (c.toNat % 16)]
    else [c]

def quote (s : List Char) : List Char :=
  '"' :: s.flatMap escape ++ ['"']

def quote? (t : Option String) : List Char :=
  quote ((t.map String.toList).getD [])

mutual

def chars : Json → List Char
  | .null => ['n', 'u', 'l', 'l']
  | .bool true => ['t', 'r', 'u', 'e']
  | .bool false => ['f', 'a', 'l', 's', 'e']
  | .num n => n
  | .str t => quote? t
  | .arr [] => ['[', ']']
  | .arr (e :: es) => '[' :: chars e ++ charsElements es
  | .obj [] => ['\x7b', '\x7d']
  | .obj ((k, v) :: ms) => '\x7b' :: quote? k ++ ':' :: chars v ++ charsMembers ms

/-- The elements behind the first one, and the closing bracket. -/
def charsElements : List Json → List Char
  | [] => [']']
  | e :: es => ',' :: chars e ++ charsElements es

/-- The members behind the first one, and the closing brace. -/
def charsMembers : List (Option String × Json) → List Char
  | [] => ['\x7d']
  | (k, v) :: ms => ',' :: quote? k ++ ':' :: chars v ++ charsMembers ms

end

def render (j : Json) : String :=
  String.ofList j.chars

def object (members : List (String × Json)) : Json :=
  .obj (members.map fun (k, v) => (some k, v))

end Json
end ArbBundle
