import ArbBundle.Json.Token

/-!
# Parser — reading a JSON text

Words are read one after the other with the containers that are still open on a stack, so reading
recurs on the list of words alone, however deeply the text is nested.

- `Json.expectValue`, `Json.afterValue`: the two states of the reader
- `Json.parse?`: the value of a text that may hold damaged bytes
- `Json.ofText?`, `Json.ofBytes?`: the value of a text and of a byte string
-/

namespace ArbBundle
namespace Json

open Text (Symbol)

/-- A container that is still open: its elements or members so far, the last one first, and for an
object the key whose value comes next. -/
inductive Frame
  | array (done : List Json)
  | object (done : List (Option String × Json)) (key : Option String)

mutual

/-- Reads on where a value has to follow. -/
def expectValue : List Token → List Frame → Option Json
  | .null :: ts, st => afterValue .null ts st
  | .bool b :: ts, st => afterValue (.bool b) ts st
  | .num n :: ts, st => afterValue (.num n) ts st
  | .str t :: ts, st => afterValue (.str t) ts st
  | .openArray :: .closeArray :: ts, st => afterValue (.arr []) ts st
  | .openArray :: ts, st => expectValue ts (.array [] :: st)
  | .openObject :: .closeObject :: ts, st => afterValue (.obj []) ts st
  | .openObject :: .str k :: .colon :: ts, st => expectValue ts (.object [] k :: st)
  | _, _ => none

/-- Reads on behind the complete value `v`. -/
def afterValue (v : Json) : List Token → List Frame → Option Json
  | [], [] => some v
  | .comma :: ts, .array done :: st => expectValue ts (.array (v :: done) :: st)
  | .closeArray :: ts, .array done :: st => afterValue (.arr (v :: done).reverse) ts st
  | .comma :: .str k :: .colon :: ts, .object done key :: st =>
    expectValue ts (.object ((key, v) :: done) k :: st)
  | .closeObject :: ts, .object done key :: st =>
    afterValue (.obj ((key, v) :: done).reverse) ts st
  | _, _ => none

end

/-- The value of a text that may hold damaged bytes. -/
def parse? (s : List Symbol) : Option Json :=
  (Token.scan? s).bind fun ts => expectValue ts []

def ofText? (s : String) : Option Json :=
  parse? (s.toList.map .char)

def ofBytes? (b : Bytes) : Option Json :=
  parse? (Text.symbols b)

end Json
end ArbBundle
