import ArbBundle.Bytes.Hex
import ArbBundle.Text.Combining
import ArbBundle.Text.Unprintable

/-!
# Quoted — texts between quotes for messages

A text is shown between double quotes.  The quote, the backslash and the common control characters
are escaped by a letter; characters without a glyph and characters that would join the one before
them are escaped by their code point; every other character stands for itself.
-/

namespace ArbBundle
namespace Text

def escapedPoint (c : Char) : List Char :=
  ['\\', 'u', '\x7b'] ++ Hex.ofNat c.toNat ++ ['\x7d']

def escaped (c : Char) : List Char :=
  match c with
  | '\x00' => ['\\', '0']
  | '\t' => ['\\', 't']
  | '\n' => ['\\', 'n']
  | '\r' => ['\\', 'r']
  | '"' => ['\\', '"']
  | '\\' => ['\\', '\\']
  | c =>
    if ' ' ≤ c && c ≤ '~' then [c]
    else if combining.has c || unprintable.has c then escapedPoint c
    else [c]

def quoted (s : String) : String :=
  String.ofList ('"' :: s.toList.flatMap escaped ++ ['"'])

end Text
end ArbBundle
