/-!
# AsciiCase — comparing a text with an ASCII word in lower case

Lower-casing a text and comparing the result with an ASCII word needs one question answered for
each character: which ASCII character, if any, is its lower case?  Among all of Unicode only the
letters `A` to `Z` and the Kelvin sign `U+212A` change into an ASCII character.  Every other
character either is its own lower case or has a lower case with a character outside ASCII in it.
-/

namespace ArbBundle
namespace Text

/-- The lower case of a character whose lower case is ASCII; any other character as it is. -/
def lowerAscii (c : Char) : Char :=
  if c == '\u212a' then 'k' else c.toLower

/-- A text with `lowerAscii` applied throughout: equal to an ASCII word exactly when the
lower-cased text is. -/
def lowerWord (s : List Char) : List Char :=
  s.map lowerAscii

end Text
end ArbBundle
