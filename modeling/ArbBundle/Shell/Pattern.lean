/-!
# Pattern — texts with wildcards

- `Glyph`: a character, and whether it stands for itself
- `Pattern.fits`: whether a pattern fits a text: `*` stands for any text, `?` for one character and
  brackets for one character of a set
- `Pattern.strip`: a text without a start or an end that a pattern fits
-/

namespace ArbBundle
namespace Shell

/-- A character of a word; one that was quoted stands for itself. -/
structure Glyph where
  char : Char
  quoted : Bool
  deriving DecidableEq

def textOf (word : List Glyph) : List Char :=
  word.map Glyph.char

namespace Pattern

def isWild (g : Glyph) (c : Char) : Bool :=
  !g.quoted && g.char == c

def isPattern (word : List Glyph) : Bool :=
  word.any fun g => ['*', '?', '['].any (isWild g)

/-- A set of characters up to its closing bracket, and the rest of the pattern. -/
def setOf? : List Glyph → Option (List Glyph × List Glyph)
  | [] => none
  | g :: rest =>
    if isWild g ']' then some ([], rest)
    else (setOf? rest).map fun (set, rest) => (g :: set, rest)

/-- Whether a character is in a set, which may hold ranges. -/
def setHas (c : Char) : List Glyph → Bool
  | low :: dash :: high :: rest =>
    if isWild dash '-' then (low.char ≤ c && c ≤ high.char) || setHas c rest
    else low.char == c || setHas c (dash :: high :: rest)
  | g :: rest => g.char == c || setHas c rest
  | [] => false

/-- Whether one character may stand where a set was opened. -/
def admits (c : Char) (set : List Glyph) : Bool :=
  match set with
  | g :: rest => if isWild g '!' then !setHas c rest else setHas c set
  | [] => false

def fitsWithin : (steps : Nat) → List Glyph → List Char → Bool
  | 0, _, _ => false
  | _, [], s => s.isEmpty
  | steps + 1, g :: rest, s =>
    if isWild g '*' then
      fitsWithin steps rest s ||
        match s with
        | [] => false
        | _ :: s => fitsWithin steps (g :: rest) s
    else
      match s with
      | [] => false
      | c :: s =>
        if isWild g '?' then fitsWithin steps rest s
        else if isWild g '[' then
          match setOf? rest with
          | some (set, rest) => admits c set && fitsWithin steps rest s
          | none => c == '[' && fitsWithin steps rest s
        else g.char == c && fitsWithin steps rest s

def fits (pattern : List Glyph) (s : List Char) : Bool :=
  fitsWithin (pattern.length + s.length + 1) pattern s

/-- A text without the shortest or the longest start, or end, that a pattern fits. -/
def strip (atEnd longest : Bool) (pattern : List Glyph) (s : List Char) : List Char :=
  let cuts := List.range (s.length + 1)
  let cuts := if atEnd == longest then cuts else cuts.reverse
  let isCut (n : Nat) : Bool := fits pattern (if atEnd then s.drop n else s.take n)
  match cuts.find? isCut with
  | some n => if atEnd then s.take n else s.drop n
  | none => s

end Pattern
end Shell
end ArbBundle
