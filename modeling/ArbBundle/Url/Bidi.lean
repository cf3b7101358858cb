import ArbBundle.Url.BidiTable

/-!
# Bidi — names with labels that are written from right to left

Once one label of a name holds a character that is written from right to left, every label has to
keep one direction: `Bidi.labelOk` tests a label, and `Bidi.nameOk` a name.
-/

namespace ArbBundle
namespace Bidi

open Domain

inductive Direction
  | left
  | right
  | arabicNumber
  | europeanNumber
  | neutral
  | nonspacing
  deriving DecidableEq

def direction (c : Char) : Direction :=
  if rightLetters.has c || arabicLetters.has c then .right
  else if arabicNumbers.has c then .arabicNumber
  else if europeanNumbers.has c then .europeanNumber
  else if nonspacing.has c then .nonspacing
  else if separators.has c || commonSeparators.has c || terminators.has c || neutrals.has c ||
      boundaries.has c then .neutral
  else .left

def holdsRight (label : List Char) : Bool :=
  label.any fun c => direction c == .right || direction c == .arabicNumber

/-- The direction of the last character that takes up a place of its own. -/
def lastDirection? (directions : List Direction) : Option Direction :=
  (directions.reverse.dropWhile (· == .nonspacing)).head?

/-- Whether a label keeps the direction that its first character sets. -/
def labelOk (label : List Char) : Bool :=
  let directions := label.map direction
  match directions with
  | [] => true
  | .right :: _ =>
    directions.all (· != .left) &&
      (lastDirection? directions).any
        (fun d => d == .right || d == .europeanNumber || d == .arabicNumber) &&
      !(directions.contains .europeanNumber && directions.contains .arabicNumber)
  | .left :: _ =>
    directions.all (fun d => d != .right && d != .arabicNumber) &&
      (lastDirection? directions).any (fun d => d == .left || d == .europeanNumber)
  | _ => false

def nameOk (labels : List (List Char)) : Bool :=
  !labels.any holdsRight || labels.all labelOk

end Bidi
end ArbBundle
