import ArbBundle.Text.Symbol
import ArbBundle.Url.Bidi
import ArbBundle.Url.DomainTable
import ArbBundle.Url.Punycode

/-!
# Domain — names of hosts

A name is brought into its normal form character by character and then checked label by label.

- `Domain.mapped?`: letters in lower case, characters replaced or dropped; `none` where a character
  is not allowed
- `Domain.shown?`: what a label stands for; a label in the ASCII form must stand for a valid one,
  and another one must not begin with a combining mark or hold a joiner out of place
- `Domain.normal?`: the normal form of a valid name
-/

namespace ArbBundle
namespace Domain

def forbidden (c : Char) : Bool :=
  c ≤ ' ' || c == '\x7f' || "%#/:<>?@[\\]^|".toList.contains c

def runImage? (n : Nat) : Option Char :=
  asciiRuns.findSome? fun (low, high, first) =>
    if low ≤ n && n ≤ high then some (Char.ofNat (first + (n - low))) else none

/-- What takes the place of a character; `none` where it is not allowed. -/
def image? (c : Char) : Option (List Char) :=
  if c.toNat < 0x80 then some [c.toLower]
  else if ignored.has c then some []
  else if disallowed.has c then none
  else
    match runImage? c.toNat with
    | some a => some [a.toLower]
    | none =>
      match asciiTexts.lookup c.toNat with
      | some s => some s.toList
      | none => some [c]

def mapped? (name : List Char) : Option (List Char) :=
  (name.mapM image?).map List.flatten

def splitOn (mark : Char) : List Char → List (List Char)
  | [] => [[]]
  | c :: rest =>
    if c = mark then [] :: splitOn mark rest
    else
      match splitOn mark rest with
      | [] => [[c]]
      | part :: parts => (c :: part) :: parts

/-- Whether every joiner follows a sign that joins consonants. -/
def joinersOk : (previous : Option Char) → List Char → Bool
  | _, [] => true
  | previous, c :: rest =>
    (if c == '\u200c' || c == '\u200d' then previous.any fun p => joinerSigns.has p else true) &&
      joinersOk (some c) rest

def wideLabelOk (label : List Char) : Bool :=
  !(label.head?.any fun c => marks.has c) && joinersOk none label

def isNormal (c : Char) : Bool :=
  image? c == some [c] && !replaced.has c && !forbidden c

/-- The name that a label in its normal form stands for, unless it is not valid: a label in the
ASCII form has to stand for a valid label outside ASCII. -/
def shown? (label : List Char) : Option (List Char) :=
  match label with
  | 'x' :: 'n' :: '-' :: '-' :: form =>
    match Punycode.decode? form with
    | none => none
    | some name =>
      if name.any (fun c => 0x80 ≤ c.toNat) && name.all isNormal && wideLabelOk name then some name
      else none
  | label => if label.all (fun c => c.toNat < 0x80) || wideLabelOk label then some label else none

def labelsOk (name : List Char) : Bool :=
  match (splitOn '.' name).mapM shown? with
  | none => false
  | some labels => Bidi.nameOk labels

/-- The normal form of a valid name, written in UTF-8. -/
def normal? (name : Bytes) : Option (List Char) := do
  let name ← mapped? (← Text.strict? name)
  if name.all (fun c => !forbidden c) && labelsOk name then some name else none

end Domain
end ArbBundle
