import ArbBundle.Text.CaseTable

/-!
# LowerCase — the lower case of a text

- `lowerOf`: the lower case of a character, which is the same wherever the character stands
- `lowerAt`: the lower case of a character between others; only for the capital sigma do these matter
- `lower`: the lower case of a text
-/

namespace ArbBundle
namespace Text

def CaseRun.has (r : CaseRun) (c : Char) : Bool :=
  r.first ≤ c.toNat && c.toNat ≤ r.last && (c.toNat - r.first) % r.step == 0

def CaseRun.lower (r : CaseRun) (c : Char) : Char :=
  Char.ofNat (r.image + (c.toNat - r.first))

def lowerOf (c : Char) : List Char :=
  if c.toNat < 0x80 then [c.toLower]
  -- The only character whose lower case is more than one: a dotted `I`.
  else if c == '\u0130' then ['i', '\u0307']
  else match lowerRuns.find? (·.has c) with
    | some r => [r.lower c]
    | none => [c]

/-- Whether the next character that case does not pass over has a case. -/
def meetsCased (s : List Char) : Bool :=
  match s.dropWhile caseIgnorable.has with
  | [] => false
  | c :: _ => cased.has c

/-- The lower case of a character with the text in front of it, the nearest character first, and the
text behind it.  A capital sigma at the end of a word has a lower case of its own. -/
def lowerAt (before : List Char) (c : Char) (after : List Char) : List Char :=
  if c == 'Σ' then [if meetsCased before && !meetsCased after then 'ς' else 'σ'] else lowerOf c

/-- The lower case of what follows on a text, which is given from its end. -/
def lowerFrom (before : List Char) : List Char → List Char
  | [] => []
  | c :: after => lowerAt before c after ++ lowerFrom (c :: before) after

def lower (s : List Char) : List Char :=
  lowerFrom [] s

end Text
end ArbBundle
