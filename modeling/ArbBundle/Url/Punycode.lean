/-!
# Punycode — names in the ASCII form of the domain name system

`decode?` reads the ASCII characters in front of the last hyphen as they are and then inserts one
character for each number behind it.  A number is written in digits of varying weight, and tells how
far to go from the last insertion; the weights adapt to the numbers read so far.
-/

namespace ArbBundle
namespace Punycode

/-- The value of a digit: letters of either case, then the ten digits. -/
def digit? (c : Char) : Option Nat :=
  if 'a' ≤ c && c ≤ 'z' then some (c.toNat - 97)
  else if 'A' ≤ c && c ≤ 'Z' then some (c.toNat - 65)
  else if '0' ≤ c && c ≤ '9' then some (c.toNat - 22)
  else none

/-- The least digit that does not end a number at the place `k`. -/
def threshold (k bias : Nat) : Nat :=
  if k ≤ bias then 1 else min 26 (k - bias)

/-- Divides by 35 while the number is above 455, and counts the divisions in steps of 36. -/
def damp (delta steps : Nat) : Nat × Nat :=
  if _h : 455 < delta then damp (delta / 35) (steps + 36) else (delta, steps)
termination_by delta
decreasing_by omega

def adapt (delta points : Nat) (first : Bool) : Nat :=
  let start := if first then delta / 700 else delta / 2
  let (rest, steps) := damp (start + start / points) 0
  steps + 36 * rest / (rest + 38)

structure State where
  /-- The characters so far. -/
  output : List Char
  /-- The code point of the last insertion. -/
  point : Nat
  /-- The sum of the digits of this number, upon the place of the last insertion. -/
  index : Nat
  /-- The place of the last insertion. -/
  start : Nat
  weight : Nat
  k : Nat
  bias : Nat

/-- Inserts a character at the place that a complete number tells. -/
def State.insert? (st : State) : Option State :=
  let points := st.output.length + 1
  let point := st.point + st.index / points
  let place := st.index % points
  if 0x110000 ≤ point ∨ (0xd800 ≤ point ∧ point < 0xe000) then none
  else some {
    output := st.output.take place ++ Char.ofNat point :: st.output.drop place
    point, index := place + 1, start := place + 1, weight := 1, k := 36
    bias := adapt (st.index - st.start) points (st.start == 0) }

def insertions? (st : State) : List Char → Option State
  | [] => if st.k = 36 then some st else none
  | c :: rest =>
    match digit? c with
    | none => none
    | some d =>
      let st := { st with index := st.index + d * st.weight }
      let t := threshold st.k st.bias
      if d < t then
        match st.insert? with
        | none => none
        | some st => insertions? st rest
      else insertions? { st with weight := st.weight * (36 - t), k := st.k + 36 } rest

/-- The text in front of the last hyphen, and the text behind it. -/
def splitLast (s : List Char) : List Char × List Char :=
  match (s.reverse.span (· != '-')) with
  | (_, []) => ([], s)
  | (behind, _ :: before) => (before.reverse, behind.reverse)

def decode? (s : List Char) : Option (List Char) :=
  let (basic, numbers) := splitLast s
  (insertions? ⟨basic, 128, 0, 0, 1, 36, 72⟩ numbers).map State.output

end Punycode
end ArbBundle
