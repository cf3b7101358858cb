/-!
# Value — the data of a JSON text

- `Json`: a value as its text wrote it; numbers keep their spelling, and a string that stands for
  no text (it holds half of a surrogate pair, or bytes that are not UTF-8) is a string all the same
- `Json.natural?`, `Json.integer?`: the whole numbers among the spellings
- `Json.depth`: how deeply arrays and objects are nested
-/

namespace ArbBundle

inductive Json
  | null
  | bool (b : Bool)
  | num (spelling : List Char)
  | str (text? : Option String)
  | arr (elements : List Json)
  | obj (members : List (Option String × Json))
  deriving Inhabited

namespace Json

def text (s : String) : Json :=
  .str (some s)

def ofNat (n : Nat) : Json :=
  .num (Nat.toDigits 10 n)

def decimal? : List Char → Option Nat
  | [] => none
  | cs => cs.foldlM (fun n c => if c.isDigit then some (n * 10 + (c.toNat - 48)) else none) 0

/-- The number of a spelling that is digits only. -/
def natural? : Json → Option Nat
  | .num cs => decimal? cs
  | _ => none

/-- The number of a spelling that is digits with or without a minus sign; a negative zero is no
whole number. -/
def integer? : Json → Option Int
  | .num ('-' :: cs) =>
    match decimal? cs with
    | some 0 | none => none
    | some n => some (-(n : Int))
  | .num cs => (decimal? cs).map Int.ofNat
  | _ => none

def text? : Json → Option String
  | .str t => t
  | _ => none

def elements? : Json → Option (List Json)
  | .arr es => some es
  | _ => none

mutual

/-- How deeply arrays and objects are nested; a plain value has depth zero. -/
def depth : Json → Nat
  | .arr es => 1 + depthElements es
  | .obj ms => 1 + depthMembers ms
  | _ => 0

def depthElements : List Json → Nat
  | [] => 0
  | e :: es => max (depth e) (depthElements es)

def depthMembers : List (Option String × Json) → Nat
  | [] => 0
  | (_, v) :: ms => max (depth v) (depthMembers ms)

end

end Json
end ArbBundle
