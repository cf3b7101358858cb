import ArbBundle.Json.Value
import ArbBundle.Text.Symbol
import ArbBundle.Bytes.Hex

/-!
# Token — the words of a JSON text

- `Token`: brackets, marks and plain values
- `Token.scan?`: the tokens of a text of symbols
- `Token.number?`: the longest number at the front of a text
- `Token.string?`: a string up to its closing quote

A string may hold damaged bytes and lone surrogates as far as the grammar goes; such a string
stands for no text.  Control characters are refused in every string.
-/

namespace ArbBundle
namespace Json

open Text (Symbol)

inductive Token
  | openArray
  | closeArray
  | openObject
  | closeObject
  | comma
  | colon
  | null
  | bool (b : Bool)
  | num (spelling : List Char)
  | str (text? : Option String)
  deriving DecidableEq

namespace Token

/-! ## Numbers -/

def digits : List Symbol → List Char × List Symbol
  | .char c :: rest =>
    if c.isDigit then (c :: (digits rest).1, (digits rest).2) else ([], .char c :: rest)
  | s => ([], s)

/-- The whole part of a number: one zero, or digits that do not begin with zero. -/
def wholePart? (s : List Symbol) : Option (List Char × List Symbol) :=
  match s with
  | .char '0' :: rest => some (['0'], rest)
  | _ =>
    match digits s with
    | ([], _) => none
    | found => some found

def fraction? : List Symbol → Option (List Char × List Symbol)
  | .char '.' :: rest =>
    match digits rest with
    | ([], _) => none
    | (ds, rest) => some ('.' :: ds, rest)
  | s => some ([], s)

def exponentSign : List Symbol → List Char × List Symbol
  | .char '+' :: rest => (['+'], rest)
  | .char '-' :: rest => (['-'], rest)
  | s => ([], s)

def exponentDigits? (letter : Char) (s : List Symbol) : Option (List Char × List Symbol) :=
  let (sign, rest) := exponentSign s
  match digits rest with
  | ([], _) => none
  | (ds, rest) => some (letter :: sign ++ ds, rest)

def exponent? : List Symbol → Option (List Char × List Symbol)
  | .char 'e' :: rest => exponentDigits? 'e' rest
  | .char 'E' :: rest => exponentDigits? 'E' rest
  | s => some ([], s)

def unsigned? (s : List Symbol) : Option (List Char × List Symbol) := do
  let (whole, s) ← wholePart? s
  let (fraction, s) ← fraction? s
  let (exponent, s) ← exponent? s
  return (whole ++ fraction ++ exponent, s)

def number? : List Symbol → Option (List Char × List Symbol)
  | .char '-' :: rest => (unsigned? rest).map fun (ds, rest) => ('-' :: ds, rest)
  | s => unsigned? s

/-! ## Strings -/

/-- An element of a string: a character, half of a surrogate pair, or damaged bytes. -/
inductive Piece
  | char (c : Char)
  | half (unit : Nat)
  | damage
  deriving DecidableEq

def unit? (a b c d : Char) : Option Nat := do
  let a ← Hex.value? a
  let b ← Hex.value? b
  let c ← Hex.value? c
  let d ← Hex.value? d
  return ((a * 16 + b) * 16 + c) * 16 + d

def Piece.ofUnit (n : Nat) : Piece :=
  if 0xd800 ≤ n ∧ n ≤ 0xdfff then .half n else .char (Char.ofNat n)

def escaped? : Char → Option Char
  | '"' => some '"'
  | '\\' => some '\\'
  | '/' => some '/'
  | 'b' => some '\x08'
  | 'f' => some '\x0c'
  | 'n' => some '\n'
  | 'r' => some '\r'
  | 't' => some '\t'
  | _ => none

/-- The pieces of a string behind its opening quote, put in front of `acc` in reverse, and the rest
behind the closing quote. -/
def pieces? (acc : List Piece) : List Symbol → Option (List Piece × List Symbol)
  | [] => none
  | .damage _ :: rest => pieces? (.damage :: acc) rest
  | .char '"' :: rest => some (acc.reverse, rest)
  | .char '\\' :: .char 'u' :: .char a :: .char b :: .char c :: .char d :: rest =>
    match unit? a b c d with
    | some n => pieces? (Piece.ofUnit n :: acc) rest
    | none => none
  | .char '\\' :: .char c :: rest =>
    match escaped? c with
    | some c => pieces? (.char c :: acc) rest
    | none => none
  | .char '\\' :: _ => none
  | .char c :: rest => if c.toNat < 0x20 then none else pieces? (.char c :: acc) rest

def paired (high low : Nat) : Char :=
  Char.ofNat (0x10000 + (high - 0xd800) * 0x400 + (low - 0xdc00))

/-- The text that pieces stand for; `none` where a half has no partner or bytes are damaged. -/
def textOfPieces? : List Piece → Option (List Char)
  | [] => some []
  | .char c :: rest => (textOfPieces? rest).map (c :: ·)
  | .half high :: .half low :: rest =>
    if high < 0xdc00 ∧ 0xdc00 ≤ low then (textOfPieces? rest).map (paired high low :: ·) else none
  | .half _ :: _ => none
  | .damage :: _ => none

def string? (s : List Symbol) : Option (Option String × List Symbol) :=
  (pieces? [] s).map fun (ps, rest) => ((textOfPieces? ps).map String.ofList, rest)

/-! ## Words -/

def isSpace (c : Char) : Bool :=
  c == ' ' || c == '\t' || c == '\n' || c == '\r'

/-- The word at the front of a text that does not begin with white space. -/
def next? : List Symbol → Option (Token × List Symbol)
  | .char '[' :: rest => some (.openArray, rest)
  | .char ']' :: rest => some (.closeArray, rest)
  | .char '\x7b' :: rest => some (.openObject, rest)
  | .char '\x7d' :: rest => some (.closeObject, rest)
  | .char ',' :: rest => some (.comma, rest)
  | .char ':' :: rest => some (.colon, rest)
  | .char 'n' :: .char 'u' :: .char 'l' :: .char 'l' :: rest => some (.null, rest)
  | .char 't' :: .char 'r' :: .char 'u' :: .char 'e' :: rest => some (.bool true, rest)
  | .char 'f' :: .char 'a' :: .char 'l' :: .char 's' :: .char 'e' :: rest =>
    some (.bool false, rest)
  | .char '"' :: rest => (string? rest).map fun (t, rest) => (.str t, rest)
  | s => (number? s).map fun (n, rest) => (.num n, rest)

/-- The digits and the rest are the whole text. -/
theorem length_digits (s : List Symbol) :
    (digits s).1.length + (digits s).2.length = s.length := by
  fun_induction digits s with
  | case1 c rest hdigit ih =>
      simp only [List.length_cons]
      omega
  | case2 c rest hother =>
      exact Nat.zero_add _
  | case3 s hempty =>
      exact Nat.zero_add _

/-- A whole part uses up at least one digit. -/
theorem length_wholePart? {s r : List Symbol} {ds : List Char} (h : wholePart? s = some (ds, r)) :
    r.length < s.length := by
  unfold wholePart? at h
  split at h
  · cases h; simp
  · split at h
    · cases h
    · rename_i hne
      have hl := length_digits s
      simp only [Option.some.injEq] at h
      rw [h] at hl hne
      cases ds with
      | nil => exact absurd rfl (hne _)
      | cons d ds => simp at hl; omega

theorem length_fraction? {s r : List Symbol} {ds : List Char} (h : fraction? s = some (ds, r)) :
    r.length ≤ s.length := by
  unfold fraction? at h
  split at h
  · rename_i rest
    have hl := length_digits rest
    rcases hd : digits rest with ⟨_ | ⟨d, ds'⟩, r'⟩
    · simp [hd] at h
    · simp only [hd, Option.some.injEq, Prod.mk.injEq] at h hl
      simp only [List.length_cons, ← h.2] at hl ⊢
      omega
  · cases h; exact Nat.le_refl _

theorem length_exponentSign (s : List Symbol) : (exponentSign s).2.length ≤ s.length := by
  unfold exponentSign
  split <;> simp

theorem length_exponentDigits? {e : Char} {s r : List Symbol} {ds : List Char}
    (h : exponentDigits? e s = some (ds, r)) : r.length ≤ s.length := by
  unfold exponentDigits? at h
  have hs := length_exponentSign s
  have hl := length_digits (exponentSign s).2
  rcases hd : digits (exponentSign s).2 with ⟨_ | ⟨d, ds'⟩, r'⟩
  · simp [hd] at h
  · simp only [hd, Option.some.injEq, Prod.mk.injEq] at h hl
    simp only [← h.2] at hl ⊢
    omega

theorem length_exponent? {s r : List Symbol} {ds : List Char} (h : exponent? s = some (ds, r)) :
    r.length ≤ s.length := by
  unfold exponent? at h
  split at h
  · have := length_exponentDigits? h; simp only [List.length_cons]; omega
  · have := length_exponentDigits? h; simp only [List.length_cons]; omega
  · cases h; exact Nat.le_refl _

theorem length_unsigned? {s r : List Symbol} {ds : List Char} (h : unsigned? s = some (ds, r)) :
    r.length < s.length := by
  simp only [unsigned?, Option.bind_eq_bind, Option.bind_eq_some_iff, Option.pure_def,
    Option.some.injEq, Prod.mk.injEq] at h
  obtain ⟨⟨w, s₁⟩, h₁, ⟨f, s₂⟩, h₂, ⟨e, s₃⟩, h₃, -, rfl⟩ := h
  exact Nat.lt_of_le_of_lt (length_exponent? h₃)
    (Nat.lt_of_le_of_lt (length_fraction? h₂) (length_wholePart? h₁))

/-- A number uses up some of the text, so that the scanner comes to its end. -/
theorem length_number? {s r : List Symbol} {ds : List Char} (h : number? s = some (ds, r)) :
    r.length < s.length := by
  unfold number? at h
  split at h
  · simp only [Option.map_eq_some_iff, Prod.mk.injEq] at h
    obtain ⟨⟨ds', r'⟩, h', -, rfl⟩ := h
    have := length_unsigned? h'
    simp only [List.length_cons]
    omega
  · exact length_unsigned? h

/-- A string uses up its closing quote at least. -/
theorem length_pieces? {acc ps : List Piece} {s r : List Symbol}
    (h : pieces? acc s = some (ps, r)) : r.length < s.length := by
  fun_induction pieces? acc s <;> simp_all <;> omega

/-- A word takes up at least one symbol. -/
theorem length_next? {s r : List Symbol} {t : Token} (h : next? s = some (t, r)) :
    r.length < s.length := by
  unfold next? at h
  split at h
  all_goals first
    | (cases h; simp only [List.length_cons]; omega)
    | skip
  · simp only [string?, Option.map_map, Option.map_eq_some_iff, Function.comp,
      Prod.mk.injEq] at h
    obtain ⟨⟨ps, r'⟩, h', -, rfl⟩ := h
    have := length_pieces? h'
    simp only [List.length_cons]
    omega
  · simp only [Option.map_eq_some_iff, Prod.mk.injEq] at h
    obtain ⟨⟨ds, r'⟩, h', -, rfl⟩ := h
    exact length_number? h'

def scan? (s : List Symbol) : Option (List Token) :=
  match s with
  | [] => some []
  | .char c :: rest =>
    if isSpace c then scan? rest
    else
      match h : next? (.char c :: rest) with
      | none => none
      | some (t, rest') =>
        have : rest'.length < rest.length + 1 := length_next? h
        (scan? rest').map (t :: ·)
  | .damage _ :: _ => none
termination_by s.length

end Token
end Json
end ArbBundle
