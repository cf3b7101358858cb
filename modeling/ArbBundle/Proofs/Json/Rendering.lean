import ArbBundle.Json.Parser
import ArbBundle.Json.Printer

/-!
# Rendering — what is written is read back

A value is read in two stages, and both are undone here: its text falls apart into the words that it
was put together from, and the words are put together again to the value.

- `Json.Written`: the values that a program writes: numbers are natural, and strings are texts
- `Json.tokens`: the words of a value
- `Written.scans`, `Written.reads`: the two stages
- `Json.ofText?_render`: the text of such a value is read as the value
-/

namespace ArbBundle
namespace Json

open Text (Symbol)

/-- Values that are written out of data: numbers are natural, and strings are texts. -/
inductive Written : Json → Prop
  | null : Written .null
  | bool (b : Bool) : Written (.bool b)
  | nat (n : Nat) : Written (ofNat n)
  | text (s : String) : Written (text s)
  | arr {es : List Json} : (∀ e ∈ es, Written e) → Written (.arr es)
  | object {ms : List (String × Json)} : (∀ m ∈ ms, Written m.2) → Written (object ms)

/-! ## Words -/

mutual

def tokens : Json → List Token
  | .null => [.null]
  | .bool b => [.bool b]
  | .num n => [.num n]
  | .str t => [.str t]
  | .arr [] => [.openArray, .closeArray]
  | .arr (e :: es) => .openArray :: (tokens e ++ tokensElements es)
  | .obj [] => [.openObject, .closeObject]
  | .obj ((k, v) :: ms) => .openObject :: .str k :: .colon :: (tokens v ++ tokensMembers ms)

/-- The words of the elements behind the first one, and the closing bracket. -/
def tokensElements : List Json → List Token
  | [] => [.closeArray]
  | e :: es => .comma :: (tokens e ++ tokensElements es)

/-- The words of the members behind the first one, and the closing brace. -/
def tokensMembers : List (Option String × Json) → List Token
  | [] => [.closeObject]
  | (k, v) :: ms => .comma :: .str k :: .colon :: (tokens v ++ tokensMembers ms)

end

abbrev plain (s : List Char) : List Symbol :=
  s.map .char

namespace Token

/-- What may follow upon a value: the end of the text, a comma, or a closing bracket. -/
def Closes : List Symbol → Prop
  | [] => True
  | .char c :: _ => c = ',' ∨ c = ']' ∨ c = '\x7d'
  | .damage _ :: _ => False

/-- A word that does not begin with white space is scanned before the words behind it. -/
theorem scan?_of_next? {c : Char} {s rest : List Symbol} {t : Token} (hc : isSpace c = false)
    (h : next? (.char c :: s) = some (t, rest)) :
    scan? (.char c :: s) = (scan? rest).map (t :: ·) := by
  rw [scan?, if_neg (by simp [hc])]
  split
  · rename_i hnone
    rw [h] at hnone
    cases hnone
  · rename_i t' rest' hsome
    rw [h] at hsome
    cases hsome
    rfl

/-! ## Numbers -/

/-- Digits go up to whatever may close a value. -/
theorem digits_plain {ds : List Char} {rest : List Symbol} (hds : ∀ d ∈ ds, d.isDigit = true)
    (hrest : Closes rest) : digits (plain ds ++ rest) = (ds, rest) := by
  induction ds with
  | nil =>
      rcases rest with _ | ⟨c | run, rest⟩
      · rfl
      · -- None of the marks that may follow is a digit.
        have hc : c.isDigit = false := by
          rcases hrest with rfl | rfl | rfl <;> rfl
        simp [digits, hc]
      · rfl
  | cons d ds ih =>
      obtain ⟨hd, hds⟩ := List.forall_mem_cons.1 hds
      simp [digits, hd, ih hds]

/-- A number other than zero does not begin with a zero. -/
theorem head_toDigits_ne_zero {base n : Nat} (hbase : 1 < base) (hn : n ≠ 0) {d : Char}
    {ds : List Char} (h : Nat.toDigits base n = d :: ds) : d ≠ '0' := by
  induction n using Nat.strongRecOn generalizing ds with
  | ind n ih =>
      rw [Nat.toDigits_eq_if hbase] at h
      split at h
      · cases h
        simpa [Nat.digitChar_eq_zero] using hn
      · rename_i hlarge
        cases hquot : Nat.toDigits base (n / base) with
        | nil =>
            exact absurd hquot Nat.toDigits_ne_nil
        | cons d' ds' =>
            rw [hquot] at h
            cases h
            have hsmaller : n / base < n := Nat.div_lt_self (Nat.pos_of_ne_zero hn) hbase
            have hquotient : n / base ≠ 0 :=
              Nat.ne_of_gt (Nat.div_pos (Nat.not_lt.1 hlarge) (Nat.lt_of_succ_lt hbase))
            exact ih (n / base) hsmaller hquotient hquot

theorem wholePart?_plain {n : Nat} {rest : List Symbol} (hrest : Closes rest) :
    wholePart? (plain (Nat.toDigits 10 n) ++ rest) = some (Nat.toDigits 10 n, rest) := by
  by_cases hn : n = 0
  · subst hn
    rfl
  · have hall : ∀ d ∈ Nat.toDigits 10 n, d.isDigit = true :=
      fun d hd => Nat.isDigit_of_mem_toDigits (by decide) (by decide) hd
    have hdigits := digits_plain hall hrest
    cases hd : Nat.toDigits 10 n with
    | nil =>
        exact absurd hd Nat.toDigits_ne_nil
    | cons d ds =>
        have hzero := head_toDigits_ne_zero (by decide) hn hd
        rw [hd] at hdigits
        unfold wholePart?
        split
        · rename_i heq
          cases heq
          exact absurd rfl hzero
        · rw [hdigits]

/-- A natural number is read up to the mark behind it. -/
theorem number?_plain {n : Nat} {rest : List Symbol} (hrest : Closes rest) :
    number? (plain (Nat.toDigits 10 n) ++ rest) = some (Nat.toDigits 10 n, rest) := by
  have hunsigned : unsigned? (plain (Nat.toDigits 10 n) ++ rest) =
      some (Nat.toDigits 10 n, rest) := by
    have hfraction : fraction? rest = some ([], rest) := by
      rcases rest with _ | ⟨c | run, rest⟩
      · rfl
      · rcases hrest with rfl | rfl | rfl <;> rfl
      · rfl
    have hexponent : exponent? rest = some ([], rest) := by
      rcases rest with _ | ⟨c | run, rest⟩
      · rfl
      · rcases hrest with rfl | rfl | rfl <;> rfl
      · rfl
    simp [unsigned?, wholePart?_plain hrest, hfraction, hexponent]
  unfold number?
  split
  · rename_i heq
    cases hd : Nat.toDigits 10 n with
    | nil =>
        exact absurd hd Nat.toDigits_ne_nil
    | cons d ds =>
        rw [hd] at heq
        cases heq
        have hdigit : '-'.isDigit = true :=
          Nat.isDigit_of_mem_toDigits (b := 10) (n := n) (by decide) (by decide) (by simp [hd])
        exact absurd hdigit (by decide)
  · exact hunsigned

/-- A word that begins with a digit is a number. -/
theorem next?_digit {d : Char} {s : List Symbol} (hd : d.isDigit = true) :
    next? (.char d :: s) = (number? (.char d :: s)).map fun (n, rest) => (.num n, rest) := by
  unfold next?
  split <;> simp_all

/-- A whole number is one word. -/
theorem scan?_nat {n : Nat} {rest : List Symbol} (hrest : Closes rest) :
    scan? (plain (Nat.toDigits 10 n) ++ rest) =
      (scan? rest).map (.num (Nat.toDigits 10 n) :: ·) := by
  have hnumber := number?_plain (n := n) hrest
  cases hd : Nat.toDigits 10 n with
  | nil =>
      exact absurd hd Nat.toDigits_ne_nil
  | cons d ds =>
      have hdigit : d.isDigit = true :=
        Nat.isDigit_of_mem_toDigits (b := 10) (n := n) (by decide) (by decide) (by simp [hd])
      have hspace : isSpace d = false := by
        refine Bool.eq_false_iff.2 fun h => ?_
        simp only [isSpace, Bool.or_eq_true, beq_iff_eq] at h
        rcases h with ((rfl | rfl) | rfl) | rfl <;> cases hdigit
      rw [hd, plain, List.map_cons, List.cons_append] at hnumber
      have hnext := next?_digit (s := ds.map .char ++ rest) hdigit
      rw [hnumber] at hnext
      exact scan?_of_next? hspace hnext

/-! ## Strings -/

theorem unit?_control {n : Nat} (h : n < 0x20) :
    unit? '0' '0' (Hex.digit (n / 16)) (Hex.digit (n % 16)) = some n := by
  have hzero : Hex.value? '0' = some 0 := rfl
  have hhigh : n / 16 < 16 := by omega
  have hlow : n % 16 < 16 := by omega
  simp only [unit?, hzero, Hex.value?_digit hhigh, Hex.value?_digit hlow, Option.bind_eq_bind,
    Option.bind_some, Option.pure_def]
  congr 1
  omega

/-- A character that needs no escape stands for itself. -/
theorem pieces?_char {c : Char} (hquote : c ≠ '"') (hslash : c ≠ '\\')
    (hcontrol : ¬ c.toNat < 0x20) (acc : List Piece) (rest : List Symbol) :
    pieces? acc (.char c :: rest) = pieces? (.char c :: acc) rest := by
  have hplain := pieces?.eq_7 acc c rest hquote (fun _ _ _ _ _ _ => hslash) (fun _ _ _ => hslash)
    hslash
  rw [hplain, if_neg hcontrol]

/-- An escaped character is one piece of a string. -/
theorem pieces?_escape (acc : List Piece) (c : Char) (rest : List Symbol) :
    pieces? acc (plain (escape c) ++ rest) = pieces? (.char c :: acc) rest := by
  unfold escape
  split
  -- The escapes of one letter.
  iterate 7 rfl
  rename_i hquote hslash _ _ _ _ _
  split
  · -- A control character is written by its number.
    rename_i hcontrol
    have hunit : Piece.ofUnit c.toNat = .char c := by
      rw [Piece.ofUnit, if_neg (by omega), Char.ofNat_toNat]
    have h := unit?_control hcontrol
    simp only [plain, List.map_cons, List.map_nil, List.cons_append, List.nil_append, pieces?, h,
      hunit]
  · rename_i hcontrol
    exact pieces?_char hquote hslash hcontrol acc rest

/-- An escaped text is read back piece by piece, up to its closing quote. -/
theorem pieces?_escapes (acc : List Piece) (s : List Char) (rest : List Symbol) :
    pieces? acc (plain (s.flatMap escape ++ ['"']) ++ rest) =
      some (acc.reverse ++ s.map .char, rest) := by
  induction s generalizing acc with
  | nil =>
      simp [pieces?]
  | cons c s ih =>
      rw [List.flatMap_cons, List.append_assoc, plain, List.map_append, List.append_assoc,
        pieces?_escape, ih]
      simp

theorem textOfPieces?_chars (s : List Char) : textOfPieces? (s.map .char) = some s := by
  induction s with
  | nil =>
      rfl
  | cons c s ih =>
      simp [textOfPieces?, ih]

/-- A quoted text is one word, whatever its characters are. -/
theorem scan?_quote (s : List Char) (rest : List Symbol) :
    scan? (plain (quote s) ++ rest) = (scan? rest).map (.str (some (String.ofList s)) :: ·) := by
  have hpieces := pieces?_escapes [] s rest
  refine scan?_of_next? (c := '"') rfl ?_
  change (string? (plain (s.flatMap escape ++ ['"']) ++ rest)).map _ = _
  rw [string?, hpieces]
  simp [textOfPieces?_chars]

end Token

/-! ## The text of a value -/

/-- The text of a value is scanned as its words. -/
def Scans (j : Json) : Prop :=
  ∀ rest, Token.Closes rest →
    Token.scan? (plain j.chars ++ rest) = (Token.scan? rest).map (j.tokens ++ ·)

/-- A mark is a word of its own. -/
theorem scan?_mark (c : Char) (t : Token) (rest : List Symbol) (hc : Token.isSpace c = false)
    (h : ∀ s, Token.next? (.char c :: s) = some (t, s)) :
    Token.scan? (.char c :: rest) = (Token.scan? rest).map (t :: ·) :=
  Token.scan?_of_next? hc (h rest)

/-- The elements of an array are scanned as their words, if each of them is. -/
theorem scan?_charsElements {es : List Json} (hes : ∀ e ∈ es, Scans e) (rest : List Symbol) :
    Token.scan? (plain (charsElements es) ++ rest) =
      (Token.scan? rest).map (tokensElements es ++ ·) := by
  induction es with
  | nil =>
      exact scan?_mark _ _ rest rfl fun _ => rfl
  | cons e es ih =>
      obtain ⟨he, hes⟩ := List.forall_mem_cons.1 hes
      have hcloses : Token.Closes (plain (charsElements es) ++ rest) := by
        cases es <;> simp [charsElements, Token.Closes]
      have hcomma := scan?_mark ',' .comma
        (plain e.chars ++ (plain (charsElements es) ++ rest)) rfl fun _ => rfl
      rw [he _ hcloses, ih hes] at hcomma
      simpa [charsElements, tokensElements, Function.comp_def] using hcomma

/-- A member is its key, a colon and its value. -/
theorem scan?_member {k : String} {v : Json} (hv : Scans v) {rest : List Symbol}
    (hrest : Token.Closes rest) :
    Token.scan? (plain (quote k.toList) ++ (.char ':' :: (plain v.chars ++ rest))) =
      (Token.scan? rest).map (.str (some k) :: .colon :: v.tokens ++ ·) := by
  have hcolon := scan?_mark ':' .colon (plain v.chars ++ rest) rfl fun _ => rfl
  have hkey := Token.scan?_quote k.toList (.char ':' :: (plain v.chars ++ rest))
  rw [hv rest hrest] at hcolon
  rw [hcolon, String.ofList_toList] at hkey
  simpa [Function.comp_def] using hkey

/-- The members of an object by their texts. -/
abbrev keyed (ms : List (String × Json)) : List (Option String × Json) :=
  ms.map fun (k, v) => (some k, v)

theorem closes_charsMembers (ms : List (Option String × Json)) (rest : List Symbol) :
    Token.Closes (plain (charsMembers ms) ++ rest) := by
  cases ms <;> simp [charsMembers, Token.Closes]

/-- The members of an object are scanned as their words, if each value is. -/
theorem scan?_charsMembers {ms : List (String × Json)} (hms : ∀ m ∈ ms, Scans m.2)
    (rest : List Symbol) :
    Token.scan? (plain (charsMembers (keyed ms)) ++ rest) =
      (Token.scan? rest).map (tokensMembers (keyed ms) ++ ·) := by
  induction ms with
  | nil =>
      exact scan?_mark _ _ rest rfl fun _ => rfl
  | cons m ms ih =>
      obtain ⟨hm, htail⟩ := List.forall_mem_cons.1 hms
      have hmember := scan?_member (k := m.1) hm (closes_charsMembers (keyed ms) rest)
      have hcomma := scan?_mark ',' .comma
        (plain (quote m.1.toList) ++
          (.char ':' :: (plain m.2.chars ++ (plain (charsMembers (keyed ms)) ++ rest)))) rfl
        fun _ => rfl
      rw [hmember, ih htail] at hcomma
      simpa [charsMembers, tokensMembers, quote?, Function.comp_def] using hcomma

/-- The text of a written value falls apart into the words of the value. -/
theorem Written.scans {j : Json} (h : Written j) : Scans j := by
  -- The claim is about any text behind the value, since the value of a member or an element stands
  -- in front of the rest of its object or array.
  induction h with
  | null =>
      exact fun rest _ => Token.scan?_of_next? rfl rfl
  | bool b =>
      cases b
      · exact fun rest _ => Token.scan?_of_next? rfl rfl
      · exact fun rest _ => Token.scan?_of_next? rfl rfl
  | nat n =>
      exact fun rest hrest => Token.scan?_nat hrest
  | text s =>
      intro rest _
      have h := Token.scan?_quote s.toList rest
      rwa [String.ofList_toList] at h
  | @arr es _ ih =>
      intro rest _
      cases es with
      | nil =>
          have hclose := scan?_mark ']' .closeArray rest rfl fun _ => rfl
          have hopen := scan?_mark '[' .openArray (.char ']' :: rest) rfl fun _ => rfl
          rw [hclose] at hopen
          simpa [chars, tokens, Function.comp_def] using hopen
      | cons e es =>
          obtain ⟨he, hes⟩ := List.forall_mem_cons.1 ih
          have hcloses : Token.Closes (plain (charsElements es) ++ rest) := by
            cases es <;> simp [charsElements, Token.Closes]
          have hopen := scan?_mark '[' .openArray
            (plain e.chars ++ (plain (charsElements es) ++ rest)) rfl fun _ => rfl
          rw [he _ hcloses, scan?_charsElements hes] at hopen
          simpa [chars, tokens, Function.comp_def] using hopen
  | @object ms _ ih =>
      intro rest _
      change Token.scan? (plain (chars (.obj (keyed ms))) ++ rest) =
        (Token.scan? rest).map (tokens (.obj (keyed ms)) ++ ·)
      cases ms with
      | nil =>
          have hclose := scan?_mark '\x7d' .closeObject rest rfl fun _ => rfl
          have hopen := scan?_mark '\x7b' .openObject (.char '\x7d' :: rest) rfl fun _ => rfl
          rw [hclose] at hopen
          simpa [chars, tokens, Function.comp_def] using hopen
      | cons m ms =>
          obtain ⟨hm, htail⟩ := List.forall_mem_cons.1 ih
          have hmember := scan?_member (k := m.1) hm (closes_charsMembers (keyed ms) rest)
          have hopen := scan?_mark '\x7b' .openObject
            (plain (quote m.1.toList) ++
              (.char ':' :: (plain m.2.chars ++ (plain (charsMembers (keyed ms)) ++ rest)))) rfl
            fun _ => rfl
          rw [hmember, scan?_charsMembers htail] at hopen
          simpa [chars, tokens, quote?, Function.comp_def] using hopen

/-! ## The value of the words -/

/-- The words of a value are read as the value, whatever is open around it. -/
def Reads (j : Json) : Prop :=
  ∀ ts st, expectValue (j.tokens ++ ts) st = afterValue j ts st

/-- No value begins with a closing bracket. -/
theorem expectValue_openArray {j : Json} (ts : List Token) (st : List Frame) :
    expectValue (.openArray :: (j.tokens ++ ts)) st =
      expectValue (j.tokens ++ ts) (.array [] :: st) := by
  cases j with
  | arr es =>
      cases es <;> simp [tokens, expectValue]
  | obj ms =>
      cases ms <;> simp [tokens, expectValue]
  | _ =>
      simp [tokens, expectValue]

/-- The elements behind a value complete the array that the value is in. -/
theorem afterValue_tokensElements {es : List Json} (hes : ∀ e ∈ es, Reads e) (v : Json)
    (done : List Json) (ts : List Token) (st : List Frame) :
    afterValue v (tokensElements es ++ ts) (.array done :: st) =
      afterValue (.arr (done.reverse ++ v :: es)) ts st := by
  induction es generalizing v done with
  | nil =>
      simp [tokensElements, afterValue]
  | cons e es ih =>
      obtain ⟨he, htail⟩ := List.forall_mem_cons.1 hes
      have hnext := ih htail e (v :: done)
      simpa [tokensElements, afterValue, he _ _] using hnext

/-- The members behind a value complete the object that the value is in. -/
theorem afterValue_tokensMembers {ms : List (Option String × Json)} (hms : ∀ m ∈ ms, Reads m.2)
    (k : Option String) (v : Json) (done : List (Option String × Json)) (ts : List Token)
    (st : List Frame) :
    afterValue v (tokensMembers ms ++ ts) (.object done k :: st) =
      afterValue (.obj (done.reverse ++ (k, v) :: ms)) ts st := by
  induction ms generalizing k v done with
  | nil =>
      simp [tokensMembers, afterValue]
  | cons m ms ih =>
      obtain ⟨hm, htail⟩ := List.forall_mem_cons.1 hms
      have hnext := ih htail m.1 m.2 ((k, v) :: done)
      simpa [tokensMembers, afterValue, hm _ _] using hnext

/-- The words of a written value are read as the value. -/
theorem Written.reads {j : Json} (h : Written j) : Reads j := by
  -- The claim is about any open frames, since a part is read with the frame of its whole on top.
  induction h with
  | null | bool b | nat n | text s =>
      intro ts st
      rfl
  | @arr es _ ih =>
      intro ts st
      cases es with
      | nil =>
          rfl
      | cons e es =>
          obtain ⟨he, hes⟩ := List.forall_mem_cons.1 ih
          have hopen := expectValue_openArray (j := e) (tokensElements es ++ ts) st
          rw [he, afterValue_tokensElements hes] at hopen
          simpa [tokens] using hopen
  | @object ms _ ih =>
      intro ts st
      cases ms with
      | nil =>
          rfl
      | cons m ms =>
          obtain ⟨hm, hms⟩ := List.forall_mem_cons.1 ih
          have hmembers : ∀ m' ∈ keyed ms, Reads m'.2 := by
            intro m' hkeyed
            obtain ⟨m'', hmem, rfl⟩ := List.mem_map.1 hkeyed
            exact hms m'' hmem
          change expectValue (tokens (.obj ((some m.1, m.2) :: keyed ms)) ++ ts) st = _
          rw [tokens, List.cons_append, List.cons_append, List.cons_append, List.append_assoc,
            expectValue, hm, afterValue_tokensMembers hmembers]
          rfl

/-- What is written as text is read back from the text. -/
theorem ofText?_render {j : Json} (h : Written j) : ofText? j.render = some j := by
  have hscan : Token.scan? (plain j.chars) = some j.tokens := by
    have hempty := h.scans [] trivial
    have hend : Token.scan? [] = some [] := by
      rw [Token.scan?]
    rwa [hend, Option.map_some, List.append_nil, List.append_nil] at hempty
  have hread : expectValue j.tokens [] = some j := by
    have hall := h.reads [] []
    rwa [List.append_nil, afterValue] at hall
  rw [ofText?, parse?, render, String.toList_ofList, hscan, Option.bind_some, hread]

end Json
end ArbBundle
