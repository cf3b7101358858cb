import ArbBundle.Decimal.Spelled
import ArbBundle.Proofs.Bytes.Numeral
import ArbBundle.Proofs.Text.Reader
import Mathlib.Data.List.TakeWhile

/-!
# Spelled — which texts are read as which whole and real numbers

- `Decimal.Whole`: all texts of a whole number; `signed64?_eq_some_iff`: those that 64 bits hold are
  read
- `Decimal.Fraction`, `Decimal.Exponent`: what may stand behind the first digits of a real number
- `Decimal.Real`: all texts of a real number; `real?_eq_some_iff`: they are read, and nothing else
- `Decimal.InNumber`, `Decimal.Real.inNumber`: the characters that occur in them
-/

namespace ArbBundle
namespace Decimal

open Text Text.Reader
open Numeral (Writes IsDigit forall_ascii ascii_of_toLower_mem)

variable {s r ds : List Char} {c : Char} {n d : Nat}

/-! ## Digits -/

theorem isDigit_iff_toNat : c.isDigit = true ↔ 48 ≤ c.toNat ∧ c.toNat ≤ 57 := by
  simp [Char.isDigit, UInt32.le_iff_toNat_le]

/-- The digits of radix ten, each with its value. -/
theorem toLower_eq_digitChar_iff (hd : d < 10) :
    c.toLower = Nat.digitChar d ↔ c.isDigit = true ∧ d = c.toNat - 48 := by
  have hall : ∀ n < 128, ∀ d < 10, (Char.ofNat n).toLower = Nat.digitChar d ↔
      (Char.ofNat n).isDigit = true ∧ d = (Char.ofNat n).toNat - 48 := by
    decide +kernel
  by_cases hc : c.toNat < 128
  · exact forall_ascii (P := fun c => ∀ d < 10, c.toLower = Nat.digitChar d ↔
      c.isDigit = true ∧ d = c.toNat - 48) hall hc d hd
  · constructor
    · intro h
      have hdigit : IsDigit 10 c := ⟨d, hd, h⟩
      exact absurd (hdigit.ascii (by decide)) hc
    · rintro ⟨hdigit, -⟩
      have hrange := isDigit_iff_toNat.1 hdigit
      omega

theorem writes_iff : Writes 10 s n ↔
    (∀ c ∈ s, c.isDigit = true) ∧ s.foldl (fun n c => n * 10 + (c.toNat - 48)) 0 = n := by
  induction s using List.reverseRecOn generalizing n with
  | nil =>
      rw [Numeral.writes_nil_iff]
      simp [eq_comm (a := n)]
  | append_singleton s c ih =>
      rw [Numeral.writes_append_singleton_iff, List.foldl_append, List.forall_mem_append,
        List.forall_mem_singleton]
      constructor
      · rintro ⟨m, d, hfront, hd, hlast, rfl⟩
        obtain ⟨hdigits, rfl⟩ := ih.1 hfront
        obtain ⟨hdigit, rfl⟩ := (toLower_eq_digitChar_iff hd).1 hlast
        exact ⟨⟨hdigits, hdigit⟩, rfl⟩
      · rintro ⟨⟨hdigits, hdigit⟩, rfl⟩
        have hrange := isDigit_iff_toNat.1 hdigit
        have hd : c.toNat - 48 < 10 := by omega
        exact ⟨_, _, ih.2 ⟨hdigits, rfl⟩, hd, (toLower_eq_digitChar_iff hd).2 ⟨hdigit, rfl⟩, rfl⟩

/-- A text is read as a number in decimal just where it is not empty and writes the number. -/
theorem digits?_eq_some_iff : digits? s = some n ↔ s ≠ [] ∧ Writes 10 s n := by
  rw [writes_iff, ← and_assoc, digits?, Option.ite_none_right_eq_some, Option.some_inj,
    List.all_eq_true]

theorem numberOf_of_writes (h : Writes 10 s n) : numberOf s = n := by
  cases s with
  | nil =>
      rw [Numeral.writes_nil_iff.1 h]
      rfl
  | cons c s =>
      rw [numberOf, digits?_eq_some_iff.2 ⟨List.cons_ne_nil c s, h⟩]
      rfl

theorem writes_numberOf (h : ∀ c ∈ s, c.isDigit = true) : Writes 10 s (numberOf s) := by
  have hwrites : Writes 10 s _ := writes_iff.2 ⟨h, rfl⟩
  rwa [numberOf_of_writes hwrites]

theorem digits_of_writes (h : Writes 10 s n) : ∀ c ∈ s, c.isDigit = true :=
  (writes_iff.1 h).1

/-! ## Whole numbers -/

/-- What may stand in front of a number, and whether it makes the number negative. -/
inductive Sign : List Char → Bool → Prop where
  | none : Sign [] false
  | plus : Sign ['+'] false
  | minus : Sign ['-'] true

def signed (negative : Bool) (n : Nat) : Int :=
  if negative then -(n : Int) else n

/-- The texts of a whole number: digits, and perhaps a sign. -/
inductive Whole : List Char → Int → Prop where
  | mk {sign ds : List Char} {negative : Bool} {n : Nat} : Sign sign negative → ds ≠ [] →
      Writes 10 ds n → Whole (sign ++ ds) (signed negative n)

/-- The whole numbers that 64 bits hold. -/
def Fits64 (i : Int) : Prop :=
  -2 ^ 63 ≤ i ∧ i < 2 ^ 63

instance (i : Int) : Decidable (Fits64 i) :=
  inferInstanceAs (Decidable (_ ∧ _))

/-- A number passes for one of 64 bits just where it is one, and is not changed. -/
theorem int64?_eq_some_iff {i j : Int} : Word.int64? i = some j ↔ i = j ∧ Fits64 j := by
  have hbound : ((Nat.pow 2 63 : Nat) : Int) = 2 ^ 63 := rfl
  simp only [Word.int64?, hbound, Option.ite_none_right_eq_some, Option.some_inj, Fits64]
  constructor
  · rintro ⟨hfits, rfl⟩
    exact ⟨rfl, hfits⟩
  · rintro ⟨rfl, hfits⟩
    exact ⟨hfits, rfl⟩

/-- A digit is no sign. -/
theorem not_sign_of_isDigit (h : c.isDigit = true) : c ≠ '-' ∧ c ≠ '+' := by
  constructor <;> (rintro rfl; revert h; decide)

theorem unsigned?_of_digit (h : c.isDigit = true) : unsigned? (c :: s) = digits? (c :: s) := by
  have hsign := not_sign_of_isDigit h
  unfold unsigned?
  split
  · rename_i heq
    exact absurd (List.cons.inj heq).1 hsign.2
  · rfl

/-- A text is read as a whole number just where it is a text of this number and 64 bits hold it. -/
theorem signed64?_eq_some_iff {i : Int} : signed64? s = some i ↔ Whole s i ∧ Fits64 i := by
  simp only [signed64?, Option.bind_eq_some_iff, int64?_eq_some_iff]
  constructor
  · rintro ⟨j, hread, rfl, hfits⟩
    refine ⟨?_, hfits⟩
    split at hread
    · obtain ⟨_, hnumber, rfl⟩ := Option.map_eq_some_iff.1 hread
      obtain ⟨n, hdigits, hn⟩ := Option.bind_eq_some_iff.1 hnumber
      cases hn
      obtain ⟨hne, hwrites⟩ := digits?_eq_some_iff.1 hdigits
      exact .mk .minus hne hwrites
    · obtain ⟨_, hnumber, rfl⟩ := Option.map_eq_some_iff.1 hread
      obtain ⟨n, hunsigned, hn⟩ := Option.bind_eq_some_iff.1 hnumber
      cases hn
      unfold unsigned? at hunsigned
      split at hunsigned
      · obtain ⟨hne, hwrites⟩ := digits?_eq_some_iff.1 hunsigned
        exact .mk .plus hne hwrites
      · obtain ⟨hne, hwrites⟩ := digits?_eq_some_iff.1 hunsigned
        exact .mk .none hne hwrites
  · rintro ⟨hwhole, hfits⟩
    refine ⟨i, ?_, rfl, hfits⟩
    cases hwhole with
    | mk hsign hne hwrites =>
        have hdigits := digits?_eq_some_iff.2 ⟨hne, hwrites⟩
        cases hsign with
        | plus | minus =>
            simp [unsigned?, hdigits, signed]
        | none =>
            -- Without a sign the text begins with a digit.
            obtain ⟨c, ds, rfl⟩ := List.exists_cons_of_ne_nil hne
            have hc := digits_of_writes hwrites c List.mem_cons_self
            have hsign := not_sign_of_isDigit hc
            rw [List.nil_append]
            split
            · rename_i heq
              exact absurd (List.cons.inj heq).1 hsign.1
            · rw [unsigned?_of_digit hc, hdigits]
              rfl

/-- The standard digits write their number. -/
theorem writes_toDigits (n : Nat) : Writes 10 (Nat.toDigits 10 n) n :=
  Numeral.writes_toDigits (by decide) (by decide) n

/-- The standard text of a whole number is one of its texts. -/
theorem whole_toString (i : Int) : Whole (toString i).toList i := by
  cases i with
  | ofNat n =>
      have htext : (toString (Int.ofNat n)).toList = [] ++ Nat.toDigits 10 n :=
        String.toList_ofList
      rw [htext]
      exact .mk .none Nat.toDigits_ne_nil (writes_toDigits n)
  | negSucc n =>
      have htext : (toString (Int.negSucc n)).toList = ['-'] ++ Nat.toDigits 10 (n + 1) := by
        show ("-" ++ String.ofList (Nat.toDigits 10 (n + 1))).toList = _
        rw [String.toList_append]
        exact congrArg (['-'] ++ ·) String.toList_ofList
      rw [htext]
      exact .mk .minus Nat.toDigits_ne_nil (writes_toDigits (n + 1))

/-! ## Real numbers -/

/-- A point with digits behind it, and the digits; both may be missing. -/
inductive Fraction : List Char → List Char → Prop where
  | none : Fraction [] []
  | point {places : List Char} : (∀ c ∈ places, c.isDigit = true) → Fraction ('.' :: places) places

/-- The power of ten that a number is multiplied with; without one it is the zeroth. -/
inductive Exponent : List Char → Int → Prop where
  | none : Exponent [] 0
  | mark {mark : Char} {sign ds : List Char} {negative : Bool} {n : Nat} : mark ∈ ['e', 'E'] →
      Sign sign negative → ds ≠ [] → Writes 10 ds n →
      Exponent (mark :: (sign ++ ds)) (signed negative n)

/-- The texts of a real number: digits, perhaps with a point before, among or behind them, perhaps
with a sign and an exponent; or a word for infinity or for no number. -/
inductive Real : List Char → Binary64 → Prop where
  | finite {sign whole point places power : List Char} {negative : Bool} {n : Nat} {e : Int} :
      Sign sign negative → (∀ c ∈ whole, c.isDigit = true) → Fraction point places →
      Exponent power e → whole ++ places ≠ [] → Writes 10 (whole ++ places) n →
      Real (sign ++ (whole ++ (point ++ power)))
        (.ofDecimal negative n (e - places.length))
  | infinite {sign word : List Char} {negative : Bool} : Sign sign negative →
      word.map Char.toLower ∈ ["inf".toList, "infinity".toList] →
      Real (sign ++ word) (.infinite negative)
  | nan {sign word : List Char} {negative : Bool} : Sign sign negative →
      word.map Char.toLower = "nan".toList → Real (sign ++ word) .nan

/-- A whole number is a real one too. -/
theorem Whole.exists_real {i : Int} (h : Whole s i) : ∃ x, Real s x := by
  cases h with
  | @mk sign ds negative n hsign hne hwrites =>
      have hplain : ds ++ [] = ds := List.append_nil ds
      have hreal := Real.finite hsign (digits_of_writes hwrites) .none .none (by rwa [hplain])
        (by rwa [hplain])
      rw [List.append_nil, hplain] at hreal
      exact ⟨_, hreal⟩

/-! ### The parts of a text -/

/-- A sign is taken off any text, though it may be none. -/
theorem exists_sign (s : List Char) :
    ∃ text negative rest, Sign text negative ∧ s = text ++ rest ∧
      sign s = some (negative, rest) := by
  cases s with
  | nil =>
      exact ⟨[], false, [], .none, rfl, rfl⟩
  | cons c s =>
      by_cases hminus : c = '-'
      · subst hminus
        exact ⟨['-'], true, s, .minus, rfl, rfl⟩
      by_cases hplus : c = '+'
      · subst hplus
        exact ⟨['+'], false, s, .plus, rfl, rfl⟩
      · exact ⟨[], false, c :: s, .none, rfl, by simp [sign, hminus, hplus]⟩

/-- A sign is taken off where what follows does not begin with one more. -/
theorem sign_append {text : List Char} {negative : Bool} (h : Sign text negative)
    (hs : ∀ c ∈ s.head?, c ≠ '-' ∧ c ≠ '+') : sign (text ++ s) = some (negative, s) := by
  cases h with
  | plus | minus =>
      rfl
  | none =>
      cases s with
      | nil =>
          rfl
      | cons c s =>
          obtain ⟨hminus, hplus⟩ := hs c rfl
          simp [sign, hminus, hplus]

/-- Every text begins with a fraction, perhaps an empty one, and it is what the reader finds. -/
theorem exists_fraction (s : List Char) :
    ∃ text places found rest, Fraction text places ∧ s = text ++ rest ∧ found.getD [] = places ∧
      possibly fraction s = some (found, rest) := by
  cases s with
  | nil =>
      exact ⟨[], [], none, [], .none, rfl, rfl, rfl⟩
  | cons c s =>
      by_cases hpoint : c = '.'
      · subst hpoint
        refine ⟨'.' :: s.takeWhile Char.isDigit, _, some (s.takeWhile Char.isDigit), _,
          .point fun c hc => List.mem_takeWhile_imp hc, ?_, rfl, rfl⟩
        rw [List.cons_append, List.takeWhile_append_dropWhile]
      · refine ⟨[], [], none, c :: s, .none, rfl, rfl, possibly_of_none ?_⟩
        simp [fraction, hpoint]

/-- Behind its mark an exponent is a sign and digits. -/
theorem exponent_cons {mark : Char} {negative : Bool} (hmark : mark ∈ ['e', 'E'])
    (hsign : sign s = some (negative, r)) :
    exponent (mark :: s) =
      (takeWhile1 Char.isDigit r).map fun p => (signed negative (numberOf p.1), p.2) := by
  have hchar : mark = 'e' ∨ mark = 'E' := by simpa using hmark
  simp only [exponent, bind_apply, satisfy_cons, hchar, if_true, Option.bind_some, hsign,
    Bool.or_eq_true, decide_eq_true_eq]
  cases takeWhile1 Char.isDigit r <;> rfl

/-- Every text begins with an exponent, perhaps an empty one, and it is what the reader finds. -/
theorem exists_exponent (s : List Char) :
    ∃ text e found rest, Exponent text e ∧ s = text ++ rest ∧ found.getD 0 = e ∧
      possibly exponent s = some (found, rest) := by
  have hnone (hread : exponent s = none) : ∃ text e found rest, Exponent text e ∧
      s = text ++ rest ∧ found.getD 0 = e ∧ possibly exponent s = some (found, rest) :=
    ⟨[], 0, none, s, .none, rfl, rfl, possibly_of_none hread⟩
  cases s with
  | nil =>
      exact hnone rfl
  | cons mark s =>
      by_cases hmark : mark ∈ ['e', 'E']
      · obtain ⟨text, negative, rest, hsign, rfl, htaken⟩ := exists_sign s
        have hread := exponent_cons hmark htaken
        rw [takeWhile1_apply] at hread
        split at hread
        · exact hnone hread
        · rename_i hds
          have hdigits : ∀ c ∈ rest.takeWhile Char.isDigit, c.isDigit = true :=
            fun c hc => List.mem_takeWhile_imp hc
          refine ⟨mark :: (text ++ rest.takeWhile Char.isDigit), _, some _, _,
            .mark hmark hsign hds (writes_numberOf hdigits), ?_, rfl, possibly_of_some hread⟩
          rw [List.cons_append, List.append_assoc, List.takeWhile_append_dropWhile]
      · exact hnone (by simp_all [exponent])

/-- What is read off a text as a number, if anything, is what the parts of the text make of it. -/
theorem exists_finite (s : List Char) :
    ∃ sign whole point places power rest, ∃ negative e, Sign sign negative ∧
      (∀ c ∈ whole, c.isDigit = true) ∧ Fraction point places ∧ Exponent power e ∧
      s = sign ++ (whole ++ (point ++ (power ++ rest))) ∧
      finite s = if whole ++ places = [] then none
        else some (.ofDecimal negative (numberOf (whole ++ places)) (e - places.length), rest) := by
  obtain ⟨sign, negative, s₁, hsign, rfl, hsigned⟩ := exists_sign s
  obtain ⟨point, places, found, s₂, hpoint, hs₁, hplaces, hfraction⟩ :=
    exists_fraction (s₁.dropWhile Char.isDigit)
  obtain ⟨power, e, found', rest, hpower, rfl, he, hexponent⟩ := exists_exponent s₂
  refine ⟨sign, s₁.takeWhile Char.isDigit, point, places, power, rest, negative, e, hsign,
    fun c hc => List.mem_takeWhile_imp hc, hpoint, hpower, ?_, ?_⟩
  · rw [← hs₁, List.takeWhile_append_dropWhile]
  · simp only [finite, bind_apply, hsigned, takeWhile_apply, Option.bind_some, hfraction, hexponent,
      hplaces, he, List.append_eq_nil_iff, List.isEmpty_iff]
    split <;> rfl

/-! ### The texts of a number -/

/-- An exponent begins with its mark. -/
theorem Exponent.head {power : List Char} {e : Int} (h : Exponent power e) :
    ∀ c ∈ power.head?, c.isDigit = false ∧ c ≠ '.' := by
  cases h with
  | none =>
      nofun
  | mark hmark _ _ _ =>
      have hall : ∀ c ∈ ['e', 'E'], c.isDigit = false ∧ c ≠ '.' := by
        simp
      intro c hc
      cases hc
      exact hall _ hmark

theorem exponent_text {power : List Char} {e : Int} (h : Exponent power e) :
    ∃ found, found.getD 0 = e ∧ possibly exponent power = some (found, []) := by
  cases h with
  | none =>
      exact ⟨none, rfl, rfl⟩
  | @mark mark sign ds negative n hmark hsign hne hwrites =>
      have hdigits := digits_of_writes hwrites
      have hfirst : ∀ c ∈ ds.head?, c ≠ '-' ∧ c ≠ '+' :=
        fun c hc => not_sign_of_isDigit (hdigits c (List.mem_of_mem_head? hc))
      have hds : takeWhile1 Char.isDigit ds = some (ds, []) := by
        simpa using takeWhile1_append (r := []) hne hdigits nofun
      refine ⟨some (signed negative n), rfl, possibly_of_some ?_⟩
      rw [exponent_cons hmark (sign_append hsign hfirst), hds, ← numberOf_of_writes hwrites]
      rfl

/-- A fraction is found as a whole in front of anything that does not carry it on. -/
theorem fraction_append {point places : List Char} (h : Fraction point places)
    (hs : ∀ c ∈ s.head?, c.isDigit = false ∧ c ≠ '.') :
    ∃ found, found.getD [] = places ∧ possibly fraction (point ++ s) = some (found, s) := by
  cases h with
  | none =>
      refine ⟨none, rfl, possibly_of_none ?_⟩
      cases s with
      | nil => rfl
      | cons c s => simp [fraction, (hs c rfl).2]
  | point hdigits =>
      refine ⟨some places, rfl, possibly_of_some ?_⟩
      have hplaces := takeWhile_append hdigits fun c hc => (hs c hc).1
      simpa [fraction] using hplaces

/-- The parts of a real number are read as they stand. -/
theorem finite_text {text whole point places power : List Char} {negative : Bool} {e : Int}
    (hsign : Sign text negative) (hwhole : ∀ c ∈ whole, c.isDigit = true)
    (hpoint : Fraction point places) (hpower : Exponent power e) (hne : whole ++ places ≠ []) :
    finite (text ++ (whole ++ (point ++ power))) =
      some (.ofDecimal negative (numberOf (whole ++ places)) (e - places.length), []) := by
  -- What follows the whole part begins with a point or with the mark of the exponent.
  have hbehind : ∀ c ∈ (point ++ power).head?, c.isDigit = false := by
    cases hpoint with
    | none => exact fun c hc => (hpower.head c hc).1
    | point _ =>
        intro c hc
        cases hc
        rfl
  have hfirst : ∀ c ∈ (whole ++ (point ++ power)).head?, c ≠ '-' ∧ c ≠ '+' := by
    cases whole with
    | cons d whole =>
        intro c hc
        cases hc
        exact not_sign_of_isDigit (hwhole d List.mem_cons_self)
    | nil =>
        cases hpoint with
        | none => exact absurd rfl hne
        | point _ =>
            intro c hc
            cases hc
            decide
  obtain ⟨found, hplaces, hfraction⟩ := fraction_append hpoint hpower.head
  obtain ⟨found', he, hexponent⟩ := exponent_text hpower
  have hempty : ¬ (whole = [] ∧ places = []) := by
    rwa [ne_eq, List.append_eq_nil_iff] at hne
  simp only [finite, bind_apply, sign_append hsign hfirst, takeWhile_append hwhole hbehind,
    Option.bind_some, hfraction, hexponent, hplaces, he, List.isEmpty_iff, if_neg hempty]
  rfl

/-- The letters that the words for infinity and for no number begin with. -/
theorem initial_of_toLower (h : c.toLower ∈ ['i', 'n']) : c ∈ ['i', 'I', 'n', 'N'] := by
  have hall : ∀ n < 128, (Char.ofNat n).toLower ∈ ['i', 'n'] →
      Char.ofNat n ∈ ['i', 'I', 'n', 'N'] := by
    decide +kernel
  exact forall_ascii (P := fun c => c.toLower ∈ ['i', 'n'] → c ∈ ['i', 'I', 'n', 'N']) hall
    (ascii_of_toLower_mem (by simp) h) h

/-- A word is read where its letters, of either case, are those of infinity or of no number. -/
theorem special_append {text word : List Char} {negative : Bool} {w : List Char}
    (hsign : Sign text negative) (hw : w ∈ ["inf".toList, "infinity".toList, "nan".toList])
    (hword : word.map Char.toLower = w) :
    finite (text ++ word) = none ∧
      special (text ++ word) =
        some (if w = "nan".toList then .nan else .infinite negative, []) := by
  have hinitial : ∀ w ∈ ["inf".toList, "infinity".toList, "nan".toList], ∃ l r, w = l :: r ∧
      l ∈ ['i', 'n'] := by
    simp
  obtain ⟨l, r, hl, hmem⟩ := hinitial w hw
  obtain ⟨c, rest, rfl, hc, -⟩ := List.map_eq_cons_iff.1 (hword.trans hl)
  have hother : ∀ c ∈ ['i', 'I', 'n', 'N'],
      (c ≠ '-' ∧ c ≠ '+') ∧ c.isDigit = false ∧ c ≠ '.' ∧ c ≠ 'e' ∧ c ≠ 'E' := by
    simp
  obtain ⟨hplain, hdigit, hpoint, hmark, hmark'⟩ := hother c (initial_of_toLower (hc ▸ hmem))
  have hsigned : sign (text ++ c :: rest) = some (negative, c :: rest) :=
    sign_append hsign fun d hd => by cases hd; exact hplain
  have hall : takeWhile (fun _ => true) (c :: rest) = some (c :: rest, []) := by
    simp [takeWhile_apply]
  constructor
  · have hwhole : takeWhile Char.isDigit (c :: rest) = some ([], c :: rest) := by
      simp [takeWhile_apply, hdigit]
    have hfraction : possibly fraction (c :: rest) = some (none, c :: rest) :=
      possibly_of_none (by simp [fraction, hpoint])
    have hexponent : possibly exponent (c :: rest) = some (none, c :: rest) :=
      possibly_of_none (by simp [exponent, hmark, hmark'])
    simp [finite, hsigned, hwhole, hfraction, hexponent]
  · simp only [special, bind_apply, hsigned, hall, Option.bind_some, hword]
    simp only [List.mem_cons, List.not_mem_nil, or_false] at hw
    rcases hw with rfl | rfl | rfl
    all_goals rfl

/-- What is read as a word is a text of infinity or of no number. -/
theorem real_of_special {x : Binary64} (h : special s = some (x, r)) : Real s x := by
  obtain ⟨text, negative, word, hsign, rfl, hsigned⟩ := exists_sign s
  have hall : takeWhile (fun _ => true) word = some (word, []) := by
    simp [takeWhile_apply]
  simp only [special, bind_apply, hsigned, hall, Option.bind_some] at h
  generalize hw : String.ofList (word.map Char.toLower) = w at h
  have hlower : word.map Char.toLower = w.toList := by
    rw [← hw, String.toList_ofList]
  split at h
  · cases h
    exact .infinite hsign (by simp [hlower])
  · cases h
    exact .infinite hsign (by simp [hlower])
  · cases h
    exact .nan hsign hlower
  · cases h

/-- A text is read as a real number just where it is a text of this number. -/
theorem real?_eq_some_iff {x : Binary64} : real? s = some x ↔ Real s x := by
  rw [real?, whole?_eq_some_iff, orElse_apply]
  constructor
  · intro hread
    obtain ⟨text, whole, point, places, power, rest, negative, e, hsign, hwhole, hpoint, hpower, hs,
      hfinite⟩ := exists_finite s
    split at hfinite
    · -- Nothing was read as a number, so the text is a word.
      rw [hfinite, Option.none_or] at hread
      exact real_of_special hread
    · rename_i hne
      rw [hfinite, Option.some_or] at hread
      cases hread
      rw [hs, List.append_nil]
      refine .finite hsign hwhole hpoint hpower hne (writes_numberOf ?_)
      refine List.forall_mem_append.2 ⟨hwhole, ?_⟩
      cases hpoint with
      | none => nofun
      | point hdigits => exact hdigits
  · intro h
    cases h with
    | finite hsign hwhole hpoint hpower hne hwrites =>
        rw [finite_text hsign hwhole hpoint hpower hne, numberOf_of_writes hwrites]
        rfl
    | infinite hsign hword =>
        obtain ⟨hfinite, hspecial⟩ := special_append hsign (List.mem_append_left _ hword) rfl
        have hother : ∀ w ∈ ["inf".toList, "infinity".toList], w ≠ "nan".toList := by
          decide
        rw [hfinite, hspecial, if_neg (hother _ hword)]
        rfl
    | nan hsign hword =>
        obtain ⟨hfinite, hspecial⟩ := special_append hsign (by simp) hword
        rw [hfinite, hspecial]
        rfl

/-! ## Characters -/

/-- The characters that numbers are written with. -/
def InNumber (c : Char) : Prop :=
  c.isDigit = true ∨ c ∈ ['+', '-', '.'] ∨ c.toLower ∈ ['a', 'e', 'f', 'i', 'n', 't', 'y']

instance (c : Char) : Decidable (InNumber c) :=
  inferInstanceAs (Decidable (_ ∨ _))

/-- Numbers are written in ASCII. -/
theorem InNumber.ascii (h : InNumber c) : c.toNat < 128 := by
  have hmark : ∀ m ∈ ['+', '-', '.'], m.toNat < 128 := by
    simp
  rcases h with hdigit | hm | hl
  · have hrange := isDigit_iff_toNat.1 hdigit
    omega
  · exact hmark c hm
  · exact ascii_of_toLower_mem (by simp) hl

/-- There are letters, digits, signs and points in numbers, and neither of two letters. -/
theorem InNumber.plain (h : InNumber c) :
    (c.isAlphanum = true ∨ c ∈ ['+', '-', '.']) ∧ c.toLower ∉ ['r', 'l'] := by
  have hall : ∀ n < 128, InNumber (Char.ofNat n) →
      ((Char.ofNat n).isAlphanum = true ∨ Char.ofNat n ∈ ['+', '-', '.']) ∧
        (Char.ofNat n).toLower ∉ ['r', 'l'] := by
    decide +kernel
  exact forall_ascii (P := fun c => InNumber c →
    (c.isAlphanum = true ∨ c ∈ ['+', '-', '.']) ∧ c.toLower ∉ ['r', 'l']) hall h.ascii h

theorem Sign.inNumber {text : List Char} {negative : Bool} (h : Sign text negative) :
    ∀ c ∈ text, InNumber c := by
  cases h with
  | none => nofun
  | plus | minus => simp [InNumber]

theorem Fraction.inNumber {point places : List Char} (h : Fraction point places) :
    ∀ c ∈ point, InNumber c := by
  cases h with
  | none => nofun
  | point hdigits =>
      exact List.forall_mem_cons.2 ⟨by decide, fun c hc => .inl (hdigits c hc)⟩

theorem Exponent.inNumber {power : List Char} {e : Int} (h : Exponent power e) :
    ∀ c ∈ power, InNumber c := by
  cases h with
  | none => nofun
  | mark hmark hsign _ hwrites =>
      have hmarks : ∀ c ∈ ['e', 'E'], InNumber c := by
        simp [InNumber]
      exact List.forall_mem_cons.2 ⟨hmarks _ hmark, List.forall_mem_append.2
        ⟨hsign.inNumber, fun c hc => .inl (digits_of_writes hwrites c hc)⟩⟩

/-- A real number is written with the characters of numbers, the letters of its words included. -/
theorem Real.inNumber {x : Binary64} (h : Real s x) : ∀ c ∈ s, InNumber c := by
  have hletters : ∀ w ∈ ["inf".toList, "infinity".toList, "nan".toList], ∀ l ∈ w,
      l ∈ ['a', 'e', 'f', 'i', 'n', 't', 'y'] := by
    simp
  have hwords {word w : List Char} (hword : word.map Char.toLower = w)
      (hw : w ∈ ["inf".toList, "infinity".toList, "nan".toList]) : ∀ c ∈ word, InNumber c :=
    fun c hc => .inr (.inr (hletters w hw _ (hword ▸ List.mem_map_of_mem hc)))
  cases h with
  | finite hsign hwhole hpoint hpower _ _ =>
      exact List.forall_mem_append.2 ⟨hsign.inNumber, List.forall_mem_append.2
        ⟨fun c hc => .inl (hwhole c hc),
          List.forall_mem_append.2 ⟨hpoint.inNumber, hpower.inNumber⟩⟩⟩
  | infinite hsign hword =>
      exact List.forall_mem_append.2
        ⟨hsign.inNumber, hwords rfl (List.mem_append_left _ hword)⟩
  | nan hsign hword =>
      exact List.forall_mem_append.2 ⟨hsign.inNumber, hwords hword (by simp)⟩

end Decimal
end ArbBundle
