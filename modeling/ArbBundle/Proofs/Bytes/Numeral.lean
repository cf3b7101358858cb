import ArbBundle.Bytes.Numeral
import Mathlib.Algebra.Order.Ring.Nat
import Mathlib.Data.List.Induction

/-!
# Numeral — which texts are read as which numbers

The reader of amounts takes more than the numerals that people write: a text may have underscores in
it, announce one of four radixes, or have no digit at all.  Here all of them are told without the
reader's running value, and then the two narrower notions.

- `Numeral.Writes`: digits of one radix and the number that they write
- `Numeral.Spells`: all texts of a number; `Numeral.nat?_eq_some_iff` says that they are read
- `Numeral.wei?_eq_some_iff`, `Numeral.wei?_eq_none_iff`: which amounts a text stands for
- `Numeral.Plain`: a number in decimal, or in hexadecimal behind `0x`
- `Numeral.Proper`: digits behind one of these two marks, and at least one
-/

namespace ArbBundle
namespace Numeral

variable {base n d : Nat} {c : Char} {s : List Char}

/-! ## Digits -/

/-- Whether a character is a digit of a radix; a letter of either case is one from ten on. -/
def IsDigit (base : Nat) (c : Char) : Prop :=
  ∃ d < base, c.toLower = Nat.digitChar d

instance (base : Nat) (c : Char) : Decidable (IsDigit base c) :=
  inferInstanceAs (Decidable (∃ d < base, c.toLower = Nat.digitChar d))

/-- What holds of the characters of ASCII holds of a character that is one of them. -/
theorem forall_ascii {P : Char → Prop} (h : ∀ n < 128, P (Char.ofNat n)) (hc : c.toNat < 128) :
    P c := by
  have hchar := h c.toNat hc
  rwa [Char.ofNat_toNat] at hchar

theorem toLower_of_not_ascii (hc : ¬ c.toNat < 128) : c.toLower = c := by
  have hletter : ¬ (c.val ≥ 'A'.val ∧ c.val ≤ 'Z'.val) := by
    rintro ⟨-, hle⟩
    have hle' : c.toNat ≤ 90 := UInt32.le_iff_toNat_le.1 hle
    omega
  exact dif_neg hletter

/-- Nothing outside ASCII has a letter of ASCII as its lower case. -/
theorem ascii_of_toLower_mem {letters : List Char} (hletters : ∀ l ∈ letters, l.toNat < 128)
    (h : c.toLower ∈ letters) : c.toNat < 128 := by
  by_contra hc
  rw [toLower_of_not_ascii hc] at h
  exact hc (hletters c h)

theorem digitValue?_of_not_ascii (hc : ¬ c.toNat < 128) : digitValue? c = none := by
  have hbig (e : Char) (he : e.toNat < 128) : ¬ c ≤ e := by
    intro hle
    have hle' : c.toNat ≤ e.toNat := UInt32.le_iff_toNat_le.1 hle
    omega
  simp [digitValue?, hbig]

/-- No character outside ASCII is a digit, not even by its lower case. -/
theorem IsDigit.ascii (hbase : base ≤ 16) (h : IsDigit base c) : c.toNat < 128 := by
  have hdigit : ∀ d < 16, (Nat.digitChar d).toNat < 128 := by
    decide
  obtain ⟨d, hd, hlower⟩ := h
  by_contra hc
  rw [toLower_of_not_ascii hc] at hlower
  exact hc (hlower ▸ hdigit d (Nat.lt_of_lt_of_le hd hbase))

/-- The value of a digit below sixteen is told by its lower case. -/
theorem digitValue?_eq_some_iff (hd : d < 16) :
    digitValue? c = some d ↔ c.toLower = Nat.digitChar d := by
  -- The characters of ASCII are gone through one by one, and no other one is a digit.
  by_cases hc : c.toNat < 128
  · have hall : ∀ n < 128, ∀ d < 16,
        digitValue? (Char.ofNat n) = some d ↔ (Char.ofNat n).toLower = Nat.digitChar d := by
      decide +kernel
    exact forall_ascii (P := fun c => ∀ d < 16, digitValue? c = some d ↔
      c.toLower = Nat.digitChar d) hall hc d hd
  · rw [digitValue?_of_not_ascii hc]
    constructor
    · intro h
      cases h
    · intro h
      exact absurd (IsDigit.ascii (Nat.le_refl 16) ⟨d, hd, h⟩) hc

/-- Digits write a number in a radix, the most significant one first. -/
inductive Writes (base : Nat) : List Char → Nat → Prop where
  | none : Writes base [] 0
  | digit {s : List Char} {n d : Nat} {c : Char} : Writes base s n → d < base →
      c.toLower = Nat.digitChar d → Writes base (s ++ [c]) (n * base + d)

theorem writes_nil_iff : Writes base [] n ↔ n = 0 := by
  constructor
  · intro h
    generalize hs : ([] : List Char) = t at h
    cases h with
    | none =>
        rfl
    | digit _ _ _ =>
        simp at hs
  · rintro rfl
    exact .none

/-- One more digit shifts the number by a place and is added to it. -/
theorem writes_append_singleton_iff : Writes base (s ++ [c]) n ↔
    ∃ m d, Writes base s m ∧ d < base ∧ c.toLower = Nat.digitChar d ∧ n = m * base + d := by
  constructor
  · intro h
    generalize hs : s ++ [c] = t at h
    cases h with
    | none =>
        simp at hs
    | digit hfront hd hc =>
        obtain ⟨rfl, hlast⟩ := List.append_inj' hs rfl
        cases hlast
        exact ⟨_, _, hfront, hd, hc, rfl⟩
  · rintro ⟨m, d, hfront, hd, hc, rfl⟩
    exact .digit hfront hd hc

theorem Writes.isDigit (h : Writes base s n) : ∀ c ∈ s, IsDigit base c := by
  induction h with
  | none =>
      intro c hc
      cases hc
  | digit _ hd hc ih =>
      intro c' hc'
      rcases List.mem_append.1 hc' with hfront | hlast
      · exact ih c' hfront
      · rw [List.mem_singleton.1 hlast]
        exact ⟨_, hd, hc⟩

/-- No digit is an underscore, so taking these out leaves what writes a number as it is. -/
theorem Writes.without_underscores (hbase : base ≤ 16) (h : Writes base s n) :
    s.filter (· ≠ '_') = s := by
  have hother : ∀ d < 16, '_'.toLower ≠ Nat.digitChar d := by
    decide
  refine List.filter_eq_self.2 fun c hc => decide_eq_true ?_
  rintro rfl
  obtain ⟨d, hd, hlower⟩ := h.isDigit '_' hc
  exact hother d (Nat.lt_of_lt_of_le hd hbase) hlower

/-- Zeros in front make no difference. -/
theorem Writes.zeros (hbase : 0 < base) (h : Writes base s n) (k : Nat) :
    Writes base (List.replicate k '0' ++ s) n := by
  induction h with
  | none =>
      rw [List.append_nil]
      induction k with
      | zero =>
          exact .none
      | succ k ih =>
          rw [List.replicate_succ']
          simpa using Writes.digit ih hbase (c := '0') rfl
  | digit _ hd hc ih =>
      rw [← List.append_assoc]
      exact .digit ih hd hc

/-- The digits of a number write it, in whatever case each letter is. -/
theorem writes_of_map_toLower (hbase : 1 < base) (h : s.map Char.toLower = Nat.toDigits base n) :
    Writes base s n := by
  induction n using Nat.strongRecOn generalizing s with
  | ind n ih =>
      rw [Nat.toDigits_eq_if hbase] at h
      split at h
      · rename_i hsmall
        obtain ⟨c, rfl, hc⟩ := List.map_eq_singleton_iff.1 h
        simpa using Writes.digit .none hsmall hc
      · -- The last digit is the rest of a division, and the digits before it write the quotient.
        rename_i hbig
        obtain ⟨front, last, rfl, hfront, hlast⟩ := List.map_eq_append_iff.1 h
        obtain ⟨c, rfl, hc⟩ := List.map_eq_singleton_iff.1 hlast
        have hless : n / base < n := Nat.div_lt_self (by omega) hbase
        have hrest : n % base < base := Nat.mod_lt n (by omega)
        have hwrites := Writes.digit (ih (n / base) hless hfront) hrest hc
        rwa [Nat.div_add_mod'] at hwrites

theorem map_toLower_toDigits (hbase : 1 < base) (hsmall : base ≤ 16) (n : Nat) :
    (Nat.toDigits base n).map Char.toLower = Nat.toDigits base n := by
  have hdigit : ∀ d < 16, (Nat.digitChar d).toLower = Nat.digitChar d := by
    decide
  induction n using Nat.strongRecOn with
  | ind n ih =>
      rw [Nat.toDigits_eq_if hbase]
      split
      · rename_i hn
        simp [hdigit n (by omega)]
      · rename_i hbig
        have hless : n / base < n := Nat.div_lt_self (by omega) hbase
        have hrest : n % base < base := Nat.mod_lt n (by omega)
        simp [ih (n / base) hless, hdigit (n % base) (by omega)]

/-- The standard digits write their number in any radix. -/
theorem writes_toDigits (hbase : 1 < base) (hsmall : base ≤ 16) (n : Nat) :
    Writes base (Nat.toDigits base n) n :=
  writes_of_map_toLower hbase (map_toLower_toDigits hbase hsmall n)

/-! ## What is read from digits -/

/-- Digits may be read in two parts, the number of the first one carried over. -/
theorem digits?_append (base acc : Nat) (s t : List Char) :
    digits? base acc (s ++ t) = (digits? base acc s).bind fun n => digits? base n t := by
  induction acc, s using digits?.induct base with
  | case1 acc =>
      rfl
  | case2 acc rest ih =>
      simpa only [List.cons_append, digits?] using ih
  | case3 acc c rest _ hvalue =>
      rw [List.cons_append, digits?.eq_3 _ _ _ _ ‹_›, digits?.eq_3 _ _ _ _ ‹_›, hvalue]
      rfl
  | case4 acc c rest _ d hvalue hd ih =>
      rw [List.cons_append, digits?.eq_3 _ _ _ _ ‹_›, digits?.eq_3 _ _ _ _ ‹_›, hvalue]
      simpa only [if_pos hd] using ih
  | case5 acc c rest _ d hvalue hd =>
      rw [List.cons_append, digits?.eq_3 _ _ _ _ ‹_›, digits?.eq_3 _ _ _ _ ‹_›, hvalue]
      simp only [if_neg hd, Option.bind_none]

theorem digits?_underscore (acc : Nat) : digits? base acc ['_'] = some acc := rfl

/-- One more character is read where it is a digit of the radix. -/
theorem digits?_singleton_eq_some_iff (hbase : base ≤ 16) (hc : c ≠ '_') (acc : Nat) :
    digits? base acc [c] = some n ↔
      ∃ d < base, c.toLower = Nat.digitChar d ∧ n = acc * base + d := by
  rw [digits?.eq_3 _ _ _ _ hc]
  constructor
  · intro h
    cases hvalue : digitValue? c with
    | none =>
        rw [hvalue] at h
        cases h
    | some d =>
        rw [hvalue] at h
        by_cases hd : d < base
        · simp only [if_pos hd, digits?, Option.some_inj] at h
          exact ⟨d, hd, (digitValue?_eq_some_iff (Nat.lt_of_lt_of_le hd hbase)).1 hvalue, h.symm⟩
        · simp only [if_neg hd] at h
          cases h
  · rintro ⟨d, hd, hlower, rfl⟩
    rw [(digitValue?_eq_some_iff (Nat.lt_of_lt_of_le hd hbase)).2 hlower]
    simp only [if_pos hd, digits?]

/-- What is read from digits is what they write once the underscores are taken out. -/
theorem digits?_eq_some_iff (hbase : base ≤ 16) :
    digits? base 0 s = some n ↔ Writes base (s.filter (· ≠ '_')) n := by
  induction s using List.reverseRecOn generalizing n with
  | nil =>
      simp [digits?, writes_nil_iff, eq_comm]
  | append_singleton s c ih =>
      -- The last character is read over where it is an underscore, and is one more digit otherwise.
      rw [digits?_append, Option.bind_eq_some_iff, List.filter_append]
      by_cases hc : c = '_'
      · subst hc
        simp [digits?_underscore, ih]
      · simp [hc, writes_append_singleton_iff, digits?_singleton_eq_some_iff hbase hc, ih]

/-- The digits of a number are read as the number. -/
theorem digits?_toDigits (n : Nat) : digits? 16 0 (Nat.toDigits 16 n) = some n := by
  have hwrites : Writes 16 (Nat.toDigits 16 n) n := writes_toDigits (by decide) (by decide) n
  rw [digits?_eq_some_iff (Nat.le_refl 16), hwrites.without_underscores (Nat.le_refl 16)]
  exact hwrites

/-! ## The texts of a number -/

/-- The marks that people put in front of digits, each with the radix that it announces. -/
def properMarks : List (List Char × Nat) :=
  [([], 10), (['0', 'x'], 16)]

/-- The marks that are understood besides. -/
def otherMarks : List (List Char × Nat) :=
  [(['0', 'X'], 16), (['0', 'o'], 8), (['0', 'O'], 8), (['0', 'b'], 2), (['0', 'B'], 2)]

/-- A text spells a number: digits behind a mark write it, however many underscores there are among
them. -/
def Spells (s : List Char) (n : Nat) : Prop :=
  ∃ mark base digits, (mark, base) ∈ properMarks ++ otherMarks ∧ s = mark ++ digits ∧
    Writes base (digits.filter (· ≠ '_')) n

variable {mark : List Char}

theorem base_le_of_marks (h : (mark, base) ∈ properMarks ++ otherMarks) : base ≤ 16 := by
  have hall : ∀ m ∈ properMarks ++ otherMarks, m.2 ≤ 16 := by
    decide
  exact hall (mark, base) h

/-- Digits behind a proper mark spell the number that they write. -/
theorem Writes.spells (h : Writes base s n) (hmark : (mark, base) ∈ properMarks) :
    Spells (mark ++ s) n := by
  have hmark' : (mark, base) ∈ properMarks ++ otherMarks := List.mem_append_left _ hmark
  refine ⟨mark, base, s, hmark', rfl, ?_⟩
  rwa [h.without_underscores (base_le_of_marks hmark')]

/-- Every text has a mark, perhaps an empty one, and the radix that goes with it. -/
theorem exists_mark (s : List Char) :
    ∃ mark, (mark, (radix s).1) ∈ properMarks ++ otherMarks ∧ s = mark ++ (radix s).2 := by
  unfold radix
  split
  · exact ⟨['0', 'x'], by simp [properMarks], rfl⟩
  · exact ⟨['0', 'X'], by simp [otherMarks], rfl⟩
  · exact ⟨['0', 'o'], by simp [otherMarks], rfl⟩
  · exact ⟨['0', 'O'], by simp [otherMarks], rfl⟩
  · exact ⟨['0', 'b'], by simp [otherMarks], rfl⟩
  · exact ⟨['0', 'B'], by simp [otherMarks], rfl⟩
  · exact ⟨[], by simp [properMarks], rfl⟩

/-- Decimal digits announce no other radix, since no letter is one of them. -/
theorem radix_of_decimal (h : Writes 10 (s.filter (· ≠ '_')) n) : radix s = (10, s) := by
  have hletter : ∀ c ∈ ['x', 'X', 'o', 'O', 'b', 'B'], c ≠ '_' ∧ ¬ IsDigit 10 c := by
    simp only [List.forall_mem_cons, List.not_mem_nil, false_implies, implies_true, and_true]
    decide
  have hfree : ∀ c ∈ ['x', 'X', 'o', 'O', 'b', 'B'], c ∉ s := by
    intro c hc hmem
    obtain ⟨hne, hno⟩ := hletter c hc
    exact hno (h.isDigit c (List.mem_filter.2 ⟨hmem, decide_eq_true hne⟩))
  unfold radix
  split
  · exact absurd (by simp) (hfree 'x' (by decide))
  · exact absurd (by simp) (hfree 'X' (by decide))
  · exact absurd (by simp) (hfree 'o' (by decide))
  · exact absurd (by simp) (hfree 'O' (by decide))
  · exact absurd (by simp) (hfree 'b' (by decide))
  · exact absurd (by simp) (hfree 'B' (by decide))
  · rfl

/-- A mark in front of digits is found as such. -/
theorem radix_of_mark {digits : List Char} (hmark : (mark, base) ∈ properMarks ++ otherMarks)
    (h : Writes base (digits.filter (· ≠ '_')) n) : radix (mark ++ digits) = (base, digits) := by
  simp only [properMarks, otherMarks, List.cons_append, List.nil_append, List.mem_cons,
    Prod.mk.injEq, List.not_mem_nil, or_false] at hmark
  rcases hmark with ⟨rfl, rfl⟩ | ⟨rfl, rfl⟩ | ⟨rfl, rfl⟩ | ⟨rfl, rfl⟩ | ⟨rfl, rfl⟩ | ⟨rfl, rfl⟩ |
    ⟨rfl, rfl⟩
  -- Only digits without a mark could be taken for something else.
  · exact radix_of_decimal h
  all_goals rfl

/-- The texts of a number are read as that number, and nothing else is read. -/
theorem nat?_eq_some_iff : nat? s = some n ↔ Spells s n := by
  constructor
  · intro h
    obtain ⟨mark, hmark, hs⟩ := exists_mark s
    exact ⟨mark, _, _, hmark, hs, (digits?_eq_some_iff (base_le_of_marks hmark)).1 h⟩
  · rintro ⟨mark, base, digits, hmark, rfl, hwrites⟩
    rw [nat?, radix_of_mark hmark hwrites]
    exact (digits?_eq_some_iff (base_le_of_marks hmark)).2 hwrites

/-- No text spells two numbers. -/
theorem Spells.unique {m : Nat} (hm : Spells s m) (hn : Spells s n) : m = n :=
  Option.some_inj.1 ((nat?_eq_some_iff.2 hm).symm.trans (nat?_eq_some_iff.2 hn))

/-- A text stands for an amount where it spells the number of that amount. -/
theorem wei?_eq_some_iff {w : Wei} : wei? s = some w ↔ Spells s w.toNat := by
  rw [wei?, Option.bind_eq_some_iff]
  constructor
  · rintro ⟨n, hread, hfit⟩
    rw [Word.toNat_of_ofNat? hfit]
    exact nat?_eq_some_iff.1 hread
  · intro h
    exact ⟨w.toNat, nat?_eq_some_iff.2 h, Word.ofNat?_toNat w⟩

/-- A text stands for no amount where it spells no number, or one that is too large. -/
theorem wei?_eq_none_iff : wei? s = none ↔ ∀ n, Spells s n → 2 ^ 256 ≤ n := by
  constructor
  · intro h n hn
    by_contra hlt
    -- A number that a word holds would be read.
    have hfit : (BitVec.ofNat 256 n).toNat = n := Nat.mod_eq_of_lt (Nat.lt_of_not_le hlt)
    have hread : wei? s = some (BitVec.ofNat 256 n) := by
      rw [wei?_eq_some_iff, hfit]
      exact hn
    rw [h] at hread
    cases hread
  · intro h
    cases hread : wei? s with
    | none =>
        rfl
    | some w =>
        exact absurd (h w.toNat (wei?_eq_some_iff.1 hread)) (Nat.not_le.2 w.isLt)

/-! ## Plain and proper numerals -/

/-- A text is a plain numeral of a number: the number is written in decimal, or behind `0x` in
hexadecimal with letters of either case, and any number of zeros may stand in front of its
digits. -/
inductive Plain (n : Nat) : List Char → Prop where
  | decimal (zeros : Nat) : Plain n (List.replicate zeros '0' ++ Nat.toDigits 10 n)
  | hexadecimal (zeros : Nat) {digits : List Char} : digits.map Char.toLower = Nat.toDigits 16 n →
      Plain n ('0' :: 'x' :: (List.replicate zeros '0' ++ digits))

/-- A plain numeral consists of digits behind a proper mark. -/
theorem Plain.writes (h : Plain n s) : ∃ mark base digits, (mark, base) ∈ properMarks ∧
    s = mark ++ digits ∧ Writes base digits n := by
  cases h with
  | decimal zeros =>
      have hwrites : Writes 10 (Nat.toDigits 10 n) n := writes_toDigits (by decide) (by decide) n
      exact ⟨[], 10, _, by decide, rfl, hwrites.zeros (by decide) zeros⟩
  | hexadecimal zeros hdigits =>
      have hwrites : Writes 16 _ n := writes_of_map_toLower (by decide) hdigits
      exact ⟨['0', 'x'], 16, _, by decide, rfl, hwrites.zeros (by decide) zeros⟩

/-- A plain numeral of a number spells it. -/
theorem Plain.spells (h : Plain n s) : Spells s n := by
  obtain ⟨mark, base, digits, hmark, rfl, hwrites⟩ := h.writes
  exact hwrites.spells hmark

/-- A text is a proper numeral: decimal digits, or hexadecimal digits behind `0x`, and at least
one. -/
def Proper (s : List Char) : Prop :=
  ∃ mark base digits, (mark, base) ∈ properMarks ∧ s = mark ++ digits ∧ digits ≠ [] ∧
    ∀ c ∈ digits, IsDigit base c

/-- What spells a number and is no proper numeral has an underscore in it, or no digit, or another
mark. -/
theorem Spells.proper_or (h : Spells s n) : Proper s ∨ '_' ∈ s ∨
    (∃ m ∈ properMarks, s = m.1) ∨ ∃ m ∈ otherMarks, m.1 <+: s := by
  obtain ⟨mark, base, digits, hmark, rfl, hwrites⟩ := h
  rcases List.mem_append.1 hmark with hproper | hother
  · by_cases hne : digits = []
    · subst hne
      exact .inr (.inr (.inl ⟨(mark, base), hproper, List.append_nil mark⟩))
    by_cases hfree : '_' ∈ digits
    · exact .inr (.inl (List.mem_append_right mark hfree))
    -- Without an underscore all characters behind the mark are digits.
    · refine .inl ⟨mark, base, digits, hproper, rfl, hne, fun c hc => ?_⟩
      refine hwrites.isDigit c (List.mem_filter.2 ⟨hc, decide_eq_true ?_⟩)
      rintro rfl
      exact hfree hc
  · exact .inr (.inr (.inr ⟨(mark, base), hother, List.prefix_append mark digits⟩))

end Numeral
end ArbBundle
