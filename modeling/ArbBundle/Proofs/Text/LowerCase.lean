import Mathlib.Data.List.Forall2
import ArbBundle.Proofs.Bytes.Numeral
import ArbBundle.Text.AsciiCase
import ArbBundle.Text.LowerCase

/-!
# LowerCase — the texts whose lower case is an ASCII word

Outside ASCII only the Kelvin sign has a lower case in ASCII.  The lower case of any other character
there has a character outside ASCII in it, so that no text with such a character has an ASCII word
as its lower case, however long it is and in whatever order its characters stand.

- `lower_image`: the runs of the case table lead out of ASCII, but for the Kelvin sign
- `lowerAt_cases`: the lower case of a character is `lowerAscii`, or it is not in ASCII
- `lower_eq_iff`: for ASCII words, a text may be compared letter by letter
- `lowerWord_eq_iff`: all texts whose lower case is a word without the letter `k`
-/

namespace ArbBundle
namespace Text

open Numeral (forall_ascii toLower_of_not_ascii)

variable {c l : Char} {s w before after : List Char}

/-- The run of the Kelvin sign, whose lower case is the letter `k`. -/
def kelvinRun : CaseRun :=
  ⟨0x212a, 0x212a, 1, 0x6b⟩

/-- Every other run of the case table leads to characters outside ASCII. -/
theorem lower_image : ∀ r ∈ lowerRuns, r = kelvinRun ∨
    0x80 ≤ r.image ∧ (r.image + (r.last - r.first) < 0xd800 ∨
      0xdfff < r.image ∧ r.image + (r.last - r.first) < 0x110000) := by
  decide +kernel

theorem CaseRun.has_iff {r : CaseRun} : r.has c = true ↔
    r.first ≤ c.toNat ∧ c.toNat ≤ r.last ∧ (c.toNat - r.first) % r.step = 0 := by
  simp [CaseRun.has, and_assoc]

theorem eq_of_has_kelvinRun (h : kelvinRun.has c = true) : c = '\u212a' := by
  obtain ⟨hfirst, hlast, -⟩ := CaseRun.has_iff.1 h
  rw [← Char.ofNat_toNat c, Nat.le_antisymm hlast hfirst]
  rfl

theorem toNat_ofNat {n : Nat} (h : n.isValidChar) : (Char.ofNat n).toNat = n := by
  rw [Char.ofNat, dif_pos h]
  rfl

/-- The lower case of a character of a run is in ASCII for the Kelvin sign only. -/
theorem lower_not_ascii {r : CaseRun} (hr : r ∈ lowerRuns) (hc : r.has c = true)
    (hkelvin : c ≠ '\u212a') : ¬ (r.lower c).toNat < 128 := by
  rcases lower_image r hr with rfl | ⟨himage, hvalid⟩
  · exact absurd (eq_of_has_kelvinRun hc) hkelvin
  · obtain ⟨hfirst, hlast, -⟩ := CaseRun.has_iff.1 hc
    have hchar : (r.image + (c.toNat - r.first)).isValidChar := by
      unfold Nat.isValidChar
      omega
    rw [CaseRun.lower, toNat_ofNat hchar]
    omega

theorem lowerOf_kelvin : lowerOf '\u212a' = ['k'] := by
  decide

/-- Apart from the Kelvin sign, no character outside ASCII has a lower case within it. -/
theorem lowerOf_not_ascii (hc : ¬ c.toNat < 128) (hkelvin : c ≠ '\u212a') :
    ∃ d ∈ lowerOf c, ¬ d.toNat < 128 := by
  rw [lowerOf, if_neg hc]
  split
  · exact ⟨'\u0307', by simp, by decide⟩
  · split
    · rename_i r hr
      exact ⟨_, List.mem_singleton_self _,
        lower_not_ascii (List.mem_of_find?_eq_some hr) (by simpa using List.find?_some hr) hkelvin⟩
    · exact ⟨c, List.mem_singleton_self _, hc⟩

/-- Between whatever characters it stands, the lower case of a character is a single one, which is
known without them, or it has a character outside ASCII in it. -/
theorem lowerAt_cases (before : List Char) (c : Char) (after : List Char) :
    lowerAt before c after = [lowerAscii c] ∨
      ¬ (lowerAscii c).toNat < 128 ∧ ∃ d ∈ lowerAt before c after, ¬ d.toNat < 128 := by
  unfold lowerAt
  split
  · rename_i hsigma
    obtain rfl := eq_of_beq hsigma
    refine .inr ⟨by decide, _, List.mem_singleton_self _, ?_⟩
    split <;> decide
  · by_cases hc : c.toNat < 128
    · have hkelvin : c ≠ '\u212a' := by
        rintro rfl
        exact absurd hc (by decide)
      left
      rw [lowerOf, if_pos hc, lowerAscii, if_neg (by simpa using hkelvin)]
    · by_cases hkelvin : c = '\u212a'
      · subst hkelvin
        exact .inl lowerOf_kelvin
      · refine .inr ⟨?_, lowerOf_not_ascii hc hkelvin⟩
        rw [lowerAscii, if_neg (by simpa using hkelvin), toLower_of_not_ascii hc]
        exact hc

/-- The lower case of a text is a word of ASCII just where `lowerWord` gives that word. -/
theorem lowerFrom_eq_iff (hw : ∀ d ∈ w, d.toNat < 128) :
    lowerFrom before s = w ↔ lowerWord s = w := by
  induction s generalizing before w with
  | nil => rfl
  | cons c rest ih =>
      rw [lowerFrom]
      rcases lowerAt_cases before c rest with hpiece | ⟨hc, d, hd, hstrange⟩
      · rw [hpiece]
        cases w with
        | nil => simp [lowerWord]
        | cons l w =>
            simp only [List.singleton_append, lowerWord, List.map_cons, List.cons.injEq]
            exact and_congr_right fun _ => ih fun d hd => hw d (List.mem_cons_of_mem _ hd)
      · refine iff_of_false ?_ ?_
        · rintro rfl
          exact hstrange (hw d (List.mem_append_left _ hd))
        · rintro rfl
          exact hc (hw _ List.mem_cons_self)

/-- A text has an ASCII word as its lower case exactly when its characters have, one by one. -/
theorem lower_eq_iff (hw : ∀ d ∈ w, d.toNat < 128) : lower s = w ↔ lowerWord s = w :=
  lowerFrom_eq_iff hw

/-! ## Words without the letter `k` -/

/-- The small letters of ASCII that are the lower case of nothing but themselves and their
capitals. -/
def plainLetters : List Char :=
  ['a', 'b', 'c', 'd', 'e', 'f', 'g', 'h', 'i', 'j', 'l', 'm', 'n', 'o', 'p', 'q', 'r', 's', 't',
    'u', 'v', 'w', 'x', 'y', 'z']

/-- What is checked of the characters of a list one by one holds of them; all characters together
would be too many to check. -/
theorem forall_mem_of_all {P : Char → Prop} [DecidablePred P] (h : s.all fun c => decide (P c)) :
    ∀ c ∈ s, P c := fun c hc =>
  of_decide_eq_true (List.all_eq_true.1 h c hc)

theorem plainLetters_ascii : ∀ l ∈ plainLetters, l.toNat < 128 ∧ l.toUpper.toNat < 128 :=
  forall_mem_of_all (by decide)

/-- Nothing but a plain letter and its capital has the letter as its lower case. -/
theorem lowerAscii_eq_iff (hl : l ∈ plainLetters) :
    lowerAscii c = l ↔ c = l ∨ c = l.toUpper := by
  by_cases hc : c.toNat < 128
  · have hall : ∀ n < 128, plainLetters.all fun l =>
        decide (lowerAscii (Char.ofNat n) = l ↔ Char.ofNat n = l ∨ Char.ofNat n = l.toUpper) := by
      decide +kernel
    exact forall_ascii (P := fun c => ∀ l ∈ plainLetters,
      lowerAscii c = l ↔ c = l ∨ c = l.toUpper) (fun n hn => forall_mem_of_all (hall n hn)) hc l hl
  · obtain ⟨hsmall, hcapital⟩ := plainLetters_ascii l hl
    refine iff_of_false ?_ ?_
    · rintro rfl
      by_cases hkelvin : c = '\u212a'
      · subst hkelvin
        exact absurd hl (by decide)
      · rw [lowerAscii, if_neg (by simpa using hkelvin), toLower_of_not_ascii hc] at hsmall
        exact hc hsmall
    · rintro (rfl | rfl)
      · exact hc hsmall
      · exact hc hcapital

/-- The letters of a word, each of them small or capital. -/
def Recased (word s : List Char) : Prop :=
  List.Forall₂ (fun l c => c = l ∨ c = l.toUpper) word s

/-- A text is a word of plain letters in lower case just where it is the word with each letter small
or capital. -/
theorem lowerWord_eq_iff (hw : ∀ l ∈ w, l ∈ plainLetters) : lowerWord s = w ↔ Recased w s := by
  induction w generalizing s with
  | nil => exact List.map_eq_nil_iff.trans List.forall₂_nil_left_iff.symm
  | cons l w ih =>
      cases s with
      | nil => exact iff_of_false nofun nofun
      | cons c s =>
          have hl := lowerAscii_eq_iff (c := c) (hw l List.mem_cons_self)
          have hrest := ih (s := s) fun d hd => hw d (List.mem_cons_of_mem _ hd)
          unfold Recased at hrest ⊢
          rw [List.forall₂_cons, ← hl, ← hrest]
          simp [lowerWord]

/-- What holds of the letters of a word in both cases holds of every character of the text. -/
theorem Recased.all {P : Char → Prop} (h : Recased w s) (hw : ∀ l ∈ w, P l ∧ P l.toUpper) :
    ∀ c ∈ s, P c := by
  induction h with
  | nil => nofun
  | cons hc _ ih =>
      obtain ⟨hsmall, hcapital⟩ := hw _ List.mem_cons_self
      refine List.forall_mem_cons.2 ⟨?_, ih fun l hl => hw l (List.mem_cons_of_mem _ hl)⟩
      rcases hc with rfl | rfl
      · exact hsmall
      · exact hcapital

end Text
end ArbBundle
