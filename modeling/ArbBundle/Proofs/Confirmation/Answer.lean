import ArbBundle.Confirmation
import ArbBundle.Proofs.Text.Blank
import ArbBundle.Proofs.Text.LowerCase

/-!
# Answer — which lines approve and which decline

A line holds an answer exactly when, without the blanks at its two ends, it is one of four words
with each letter small or capital.  No letter from outside ASCII stands for one of theirs.

- `Answer.Holds`: a line that is a word between blanks
- `Answer.holds_iff`: the same, by what trimming and lower-casing leave of the line
- `Answer.accepts_exactly`: the lines with either answer, and those with none
-/

namespace ArbBundle
namespace Answer

open Text (isBlank trim lower plainLetters Recased)

variable {line word : List Char}

/-- The letters of a word, small or capital, between blanks. -/
def Holds (word line : List Char) : Prop :=
  ∃ before text after, line = before ++ text ++ after ∧ (∀ c ∈ before, isBlank c = true) ∧
    (∀ c ∈ after, isBlank c = true) ∧ Recased word text

def yesWords : List (List Char) :=
  [['y'], ['y', 'e', 's']]

def noWords : List (List Char) :=
  [['n'], ['n', 'o']]

theorem plain_of_mem : ∀ word ∈ yesWords ++ noWords, ∀ l ∈ word, l ∈ plainLetters := by
  simp [yesWords, noWords, plainLetters]

theorem solid_plainLetters :
    ∀ l ∈ plainLetters, isBlank l = false ∧ isBlank l.toUpper = false :=
  Text.forall_mem_of_all (by decide)

/-- A line holds a word exactly when the word is the lower case of the trimmed line. -/
theorem holds_iff (hword : word ∈ yesWords ++ noWords) :
    Holds word line ↔ lower (trim line) = word := by
  have hplain := plain_of_mem word hword
  have hascii : ∀ l ∈ word, l.toNat < 128 := fun l hl =>
    (Text.plainLetters_ascii l (hplain l hl)).1
  constructor
  · rintro ⟨before, text, after, rfl, hbefore, hafter, htext⟩
    have hsolid : ∀ c ∈ text, isBlank c = false :=
      htext.all fun l hl => solid_plainLetters l (hplain l hl)
    rw [Text.trim_append_append hbefore hafter, Text.trim_of_solid hsolid]
    exact (Text.lower_eq_iff hascii).2 ((Text.lowerWord_eq_iff hplain).2 htext)
  · intro hlower
    obtain ⟨before, after, hline, hbefore, hafter⟩ := Text.exists_append_trim line
    exact ⟨before, trim line, after, hline, hbefore, hafter,
      (Text.lowerWord_eq_iff hplain).1 ((Text.lower_eq_iff hascii).1 hlower)⟩

/-- A line that holds a word has nothing outside ASCII but blanks. -/
theorem Holds.ascii (hword : word ∈ yesWords ++ noWords) (h : Holds word line) :
    ∀ c ∈ line, isBlank c = false → c.toNat < 128 := by
  obtain ⟨before, text, after, rfl, hbefore, hafter, htext⟩ := h
  intro c hmem hsolid
  rcases List.mem_append.1 hmem with hmem | hmem
  · rcases List.mem_append.1 hmem with hmem | hmem
    · exact nomatch hsolid.symm.trans (hbefore c hmem)
    · exact htext.all (P := fun c => c.toNat < 128)
        (fun l hl => Text.plainLetters_ascii l (plain_of_mem word hword l hl)) c hmem
  · exact nomatch hsolid.symm.trans (hafter c hmem)

/-! ## The answer in a line -/

/-- A line approves just where its lower case between the blanks is one of the words for it. -/
theorem ofLine?_eq_true_iff :
    ofLine? line = some true ↔ ∃ word ∈ yesWords, lower (trim line) = word := by
  unfold ofLine?
  split <;> simp_all [yesWords]

/-- A line declines just where its lower case between the blanks is one of the words for it. -/
theorem ofLine?_eq_false_iff :
    ofLine? line = some false ↔ ∃ word ∈ noWords, lower (trim line) = word := by
  unfold ofLine?
  split <;> simp_all [noWords]

/-- For words of plain letters, lower case may be read letter by letter. -/
theorem exists_holds {words : List (List Char)} (hwords : words ⊆ yesWords ++ noWords) :
    (∃ word ∈ words, lower (trim line) = word) ↔ ∃ word ∈ words, Holds word line :=
  exists_congr fun _ => and_congr_right fun hword => (holds_iff (hwords hword)).symm

/-- A line approves exactly when it is `y` or `yes` between blanks, and declines exactly when it is
`n` or `no` between blanks, whatever the case of their letters; any other line holds no answer.  All
letters of an answer are in ASCII, and blanks around a line make no difference to its answer. -/
theorem accepts_exactly (line : List Char) :
    (ofLine? line = some true ↔ ∃ word ∈ yesWords, Holds word line) ∧
      (ofLine? line = some false ↔ ∃ word ∈ noWords, Holds word line) ∧
      (ofLine? line = none ↔ ∀ word ∈ yesWords ++ noWords, ¬ Holds word line) ∧
      (ofLine? line ≠ none → ∀ c ∈ line, isBlank c = false → c.toNat < 128) ∧
      ∀ before after : List Char, (∀ c ∈ before, isBlank c = true) →
        (∀ c ∈ after, isBlank c = true) → ofLine? (before ++ line ++ after) = ofLine? line := by
  have hyes : ofLine? line = some true ↔ ∃ word ∈ yesWords, Holds word line :=
    ofLine?_eq_true_iff.trans (exists_holds (List.subset_append_left _ _))
  have hno : ofLine? line = some false ↔ ∃ word ∈ noWords, Holds word line :=
    ofLine?_eq_false_iff.trans (exists_holds (List.subset_append_right _ _))
  have hany : ofLine? line ≠ none ↔ ∃ word ∈ yesWords ++ noWords, Holds word line := by
    simp only [List.mem_append, or_and_right, exists_or, ← hyes, ← hno]
    rcases ofLine? line with _ | _ | _ <;> simp
  refine ⟨hyes, hno, ?_, ?_, ?_⟩
  · refine not_iff_not.1 (hany.trans ?_)
    push Not
    rfl
  · intro hsome
    obtain ⟨word, hword, hholds⟩ := hany.1 hsome
    exact hholds.ascii hword
  · intro before after hbefore hafter
    rw [ofLine?, Text.trim_append_append hbefore hafter, ofLine?]

/-- Foreign blanks around an answer do not matter, and its letters are in ASCII. -/
theorem approves_between_blanks :
    let line := ['Y', 'e', 'S']
    let before := ['\u3000', '\t']
    let after := ['\u2028', '\n']
    (∀ c ∈ before, isBlank c = true) ∧ (∀ c ∈ after, isBlank c = true) ∧
      ofLine? line ≠ none ∧ ofLine? (before ++ line ++ after) = some true ∧
      ∀ c ∈ line, isBlank c = false → c.toNat < 128 := by
  intro line before after
  have hbefore : ∀ c ∈ before, isBlank c = true := List.all_eq_true.1 (by decide)
  have hafter : ∀ c ∈ after, isBlank c = true := List.all_eq_true.1 (by decide)
  have hline : ofLine? line = some true := by decide
  have hsome : ofLine? line ≠ none := by simp [hline]
  obtain ⟨-, -, -, hascii, hblank⟩ := accepts_exactly line
  exact ⟨hbefore, hafter, hsome, (hblank before after hbefore hafter).trans hline, hascii hsome⟩

/-- A long `s` is the lower case of itself only, and no letter of an answer. -/
example : ofLine? ['y', 'e', '\u017f'] = none := by decide

end Answer
end ArbBundle
