import ArbBundle.Confirmation

/-!
# Lines — questions read their input line by line

A question goes through the lines of its input up to the first one that ends it.  What it passes
over says nothing, and is answered with a hint.  The question after it goes on with the next line.

- `Confirmation.lines`: the lines of an input, which are all of it
- `Confirmation.ending?`: how the front of an input ends a question, if it does
- `Confirmation.ask_eq`: a question, one line at a time
- `Confirmation.Goes`: how a question goes that reads some lines; `ask_goes`
- `Confirmation.reads_line_by_line`: several questions on one input
-/

namespace ArbBundle
namespace Confirmation

/-! ## Lines -/

/-- The lines of an input, each with its newline; the last one may have none. -/
def lines : Bytes → List Bytes
  | [] => []
  | b :: rest =>
    if b = 10 then [b] :: lines rest
    else
      match lines rest with
      | [] => [[b]]
      | line :: more => (b :: line) :: more

theorem lines_eq_nil_iff {input : Bytes} : lines input = [] ↔ input = [] := by
  cases input with
  | nil =>
      simp [lines]
  | cons b rest =>
      simp only [lines]
      split
      · simp
      · split <;> simp

/-- The lines of an input are all of it. -/
theorem flatten_lines (input : Bytes) : (lines input).flatten = input := by
  induction input with
  | nil =>
      rfl
  | cons b rest ih =>
      simp only [lines]
      split
      · simp [ih]
      · split
        · rename_i hnone
          simp [lines_eq_nil_iff.1 hnone]
        · rename_i line more hsome
          rw [hsome] at ih
          simpa using ih

/-- The first line of an input is the one that is split off. -/
theorem lines_of_ne_nil {input : Bytes} (h : input ≠ []) :
    lines input = (splitLine input).1 :: lines (splitLine input).2 := by
  induction input with
  | nil =>
      exact absurd rfl h
  | cons b rest ih =>
      simp only [lines, splitLine]
      split
      · rfl
      · cases rest with
        | nil =>
            rfl
        | cons b' rest' =>
            rw [ih (List.cons_ne_nil b' rest')]

/-- A newline ends its line, and only the last line of an input may lack one. -/
theorem newline_ends {input : Bytes} {before after : List Bytes} {line : Bytes}
    (h : lines input = before ++ line :: after) :
    ∃ body, 10 ∉ body ∧ (line = body ++ [10] ∨ line = body ∧ body ≠ [] ∧ after = []) := by
  induction input generalizing before line with
  | nil =>
      exact absurd (congrArg List.length h) (by simp [lines])
  | cons b rest ih =>
      simp only [lines] at h
      split at h
      · rename_i hb
        subst hb
        cases before with
        | nil =>
            cases h
            exact ⟨[], List.not_mem_nil, Or.inl rfl⟩
        | cons first before =>
            obtain ⟨-, h⟩ := List.cons.inj h
            exact ih h
      · rename_i hb
        split at h
        · cases before with
          | nil =>
              cases h
              exact ⟨[b], by simpa using Ne.symm hb, Or.inr ⟨rfl, List.cons_ne_nil b [], rfl⟩⟩
          | cons first before =>
              exact absurd (congrArg List.length h) (by simp)
        · rename_i line' more hrest
          cases before with
          | nil =>
              cases h
              -- The line of `b` goes on as the first line of the rest does.
              obtain ⟨body, hbody, hline⟩ := @ih [] _ hrest
              refine ⟨b :: body, by simpa using ⟨Ne.symm hb, hbody⟩, ?_⟩
              rcases hline with rfl | ⟨rfl, -, hlast⟩
              · exact Or.inl rfl
              · exact Or.inr ⟨rfl, List.cons_ne_nil b _, hlast⟩
          | cons first before =>
              obtain ⟨-, h⟩ := List.cons.inj h
              exact @ih (line' :: before) _ (hrest.trans (congrArg (line' :: ·) h))

/-! ## One line at a time -/

/-- How a line ends the question that it is read for, if it does. -/
def verdict? (line : Bytes) : Option (Except ConfirmationError Bool) :=
  match Text.strict? line with
  | none => some (.error (.io .notUtf8))
  | some text => (Answer.ofLine? text).map .ok

/-- How the front of an input ends a question, if it does. -/
def ending? (input : Bytes) : Option (Except ConfirmationError Bool) :=
  if input = [] then some (.error .closed) else verdict? (splitLine input).1

theorem ne_nil_of_ending? {input : Bytes} (h : ending? input = none) : input ≠ [] := by
  rintro rfl
  cases h

theorem flushes_of_write {t t' : Terminal} {b written : Bytes}
    (h : t.write b = (written, some t')) : t'.flushes = t.flushes := by
  unfold Terminal.write at h
  split at h
  · cases h
    rfl
  · split at h
    · cases h
      rfl
    · cases h

/-- A question writes the prompt and looks at the front of its input; where that does not end it,
it writes the hint and starts again behind the first line. -/
theorem ask_eq {t : Terminal} (hflush : t.flushes = true) (input : Bytes) :
    ask t input =
      match t.write prompt with
      | (written, none) => ⟨.error (.io .closed), written, input⟩
      | (written, some t) =>
        match ending? input with
        | some result => ⟨result, written, (splitLine input).2⟩
        | none =>
          match t.write hint with
          | (hinted, none) => ⟨.error (.io .closed), written ++ hinted, (splitLine input).2⟩
          | (hinted, some t) => (ask t (splitLine input).2).after (written ++ hinted) := by
  rw [ask]
  rcases hwrite : t.write prompt with ⟨written, _ | t'⟩
  · rfl
  · have hflush' : t'.flushes = true := (flushes_of_write hwrite).trans hflush
    have hshown : ¬ (!t'.flushes) = true := by
      rw [hflush']
      exact Bool.false_ne_true
    dsimp only
    rw [if_neg hshown]
    by_cases hinput : input = []
    · subst hinput
      rfl
    · rw [dif_neg hinput, ending?, if_neg hinput, verdict?]
      cases Text.strict? (splitLine input).1 with
      | none =>
          rfl
      | some text =>
          dsimp only
          cases Answer.ofLine? text with
          | some answer =>
              rfl
          | none =>
              rcases t'.write hint with ⟨hinted, _ | t''⟩
              · rfl
              · rfl

/-- What holds of an input as soon as it holds behind its first line, should the first line not end
a question, holds of every input. -/
theorem input_induction {P : Bytes → Prop}
    (h : ∀ input, (ending? input = none → P (splitLine input).2) → P input) (input : Bytes) :
    P input := by
  induction hn : input.length using Nat.strongRecOn generalizing input with
  | ind n ih =>
      subst hn
      exact h input fun hgoes => ih _ (length_splitLine_snd (ne_nil_of_ending? hgoes)) _ rfl

/-! ## One question -/

/-- A question on a terminal that takes everything, one line at a time. -/
theorem ask_unlimited (input : Bytes) :
    ask .unlimited input =
      match ending? input with
      | some result => ⟨result, prompt, (splitLine input).2⟩
      | none => (ask .unlimited (splitLine input).2).after (prompt ++ hint) :=
  ask_eq rfl input

/-- What a question writes that passes over `passed` lines. -/
def dialogue (passed : Nat) : Bytes :=
  prompt ++ (List.replicate passed (hint ++ prompt)).flatten

theorem dialogue_succ (passed : Nat) :
    dialogue (passed + 1) = prompt ++ hint ++ dialogue passed := by
  simp [dialogue, List.replicate_succ]

/-- A line that is a text and holds no answer. -/
def Unclear (line : Bytes) : Prop :=
  ∃ text, Text.strict? line = some text ∧ Answer.ofLine? text = none

/-- How a question goes that reads some lines: it passes over unclear ones until a line holds an
answer, a line is damaged, or the input ends. -/
inductive Goes : (read : List Bytes) → Asked → Prop where
  | answered {passed : List Bytes} {line rest : Bytes} {text : List Char} {answer : Bool} :
      (∀ l ∈ passed, Unclear l) → Text.strict? line = some text →
      Answer.ofLine? text = some answer →
      Goes (passed ++ [line]) ⟨.ok answer, dialogue passed.length, rest⟩
  | damaged {passed : List Bytes} {line rest : Bytes} :
      (∀ l ∈ passed, Unclear l) → Text.strict? line = none →
      Goes (passed ++ [line]) ⟨.error (.io .notUtf8), dialogue passed.length, rest⟩
  | ended {passed : List Bytes} :
      (∀ l ∈ passed, Unclear l) → Goes passed ⟨.error .closed, dialogue passed.length, []⟩

/-- A line that does not end a question is a text without an answer. -/
theorem unclear_of_verdict? {line : Bytes} (h : verdict? line = none) : Unclear line := by
  unfold verdict? at h
  split at h
  · cases h
  · rename_i text htext
    exact ⟨text, htext, Option.map_eq_none_iff.1 h⟩

/-- An unclear line in front of a question is passed over. -/
theorem Goes.behind {read : List Bytes} {asked : Asked} {line : Bytes} (hline : Unclear line)
    (h : Goes read asked) : Goes (line :: read) (asked.after (prompt ++ hint)) := by
  cases h with
  | answered hpassed htext hanswer =>
      rw [Asked.after, ← dialogue_succ]
      exact .answered (List.forall_mem_cons.2 ⟨hline, hpassed⟩) htext hanswer
  | damaged hpassed hdamaged =>
      rw [Asked.after, ← dialogue_succ]
      exact .damaged (List.forall_mem_cons.2 ⟨hline, hpassed⟩) hdamaged
  | ended hpassed =>
      rw [Asked.after, ← dialogue_succ]
      exact .ended (List.forall_mem_cons.2 ⟨hline, hpassed⟩)

/-- What ends a question is its first line, or the lack of one. -/
theorem goes_of_ending? {input : Bytes} {result : Except ConfirmationError Bool}
    (h : ending? input = some result) :
    ∃ read, Goes read ⟨result, prompt, (splitLine input).2⟩ ∧
      lines input = read ++ lines (splitLine input).2 := by
  have hdialogue : dialogue 0 = prompt :=
    List.append_nil prompt
  have hnone : ∀ l ∈ ([] : List Bytes), Unclear l :=
    List.forall_mem_nil Unclear
  by_cases hinput : input = []
  · subst hinput
    cases h
    exact ⟨[], hdialogue ▸ .ended hnone, rfl⟩
  · refine ⟨[(splitLine input).1], ?_, lines_of_ne_nil hinput⟩
    rw [ending?, if_neg hinput, verdict?] at h
    split at h
    · rename_i hdamaged
      cases h
      exact hdialogue ▸ .damaged hnone hdamaged
    · rename_i text htext
      obtain ⟨answer, hanswer, rfl⟩ := Option.map_eq_some_iff.1 h
      exact hdialogue ▸ .answered hnone htext hanswer

/-- A question reads the lines at the front of its input, and leaves the others. -/
theorem ask_goes (input : Bytes) :
    ∃ read, Goes read (ask .unlimited input) ∧
      lines input = read ++ lines (ask .unlimited input).rest := by
  induction input using input_induction with
  | h input ih =>
      rw [ask_unlimited]
      cases hending : ending? input with
      | some result =>
          exact goes_of_ending? hending
      | none =>
          -- The question goes on behind its first line, which is unclear.
          obtain ⟨read, hgoes, hlines⟩ := ih hending
          have hinput := ne_nil_of_ending? hending
          have hline : Unclear (splitLine input).1 := by
            rw [ending?, if_neg hinput] at hending
            exact unclear_of_verdict? hending
          refine ⟨_, hgoes.behind hline, ?_⟩
          rw [lines_of_ne_nil hinput, hlines]
          rfl

/-- A question is approved by a line that says so. -/
theorem Goes.approved {read : List Bytes} {asked : Asked} (h : Goes read asked)
    (happroved : asked.result = .ok true) :
    ∃ line ∈ read, ∃ text, Text.strict? line = some text ∧ Answer.ofLine? text = some true := by
  cases h with
  | answered _ htext hanswer =>
      cases happroved
      exact ⟨_, by simp, _, htext, hanswer⟩
  | damaged _ _ =>
      cases happroved
  | ended _ =>
      cases happroved

/-! ## Several questions -/

/-- Questions one after the other, each on the input that the one before it has left. -/
def confirmAll (t : Terminal) : (calls : List Bool) → Bytes → List Asked
  | [], _ => []
  | bypass :: calls, input =>
    confirm bypass t input :: confirmAll t calls (confirm bypass t input).rest

/-- A question with the lines that it reads. -/
structure Turn where
  bypass : Bool
  read : List Bytes
  asked : Asked

/-- A bypassed question is approved, and neither reads nor writes; any other reads its lines. -/
def Turn.Goes (t : Turn) : Prop :=
  if t.bypass then t.read = [] ∧ t.asked.result = .ok true ∧ t.asked.output = []
  else Confirmation.Goes t.read t.asked

/-- One question reads the lines at the front of its input, unless it is bypassed. -/
theorem confirm_goes (bypass : Bool) (input : Bytes) :
    ∃ read, Turn.Goes ⟨bypass, read, confirm bypass .unlimited input⟩ ∧
      lines input = read ++ lines (confirm bypass .unlimited input).rest := by
  cases bypass with
  | true =>
      exact ⟨[], ⟨rfl, rfl, rfl⟩, rfl⟩
  | false =>
      exact ask_goes input

/-- The questions of some calls on one input, with the lines that they read. -/
theorem exists_turns (calls : List Bool) (input : Bytes) :
    ∃ turns : List Turn, turns.map Turn.bypass = calls ∧
      turns.map Turn.asked = confirmAll .unlimited calls input ∧
      ∀ before turn after, turns = before ++ turn :: after →
        turn.Goes ∧
        lines input = before.flatMap Turn.read ++ turn.read ++ lines turn.asked.rest := by
  induction calls generalizing input with
  | nil =>
      refine ⟨[], rfl, rfl, fun before turn after h => ?_⟩
      exact absurd (congrArg List.length h) (by simp)
  | cons bypass calls ih =>
      obtain ⟨read, hgoes, hlines⟩ := confirm_goes bypass input
      obtain ⟨turns, hcalls, hasked, hturns⟩ := ih (confirm bypass .unlimited input).rest
      refine ⟨⟨bypass, read, confirm bypass .unlimited input⟩ :: turns, ?_, ?_, ?_⟩
      · simp [hcalls]
      · simp [hasked, confirmAll]
      · intro before turn after h
        cases before with
        | nil =>
            cases h
            exact ⟨hgoes, hlines⟩
        | cons first before =>
            cases h
            -- The lines that the first question has left are the input of the others.
            obtain ⟨hturn, hrest⟩ := hturns before turn after rfl
            refine ⟨hturn, ?_⟩
            rw [hlines, hrest]
            simp

/-- Questions on one input and on a terminal that takes everything go through the lines of the
input in order: no line is skipped, joined with another one, or read twice.  A bypassed question is
approved without reading or writing anything.  Any other passes over the lines that hold no answer,
with a hint after each of them, until a line holds one, a line is damaged, or the input ends; what
it leaves is what follows upon the last line that it read.  So every approval that was asked for
comes from a line that says so. -/
theorem reads_line_by_line (calls : List Bool) (input : Bytes) :
    (lines input).flatten = input ∧
    (∀ before line after, lines input = before ++ line :: after →
      ∃ body, 10 ∉ body ∧ (line = body ++ [10] ∨ line = body ∧ body ≠ [] ∧ after = [])) ∧
    ∃ turns : List Turn, turns.map Turn.bypass = calls ∧
      turns.map Turn.asked = confirmAll .unlimited calls input ∧
      ∀ before turn after, turns = before ++ turn :: after →
        turn.Goes ∧
        lines input = before.flatMap Turn.read ++ turn.read ++ lines turn.asked.rest ∧
        (turn.bypass = false → turn.asked.result = .ok true →
          ∃ line ∈ turn.read, ∃ text, Text.strict? line = some text ∧
            Answer.ofLine? text = some true) := by
  obtain ⟨turns, hcalls, hasked, hturns⟩ := exists_turns calls input
  refine ⟨flatten_lines input, fun _ _ _ => newline_ends, turns, hcalls, hasked, ?_⟩
  intro before turn after h
  obtain ⟨hturn, hlines⟩ := hturns before turn after h
  refine ⟨hturn, hlines, fun hasks happroved => ?_⟩
  rw [Turn.Goes, if_neg (by simp [hasks])] at hturn
  exact hturn.approved happroved

end Confirmation
end ArbBundle
