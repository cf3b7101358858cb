import ArbBundle.Proofs.Confirmation.Lines

/-!
# Room — a question on a terminal that runs out of room

A terminal that takes only so many bytes shows the front of what one without a limit would show.
As long as everything fits, the two questions do not differ.  Where it does not, the question ends
with an error at the first byte that finds no room, and has read one line for each prompt that is
shown in full.

- `Confirmation.occurrences`: how often a word is found in a text
- `Confirmation.ask_limited`: a question with little room, one line at a time
- `Confirmation.Confined`: how two such questions compare; `ask_confined`
- `Confirmation.limited_matches_unlimited`: the whole comparison
-/

namespace ArbBundle
namespace Confirmation

/-! ## Prompts in what is written -/

/-- How often a word is found in a text. -/
def occurrences (word : Bytes) : Bytes → Nat
  | [] => 0
  | b :: rest => (if word <+: b :: rest then 1 else 0) + occurrences word rest

/-- The byte that a prompt begins with, and that is found nowhere else in prompt and hint. -/
def initial : UInt8 := 68

theorem prompt_eq : prompt = initial :: prompt.tail := by
  decide +kernel

theorem initial_not_mem_tail : initial ∉ prompt.tail := by
  decide +kernel

theorem initial_not_mem_hint : initial ∉ hint := by
  decide +kernel

/-- A text that is shorter than a word does not hold it. -/
theorem occurrences_of_length_lt {word text : Bytes} (h : text.length < word.length) :
    occurrences word text = 0 := by
  induction text with
  | nil =>
      rfl
  | cons b rest ih =>
      have hshort : ¬ word <+: b :: rest :=
        fun hprefix => absurd hprefix.length_le (Nat.not_le.2 h)
      rw [occurrences, if_neg hshort, ih (Nat.lt_of_succ_lt h)]

/-- No prompt begins where its first byte is not found. -/
theorem occurrences_append_of_not_mem {text : Bytes} (h : initial ∉ text) (rest : Bytes) :
    occurrences prompt (text ++ rest) = occurrences prompt rest := by
  induction text with
  | nil =>
      rfl
  | cons b text ih =>
      obtain ⟨hb, htext⟩ := not_or.1 (fun hmem => h (List.mem_cons.2 hmem))
      have hother : ¬ prompt <+: b :: (text ++ rest) := by
        rw [prompt_eq]
        exact fun hprefix => hb (List.cons_prefix_cons.1 hprefix).1
      rw [List.cons_append, occurrences, if_neg hother, Nat.zero_add, ih htext]

/-- The prompt is not found in a text without its first byte. -/
theorem occurrences_of_not_mem {text : Bytes} (h : initial ∉ text) :
    occurrences prompt text = 0 := by
  have hnothing := occurrences_append_of_not_mem h []
  rwa [List.append_nil] at hnothing

/-- A prompt in front counts as one, because no other prompt begins inside of it. -/
theorem occurrences_prompt_append (rest : Bytes) :
    occurrences prompt (prompt ++ rest) = 1 + occurrences prompt rest := by
  have hsplit : prompt ++ rest = initial :: (prompt.tail ++ rest) :=
    congrArg (· ++ rest) prompt_eq
  have hhere : prompt <+: initial :: (prompt.tail ++ rest) :=
    hsplit ▸ List.prefix_append prompt rest
  calc occurrences prompt (prompt ++ rest)
      = occurrences prompt (initial :: (prompt.tail ++ rest)) := by rw [hsplit]
    _ = 1 + occurrences prompt (prompt.tail ++ rest) := by rw [occurrences, if_pos hhere]
    _ = 1 + occurrences prompt rest := by
        rw [occurrences_append_of_not_mem initial_not_mem_tail]

/-! ## One line at a time -/

/-- A text that fits is written as a whole. -/
theorem write_of_le {room : Nat} {b : Bytes} (h : b.length ≤ room) :
    Terminal.write ⟨some room, true⟩ b = (b, some ⟨some (room - b.length), true⟩) :=
  if_pos h

/-- A text that does not fit is written as far as it does, and nothing is written behind it. -/
theorem write_of_lt {room : Nat} {b : Bytes} (h : room < b.length) :
    Terminal.write ⟨some room, true⟩ b = (b.take room, none) :=
  if_neg (Nat.not_le.2 h)

/-- A question with little room, one line at a time. -/
theorem ask_limited (room : Nat) (input : Bytes) :
    ask ⟨some room, true⟩ input =
      if room < prompt.length then ⟨.error (.io .closed), prompt.take room, input⟩
      else
        match ending? input with
        | some result => ⟨result, prompt, (splitLine input).2⟩
        | none =>
          if room < (prompt ++ hint).length then
            ⟨.error (.io .closed), (prompt ++ hint).take room, (splitLine input).2⟩
          else
            (ask ⟨some (room - (prompt ++ hint).length), true⟩ (splitLine input).2).after
              (prompt ++ hint) := by
  rw [ask_eq rfl]
  rcases Nat.lt_or_ge room prompt.length with hprompt | hprompt
  · rw [write_of_lt hprompt, if_pos hprompt]
  · rw [write_of_le hprompt, if_neg (Nat.not_lt.2 hprompt)]
    cases ending? input with
    | some result =>
        rfl
    | none =>
        dsimp only
        rcases Nat.lt_or_ge (room - prompt.length) hint.length with hhint | hhint
        · have hboth : room < (prompt ++ hint).length := by
            rw [List.length_append]
            omega
          rw [write_of_lt hhint, if_pos hboth, List.take_append, List.take_of_length_le hprompt]
        · have hboth : ¬ room < (prompt ++ hint).length := by
            rw [List.length_append]
            omega
          rw [write_of_le hhint, if_neg hboth, List.length_append, Nat.sub_add_eq]

/-! ## Two questions compared -/

/-- How a question with `room` compares with the same one without a limit. -/
structure Confined (room : Nat) (input : Bytes) (tight free : Asked) : Prop where
  output : tight.output = free.output.take room
  same : free.output.length ≤ room → tight.result = free.result ∧ tight.rest = free.rest
  cut : room < free.output.length → tight.result = .error (.io .closed) ∧
    ∃ read, lines input = read ++ lines tight.rest ∧
      read.length = occurrences prompt tight.output

namespace Confined

variable {room : Nat} {input : Bytes} {free tight : Asked}

/-- A prompt that does not fit ends the question, and no line is read for it. -/
theorem cut_prompt (h : room < prompt.length) (hfree : prompt <+: free.output) :
    Confined room input ⟨.error (.io .closed), prompt.take room, input⟩ free := by
  obtain ⟨more, hmore⟩ := hfree
  have hlength : room < free.output.length := by
    rw [← hmore, List.length_append]
    omega
  refine ⟨?_, fun hfits => absurd hfits (Nat.not_le.2 hlength), fun _ => ⟨rfl, [], rfl, ?_⟩⟩
  · rw [← hmore, List.take_append_of_le_length (Nat.le_of_lt h)]
  · have hshort : (prompt.take room).length < prompt.length := by
      rw [List.length_take]
      omega
    exact (occurrences_of_length_lt hshort).symm

/-- A question that ends behind its first prompt ends there in either case. -/
theorem ended (h : prompt.length ≤ room) (result : Except ConfirmationError Bool) (rest : Bytes) :
    Confined room input ⟨result, prompt, rest⟩ ⟨result, prompt, rest⟩ :=
  ⟨(List.take_of_length_le h).symm, fun _ => ⟨rfl, rfl⟩, fun hcut => absurd h (Nat.not_le.2 hcut)⟩

/-- A hint that does not fit ends the question behind the line that it is given for. -/
theorem cut_hint (hinput : input ≠ []) (hprompt : prompt.length ≤ room)
    (hhint : room < (prompt ++ hint).length) (hfree : prompt ++ hint <+: free.output) :
    Confined room input
      ⟨.error (.io .closed), (prompt ++ hint).take room, (splitLine input).2⟩ free := by
  obtain ⟨more, hmore⟩ := hfree
  have hlength : room < free.output.length := by
    rw [← hmore, List.length_append]
    omega
  refine ⟨?_, fun hfits => absurd hfits (Nat.not_le.2 hlength),
    fun _ => ⟨rfl, [(splitLine input).1], lines_of_ne_nil hinput, ?_⟩⟩
  · rw [← hmore, List.take_append_of_le_length (Nat.le_of_lt hhint)]
  · -- The prompt is there in full, and no other one begins in what is there of the hint.
    have hrest : initial ∉ hint.take (room - prompt.length) :=
      fun hmem => initial_not_mem_hint (List.mem_of_mem_take hmem)
    rw [List.take_append, List.take_of_length_le hprompt, occurrences_prompt_append,
      occurrences_of_not_mem hrest]
    rfl

/-- Where prompt and hint fit, the questions compare as they do behind the first line. -/
theorem behind (hinput : input ≠ []) (hroom : (prompt ++ hint).length ≤ room)
    (h : Confined (room - (prompt ++ hint).length) (splitLine input).2 tight free) :
    Confined room input (tight.after (prompt ++ hint)) (free.after (prompt ++ hint)) := by
  have hlength : (free.after (prompt ++ hint)).output.length =
      (prompt ++ hint).length + free.output.length :=
    List.length_append
  refine ⟨?_, fun hfits => h.same (by omega), fun hcut => ?_⟩
  · calc (tight.after (prompt ++ hint)).output
        = prompt ++ hint ++ free.output.take (room - (prompt ++ hint).length) := by
          rw [Asked.after, h.output]
      _ = (free.after (prompt ++ hint)).output.take room := by
          have hsplit := @List.take_append _ (prompt ++ hint) free.output room
          rw [List.take_of_length_le hroom] at hsplit
          exact hsplit.symm
  · -- One more line is read, and one more prompt is written.
    obtain ⟨hresult, read, hlines, hcount⟩ := h.cut (by omega)
    refine ⟨hresult, (splitLine input).1 :: read, ?_, ?_⟩
    · calc lines input
          = (splitLine input).1 :: lines (splitLine input).2 := lines_of_ne_nil hinput
        _ = (splitLine input).1 :: read ++ lines (tight.after (prompt ++ hint)).rest := by
            rw [hlines]
            rfl
    · calc ((splitLine input).1 :: read).length
          = 1 + occurrences prompt tight.output := by
            rw [List.length_cons, hcount, Nat.add_comm]
        _ = 1 + occurrences prompt (hint ++ tight.output) := by
            rw [occurrences_append_of_not_mem initial_not_mem_hint]
        _ = occurrences prompt (tight.after (prompt ++ hint)).output := by
            rw [Asked.after, List.append_assoc, occurrences_prompt_append]

end Confined

/-- No question is asked without a prompt. -/
theorem begins_with_prompt (input : Bytes) : prompt <+: (ask .unlimited input).output := by
  rw [ask_unlimited]
  cases ending? input with
  | some result =>
      exact List.prefix_refl prompt
  | none =>
      exact ⟨hint ++ _, (List.append_assoc _ _ _).symm⟩

/-- A question with limited room goes like the one without a limit, until the room is used up. -/
theorem ask_confined (room : Nat) (input : Bytes) :
    Confined room input (ask ⟨some room, true⟩ input) (ask .unlimited input) := by
  induction input using input_induction generalizing room with
  | h input ih =>
      rw [ask_limited]
      -- The room ends in the prompt, or the first line ends both questions, or the room ends in the
      -- hint, or both questions go on behind the first line with the room that is left.
      split
      · rename_i hprompt
        exact .cut_prompt hprompt (begins_with_prompt input)
      · rename_i hprompt
        have hprompt' : prompt.length ≤ room := Nat.not_lt.1 hprompt
        rw [ask_unlimited]
        cases hending : ending? input with
        | some result =>
            exact .ended hprompt' result _
        | none =>
            have hinput := ne_nil_of_ending? hending
            dsimp only
            split
            · rename_i hhint
              exact .cut_hint hinput hprompt' hhint (List.prefix_append _ _)
            · rename_i hhint
              exact .behind hinput (Nat.not_lt.1 hhint) (ih hending _)

/-- A question on a terminal with `room` for so many bytes writes the first bytes that the same
question writes on a terminal that takes everything.  Where there is room for all of them, it comes
to the same and reads the same.  Where there is not, it fails, and it has read just one line for
each prompt that found room.  So it comes to no answer that the other question does not come to. -/
theorem limited_matches_unlimited (room : Nat) (input : Bytes) :
    let free := ask .unlimited input
    let tight := ask ⟨some room, true⟩ input
    tight.output = free.output.take room ∧
    (free.output.length ≤ room → tight.result = free.result ∧ tight.rest = free.rest) ∧
    (room < free.output.length → tight.result = .error (.io .closed) ∧
      ∃ read, lines input = read ++ lines tight.rest ∧
        read.length = occurrences prompt tight.output) ∧
    ∀ answer, tight.result = .ok answer → free.result = .ok answer := by
  intro free tight
  have h : Confined room input tight free := ask_confined room input
  refine ⟨h.output, h.same, h.cut, fun answer hanswer => ?_⟩
  rcases Nat.lt_or_ge room free.output.length with hcut | hfits
  · -- A question that is cut off has no answer at all.
    rw [(h.cut hcut).1] at hanswer
    cases hanswer
  · rw [← (h.same hfits).1]
    exact hanswer

end Confirmation
end ArbBundle
