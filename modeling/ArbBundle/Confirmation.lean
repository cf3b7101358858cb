import ArbBundle.Text.LowerCase
import ArbBundle.Text.Blank
import ArbBundle.Text.Symbol

/-!
# Confirmation — asking before anything is sent

- `Answer.ofLine?`: the answer in a line, if it holds one
- `Terminal`: where the prompt is written; it may run out of room, and may fail to flush
- `Confirmation.ask`: prompts and reads lines until one holds an answer
- `Confirmation.confirm`: the same, unless the question is bypassed

Lines that hold no answer are passed over with a hint.  What has been read is gone, so several
questions share one input without reading a line twice.
-/

namespace ArbBundle

/-- The answer in a line: `y` or `yes`, `n` or `no`, in any case and between blanks. -/
def Answer.ofLine? (line : List Char) : Option Bool :=
  match Text.lower (Text.trim line) with
  | ['y'] => some true
  | ['y', 'e', 's'] => some true
  | ['n'] => some false
  | ['n', 'o'] => some false
  | _ => none

/-- What can go wrong between the program and its user. -/
inductive TerminalFault
  /-- No more bytes can be written. -/
  | closed
  /-- What was written cannot be shown. -/
  | flush
  /-- A line that was read is not UTF-8. -/
  | notUtf8
  deriving DecidableEq

def TerminalFault.message : TerminalFault → String
  | .closed => "closed"
  | .flush => "flush failed"
  | .notUtf8 => "stream did not contain valid UTF-8"

inductive ConfirmationError
  | io (fault : TerminalFault)
  /-- The input ended before a line held an answer. -/
  | closed
  deriving DecidableEq

def ConfirmationError.message : ConfirmationError → String
  | .io fault => s!"confirmation prompt I/O failed: {fault.message}"
  | .closed => "input closed before a decision was made"

/-- Where the prompt is written. -/
structure Terminal where
  /-- How many more bytes can be written; without a limit where absent. -/
  room : Option Nat
  /-- Whether what was written can be shown. -/
  flushes : Bool
  deriving DecidableEq

namespace Terminal

/-- A terminal that takes everything. -/
def unlimited : Terminal := ⟨none, true⟩

/-- The bytes of a text that fit, and the terminal behind them unless some did not fit. -/
def write (t : Terminal) (b : Bytes) : Bytes × Option Terminal :=
  match t.room with
  | none => (b, some t)
  | some n =>
    if b.length ≤ n then (b, some { t with room := some (n - b.length) }) else (b.take n, none)

end Terminal

namespace Confirmation

def prompt : Bytes :=
  Text.utf8 "Do you want to proceed? (y/n): ".toList

def hint : Bytes :=
  Text.utf8 "Invalid input. Please type 'y' or 'n'.\n".toList

/-- The first line of the input with its newline, and what follows it. -/
def splitLine : Bytes → Bytes × Bytes
  | [] => ([], [])
  | b :: rest =>
    if b = 10 then ([b], rest)
    else
      let (line, rest') := splitLine rest
      (b :: line, rest')

/-- How a question ended, what it wrote, and the input it left. -/
structure Asked where
  result : Except ConfirmationError Bool
  output : Bytes
  rest : Bytes

/-- A question that wrote `before` first. -/
def Asked.after (before : Bytes) (a : Asked) : Asked :=
  { a with output := before ++ a.output }

/-- Cutting a line off loses no byte of the input. -/
theorem length_splitLine (input : Bytes) :
    (splitLine input).1.length + (splitLine input).2.length = input.length := by
  induction input with
  | nil => rfl
  | cons b rest ih =>
    simp only [splitLine]
    split
    · simp; omega
    · simp only [List.length_cons]; omega

theorem splitLine_fst_ne_nil {input : Bytes} (h : input ≠ []) : (splitLine input).1 ≠ [] := by
  cases input with
  | nil => exact absurd rfl h
  | cons b rest =>
    simp only [splitLine]
    split <;> simp

/-- What is left behind a line is shorter than the input, so that a question comes to its end. -/
theorem length_splitLine_snd {input : Bytes} (h : input ≠ []) :
    (splitLine input).2.length < input.length := by
  have hl := length_splitLine input
  have hn := List.length_pos_iff.2 (splitLine_fst_ne_nil h)
  omega

/-- Prompts and reads lines until one holds an answer. -/
def ask (t : Terminal) (input : Bytes) : Asked :=
  match t.write prompt with
  | (written, none) => ⟨.error (.io .closed), written, input⟩
  | (written, some t) =>
    if !t.flushes then ⟨.error (.io .flush), written, input⟩
    else if h : input = [] then ⟨.error .closed, written, []⟩
    else
      let rest := (splitLine input).2
      match Text.strict? (splitLine input).1 with
      | none => ⟨.error (.io .notUtf8), written, rest⟩
      | some line =>
        match Answer.ofLine? line with
        | some answer => ⟨.ok answer, written, rest⟩
        | none =>
          match t.write hint with
          | (hinted, none) => ⟨.error (.io .closed), written ++ hinted, rest⟩
          | (hinted, some t) =>
            have : rest.length < input.length := length_splitLine_snd h
            (ask t rest).after (written ++ hinted)
termination_by input.length

/-- Asks, unless the question is bypassed. -/
def confirm (bypass : Bool) (t : Terminal) (input : Bytes) : Asked :=
  if bypass then ⟨.ok true, [], input⟩ else ask t input

end Confirmation
end ArbBundle
