import ArbBundle.Shell.Pattern
import ArbBundle.Shell.Script
import ArbBundle.Text.Symbol

/-!
# Process — what a shell script works on

- `Ending`: how a process ends
- `Shell.Stop`: why the commands that follow are not run
- `Shell.Process`: the variables, files and streams of a script that is running
- `Shell.Fields`: the words that a word makes up

What is written stands the other way round, the last byte first.
-/

namespace ArbBundle

inductive Ending
  | exited (status : Nat)
  | killed (signal : Nat)
  deriving DecidableEq

namespace Ending

/-- The signals by number: their names, and what a shell says of a command that one ended. -/
def signals : List (String × String) :=
  [("HUP", "Hangup"), ("INT", ""), ("QUIT", "Quit"), ("ILL", "Illegal instruction"),
    ("TRAP", "Trace/breakpoint trap"), ("ABRT", "Aborted"), ("BUS", "Bus error"),
    ("FPE", "Floating point exception"), ("KILL", "Killed"), ("USR1", "User defined signal 1"),
    ("SEGV", "Segmentation fault"), ("USR2", "User defined signal 2"), ("PIPE", ""),
    ("ALRM", "Alarm clock"), ("TERM", "Terminated")]

def signalOf? (name : String) : Option Nat :=
  let name := if name.startsWith "SIG" then String.ofList (name.toList.drop 3) else name
  (signals.findIdx? (·.1 = name)).map (· + 1)

def message : Ending → String
  | .exited status => s!"exit status: {status}"
  | .killed signal =>
    match signals[signal - 1]? with
    | some (name, _) => s!"signal: {signal} (SIG{name})"
    | none => s!"signal: {signal}"

end Ending

namespace Shell

/-! ## Streams -/

inductive Sink
  | output
  | errors
  /-- The input of the next command of a pipeline, or the text of a word. -/
  | pipe
  | file (name : String)
  | nowhere
  deriving DecidableEq

structure Streams where
  output : Sink
  errors : Sink
  deriving DecidableEq

namespace Streams

/-- The sink of a file's name; there are no directories but the one for passing files. -/
def sinkOf? (streams : Streams) : String → Option Sink
  | "/dev/null" => some .nowhere
  | "/dev/stdout" => some streams.output
  | "/dev/stderr" => some streams.errors
  | file =>
    if file.startsWith "/tmp/" || !file.toList.contains '/' then some (.file file) else none

def turn (streams : Streams) (fd : Nat) (sink : Sink) : Streams :=
  if fd = 1 then { streams with output := sink }
  else if fd = 2 then { streams with errors := sink }
  else streams

/-- The streams with one of them going where another one goes, if there is such a one. -/
def copy? (streams : Streams) (fd other : Nat) : Option Streams :=
  match other with
  | 0 => some streams
  | 1 => some (streams.turn fd streams.output)
  | 2 => some (streams.turn fd streams.errors)
  | _ => none

end Streams

/-! ## Processes -/

inductive Stop
  | ended (how : Ending)
  /-- Some loops are left. -/
  | broken (loops : Nat)
  /-- A loop goes on with its next round, and those inside it are left. -/
  | continued (loops : Nat)
  /-- A function is left. -/
  | returned
  deriving DecidableEq

structure Process where
  /-- The number of the process. -/
  id : String
  /-- The name by which the shell speaks of itself. -/
  name : String
  environment : List (String × String)
  arguments : List String
  functions : List (String × Script)
  files : List (String × Bytes)
  input : Bytes
  output : Bytes
  errors : Bytes
  piped : Bytes
  /-- The status of the last command. -/
  status : Nat
  /-- Whether the script ends with the first command that does not end well. -/
  strict : Bool
  /-- How many loops are around the command that runs. -/
  loops : Nat
  /-- What is run when the script exits. -/
  farewell : Option String
  stop : Option Stop

namespace Process

def start (environment : List (String × String)) (files : List (String × Bytes)) : Process where
  id := "4711"
  name := "sh"
  environment := environment
  arguments := []
  functions := []
  files := files
  input := []
  output := []
  errors := []
  piped := []
  status := 0
  strict := false
  loops := 0
  farewell := none
  stop := none

def isStopped (p : Process) : Bool :=
  p.stop.isSome

def exit (p : Process) (status : Nat) : Process :=
  { p with stop := some (.ended (.exited status)) }

/-- An association with one more entry, which comes before older ones. -/
def define {α : Type} (name : String) (a : α) (entries : List (String × α)) : List (String × α) :=
  (name, a) :: entries.filter fun (n, _) => n ≠ name

def value? (p : Process) (name : String) : Option (List Char) :=
  match name with
  | "$" => some p.id.toList
  | "?" => some (Nat.toDigits 10 p.status)
  | "#" => some (Nat.toDigits 10 p.arguments.length)
  | "@" => some (" ".intercalate p.arguments).toList
  | "*" => some (" ".intercalate p.arguments).toList
  | "!" => none
  | "-" => some []
  | "0" => some p.name.toList
  | name =>
    match name.toList with
    | [c] => if c.isDigit then (p.arguments[c.toNat - 49]?).map String.toList
      else (p.environment.lookup name).map String.toList
    | _ => (p.environment.lookup name).map String.toList

def assign (p : Process) (name : String) (value : List Char) : Process :=
  { p with environment := define name (String.ofList value) p.environment }

def read? (p : Process) (file : String) : Option Bytes :=
  if file = "/dev/null" then some [] else p.files.lookup file

def write (p : Process) (b : Bytes) : Sink → Process
  | .output => { p with output := b.reverse ++ p.output }
  | .errors => { p with errors := b.reverse ++ p.errors }
  | .pipe => { p with piped := b.reverse ++ p.piped }
  | .file name =>
    { p with files := define name ((p.files.lookup name).getD [] ++ b) p.files }
  | .nowhere => p

def told (p : Process) (message : String) : String :=
  s!"{p.name}: 1: {message}"

def complain (p : Process) (message : String) (sink : Sink) : Process :=
  p.write (Text.utf8 ((p.told message).toList ++ ['\n'])) sink

def emptied (p : Process) : Sink → Process
  | .file name => { p with files := define name [] p.files }
  | _ => p

/-- A process behind a part of it that ran on its own: only the files, the streams and the status
are as that part left them, unless it was killed. -/
def rejoin (before after : Process) : Process :=
  let p := { before with
    files := after.files, input := after.input, output := after.output, errors := after.errors,
    piped := after.piped, status := after.status }
  match after.stop with
  | some (.ended (.exited status)) => { p with status }
  | some (.ended (.killed signal)) => { p with stop := some (.ended (.killed signal)) }
  | _ => p

end Process

/-! ## Words -/

/-- The words that have been made up: those that are finished, and the last one if it has begun. -/
structure Fields where
  /-- Whether blanks outside of quotes separate words. -/
  splits : Bool
  done : List (List Glyph)
  last? : Option (List Glyph)

namespace Fields

def none : Fields := ⟨true, [], .none⟩

/-- No word, and never more than one. -/
def single : Fields := ⟨false, [], .none⟩

def add (f : Fields) (cs : List Char) (quoted : Bool) : Fields :=
  { f with last? := some (f.last?.getD [] ++ cs.map fun c => ⟨c, quoted⟩) }

def close (f : Fields) : Fields :=
  { f with done := f.done ++ f.last?.toList, last? := .none }

def split (f : Fields) (cs : List Char) : Fields :=
  cs.foldl (fun f c => if c = ' ' ∨ c = '\t' ∨ c = '\n' then f.close else f.add [c] false) f

def place (f : Fields) (cs : List Char) (quoted : Bool) : Fields :=
  if quoted || !f.splits then f.add cs quoted else f.split cs

/-- The words with texts that are words of their own, except that the first one continues the last
word and the last one may be continued. -/
def placeAll (f : Fields) : List (List Char) → Fields
  | [] => f
  | [cs] => f.add cs true
  | cs :: rest => ((f.add cs true).close).placeAll rest

def all (f : Fields) : List (List Glyph) :=
  f.close.done

end Fields

/-- The words that a word stands for: the names of files that it fits if it is a pattern and fits
any, and otherwise itself. -/
def Process.matching (p : Process) (word : List Glyph) : List (List Char) :=
  let isHidden (name : List Char) : Bool := name.head? == some '.'
  let isShown (name : List Char) : Bool :=
    !isHidden name || word.head?.any fun g => g.char == '.'
  let names := (p.files.map Prod.fst).filter fun name =>
    !name.toList.contains '/' && isShown name.toList && Pattern.fits word name.toList
  if Pattern.isPattern word && !names.isEmpty then
    (names.mergeSort fun a b => !(b < a)).map String.toList
  else [textOf word]

end Shell
end ArbBundle
