import ArbBundle.Shell.Arithmetic
import ArbBundle.Shell.Builtin
import ArbBundle.Shell.Grammar

/-!
# Run — running a shell script

- `Task`: something that a running script does
- `Task.place`, `Task.words`: putting values in the places of the parts of words
- `Task.within`: a task with redirections
- `Task.call`: a command with its arguments
- `Task.script`: a script
- `Shell.run`: a script from its text to its end, with what it wrote

Constructs may be nested only so deep, and loops take only so many rounds.
-/

namespace ArbBundle
namespace Shell

abbrev Task (α : Type) := StateM Process α

abbrev Runner := Streams → Script → Task Unit

namespace Task

def fail (streams : Streams) (message : String) : Task Unit :=
  modify fun p => (p.complain message streams.errors).exit 2

/-! ## Whole texts -/

/-- The scripts of a text, one after the other, and then the fault in it if it has one. -/
def runText (run : Runner) (streams : Streams) (text : List Char) : Task Unit := do
  let (scripts, fault?) := Grammar.lines text
  scripts.forM (run streams)
  if let some fault := fault? then
    unless (← get).isStopped do fail streams fault.message

/-- What is left to do when a script has come to its end, unless it was killed. -/
def sayFarewell (run : Runner) (streams : Streams) : Task Unit := do
  let p ← get
  let ending : Ending := match p.stop with
    | some (.ended how) => how
    | _ => .exited p.status
  set { p with stop := some (.ended ending) }
  match ending, p.farewell with
  | .exited status, some action =>
    set { p with stop := none, farewell := none, status }
    runText run streams action.toList
    unless (← get).isStopped do modify fun p => p.exit status
  | _, _ => return

def apart (run : Runner) (streams : Streams) (body : Script) : Task Unit := do
  let before ← get
  set { before with loops := 0, farewell := none }
  run streams body
  sayFarewell run streams
  modify before.rejoin

/-! ## Words -/

/-- What commands write, without the line ends at its end. -/
def captured (run : Runner) (streams : Streams) (body : Script) : Task (List Char) := do
  let before ← get
  modify fun p => { p with piped := [] }
  apart run { streams with output := .pipe } body
  let after ← get
  set { after with piped := before.piped }
  return Text.lossy (after.piped.dropWhile (· = 10)).reverse

/-- Puts a value in the place of a part of a word; `depth` bounds how deep words stand in words. -/
def place (run : Runner) (streams : Streams) : (depth : Nat) → Fields → Piece → Task Fields
  | 0, f, _ => return f
  | depth + 1, f, piece => do
    let p ← get
    match piece with
    | .literal s quoted => return f.add s quoted
    | .output body quoted => return f.place (← captured run streams body) quoted
    | .number e quoted =>
      match Arithmetic.value? (fun name => (p.value? name).getD []) e with
      | some n => return f.place (toString n).toList quoted
      | none =>
        let shown := String.ofList e
        fail streams s!"arithmetic expression: expecting primary: \"{shown}\""
        return f
    | .value name use quoted =>
      let value? := p.value? name
      let isGiven (filled : Bool) : Bool := value?.any fun cs => !filled || cs ≠ []
      let value := value?.getD []
      let inside (word : Word) : Task (List Glyph) := do
        return (← word.foldlM (place run streams depth) Fields.single).all.flatten
      let another (word : Word) : Task Fields := do
        if quoted then return f.add (textOf (← inside word)) true
        else word.foldlM (place run streams depth) f
      match use with
      | .whole =>
        if name = "@" ∧ quoted then return f.placeAll (p.arguments.map String.toList)
        else return f.place value quoted
      | .length => return f.place (Nat.toDigits 10 value.length) quoted
      | .orElse filled keeps word =>
        if isGiven filled then return f.place value quoted
        else if keeps then
          let text := textOf (← inside word)
          modify fun p => p.assign name text
          return f.place text quoted
        else another word
      | .orFail filled word =>
        if isGiven filled then return f.place value quoted
        else
          let text := String.ofList (textOf (← inside word))
          let reason := if text.isEmpty then "parameter not set" else text
          fail streams s!"{name}: {reason}"
          return f
      | .instead filled word => if isGiven filled then another word else return f
      | .strip atEnd longest pattern =>
        return f.place (Pattern.strip atEnd longest (← inside pattern) value) quoted

def wordDepth : Nat := 100

def whole (run : Runner) (streams : Streams) (word : Word) : Task (List Glyph) := do
  return (← word.foldlM (place run streams wordDepth) Fields.single).all.flatten

def text (run : Runner) (streams : Streams) (word : Word) : Task String := do
  return String.ofList (textOf (← whole run streams word))

def words (run : Runner) (streams : Streams) (ws : List Word) : Task (List (List Char)) := do
  let fields ← ws.mapM fun w => w.foldlM (place run streams wordDepth) Fields.none
  let p ← get
  return fields.flatMap fun f => f.all.flatMap p.matching

/-! ## Redirections -/

def refuse (streams : Streams) (message : String) : Task (Option Streams) := do
  modify fun p => { p.complain message streams.errors with status := 2 }
  return none

/-- The streams with one of them going to a file, which `prepare` works on. -/
def toFile (streams : Streams) (fd : Nat) (name : String) (prepare : Process → Sink → Process) :
    Task (Option Streams) := do
  match streams.sinkOf? name with
  | some sink =>
    modify fun p => prepare p sink
    return streams.turn fd sink
  | none => refuse streams s!"cannot create {name}: Directory nonexistent"

def redirect (run : Runner) (streams : Streams) : Redirect → Task (Option Streams)
  | .copy fd other => do
    match streams.copy? fd other with
    | some streams => return streams
    | none => refuse streams s!"{other}: Bad file descriptor"
  | .close fd => return streams.turn fd .nowhere
  | .write fd file => do toFile streams fd (← text run streams file) Process.emptied
  | .append fd file => do toFile streams fd (← text run streams file) fun p => p.write []
  | .here body => do
    let input := Text.utf8 (textOf (← whole run streams body))
    modify fun p => { p with input }
    return streams
  | .read file => do
    let name ← text run streams file
    match (← get).read? name with
    | some input =>
      modify fun p => { p with input }
      return streams
    | none => refuse streams s!"cannot open {name}: No such file"

def redirectAll (run : Runner) (streams : Streams) : List Redirect → Task (Option Streams)
  | [] => return streams
  | r :: rest => do
    match ← redirect run streams r with
    | some streams => redirectAll run streams rest
    | none => return none

def isFed : Redirect → Bool
  | .read _ => true
  | .here _ => true
  | _ => false

/-- A task with redirections, behind which the input is as before. -/
def within (run : Runner) (streams : Streams) (redirects : List Redirect)
    (work : Streams → Task Unit) : Task Unit := do
  let before ← get
  if let some inner ← redirectAll run streams redirects then
    unless (← get).isStopped do work inner
  if redirects.any isFed then modify fun p => { p with input := before.input }

/-! ## Commands -/

def anotherShell (run : Runner) (streams : Streams) (args : List (List Char)) : Task Unit := do
  let before ← get
  let (text, name, arguments) := match args with
    | ['-', 'c'] :: text :: name :: arguments => (text, name, arguments)
    | ['-', 'c'] :: text :: _ => (text, ['s', 'h'], [])
    | _ => ([], ['s', 'h'], [])
  let fresh := Process.start before.environment before.files
  set { fresh with
    id := before.id ++ "0", name := String.ofList name,
    arguments := arguments.map String.ofList, input := before.input,
    output := before.output, errors := before.errors, piped := before.piped }
  runText run streams text
  sayFarewell run streams
  let after ← get
  match after.stop with
  | some (.ended (.killed signal)) =>
    let told := (Ending.signals[signal - 1]?.map Prod.snd).getD ""
    let lineEnd := if told.isEmpty then "" else "\n"
    let after := after.write (Text.utf8 (told ++ lineEnd).toList) streams.errors
    set (before.rejoin { after with status := 128 + signal, stop := none })
  | _ => set (before.rejoin after)

def callFunction (run : Runner) (streams : Streams) (body : Script) (args : List (List Char)) :
    Task Unit := do
  let before ← get
  set { before with arguments := args.map String.ofList, loops := 0 }
  run streams body
  modify fun p => { p with
    arguments := before.arguments, loops := before.loops,
    stop := if p.stop = some .returned then none else p.stop }

def callCommand (run : Runner) (streams : Streams) (name : List Char) (args : List (List Char)) :
    Task Unit := do
  if name = ['s', 'h'] then anotherShell run streams args
  else
    let a := Builtin.call (← get) name args
    set ((a.process.write a.output streams.output).write a.errors streams.errors)

def call (run : Runner) (streams : Streams) (name : List Char) (args : List (List Char)) :
    Task Unit := do
  match (← get).functions.lookup (String.ofList name) with
  | some body => callFunction run streams body args
  | none =>
    match String.ofList name, args with
    | "eval", args => runText run streams (List.intercalate [' '] args)
    | "exec", name :: args =>
      callCommand run streams name args
      unless (← get).isStopped do modify fun p => p.exit p.status
    | "exec", [] => return
    | "command", name :: args => callCommand run streams name args
    | _, args => callCommand run streams name args

/-- A command with variables set for it alone; without a command they stay set. -/
def callWith (run : Runner) (streams : Streams) (values : List (String × List Char))
    (fields : List (List Char)) : Task Unit := do
  let before ← get
  modify fun p => values.foldl (fun p (name, value) => p.assign name value) p
  match fields with
  | [] => return
  | name :: args =>
    call run streams name args
    unless values.isEmpty do modify fun p => { p with environment := before.environment }

/-! ## Scripts -/

/-- Ends a strict script whose last command did not end well, unless it was a test. -/
def strictly (tested : Bool) : Task Unit :=
  modify fun p =>
    if p.strict && !tested && p.status != 0 && !p.isStopped then p.exit p.status else p

def goesOn : Task Bool := do
  let p ← get
  match p.stop with
  | none => return true
  | some (.broken loops) =>
    set { p with stop := if loops ≤ 1 then none else some (.broken (loops - 1)) }
    return false
  | some (.continued loops) =>
    set { p with stop := if loops ≤ 1 then none else some (.continued (loops - 1)) }
    return loops ≤ 1
  | some _ => return false

def inLoop (work : Task Unit) : Task Unit := do
  modify fun p => { p with loops := p.loops + 1, status := 0 }
  work
  modify fun p => { p with loops := p.loops - 1 }

/-- Rounds of a loop until one says that it was the last. -/
def rounds (round : Task Bool) : (limit : Nat) → Task Unit
  | 0 => return
  | limit + 1 => do if ← round then rounds round limit

def roundLimit : Nat := 1000000

def forWords (round : List Char → Task Bool) : List (List Char) → Task Unit
  | [] => return
  | w :: ws => do if ← round w then forWords round ws

def branchFor (fits : Word → Task Bool) : List (List Word × Script) → Task (Option Script)
  | [] => return none
  | (patterns, body) :: rest => do
    if ← patterns.anyM fits then return some body else branchFor fits rest

def piped (run : Runner) (streams : Streams) (first second : Script) : Task Unit := do
  let before ← get
  modify fun p => { p with piped := [] }
  apart run { streams with output := .pipe } first
  let left ← get
  unless left.isStopped do
    modify fun p => { p with
      input := left.piped.reverse, piped := before.piped, status := before.status }
    apart run streams second
  modify fun p => { p with input := left.input }

def holdsCommands (w : Word) : Bool :=
  w.any fun piece => match piece with
    | .output .. => true
    | _ => false

/-- A script, with at most `depth` constructs around each other; `tested` if it decides what is run
behind it. -/
def script : (depth : Nat) → (tested : Bool) → Runner
  | 0, _, streams, _ => fail streams "Maximum function recursion depth reached"
  | depth + 1, tested, streams, s => do
    if (← get).isStopped then return
    let run : Runner := script depth tested
    let test : Runner := script depth true
    match s with
    | .nothing => return
    | .simple assignments ws redirects =>
      let fields ← words run streams ws
      let values ← assignments.mapM fun (name, w) => do
        return (name, textOf (← whole run streams w))
      if fields.isEmpty && !(ws ++ assignments.map Prod.snd).any holdsCommands then
        modify fun p => { p with status := 0 }
      unless (← get).isStopped do
        within run streams redirects fun streams => callWith run streams values fields
      strictly tested
    | .sequence first second =>
      run streams first
      run streams second
    | .both first second =>
      test streams first
      if (← get).status = 0 then run streams second
    | .either first second =>
      test streams first
      if (← get).status ≠ 0 then run streams second
    | .pipe first second =>
      piped run streams first second
      strictly tested
    | .negation body =>
      test streams body
      modify fun p => if p.isStopped then p else { p with status := if p.status = 0 then 1 else 0 }
    | .background body =>
      apart test streams body
      modify fun p => { p with status := 0 }
    | .subshell body =>
      apart run streams body
      strictly tested
    | .redirected body redirects => within run streams redirects fun streams => run streams body
    | .choice t yes no =>
      test streams t
      if (← get).status = 0 then run streams yes
      else
        unless (← get).isStopped do modify fun p => { p with status := 0 }
        run streams no
    | .loop wellWanted t body =>
      inLoop (rounds (do
        let last := (← get).status
        test streams t
        let p ← get
        if p.isStopped then goesOn
        else if (p.status == 0) == wellWanted then
          run streams body
          goesOn
        else
          set { p with status := last }
          return false) roundLimit)
    | .forEach name ws body =>
      let values ← match ws with
        | some ws => words run streams ws
        | none => pure ((← get).arguments.map String.toList)
      inLoop (forWords (fun w => do
        modify fun p => p.assign name w
        run streams body
        goesOn) values)
    | .select subject branches =>
      let text := textOf (← whole run streams subject)
      let fits (pattern : Word) : Task Bool := do
        return Pattern.fits (← whole run streams pattern) text
      match ← branchFor fits branches with
      | some body =>
        modify fun p => { p with status := 0 }
        run streams body
      | none => modify fun p => { p with status := 0 }
    | .function name body =>
      modify fun p =>
        { p with functions := Process.define name body p.functions, status := 0 }

end Task

/-! ## Whole scripts -/

structure Finished where
  output : Bytes
  errors : Bytes
  ending : Ending
  deriving DecidableEq

/-- How deep the constructs of a script may be nested while it runs. -/
def depthLimit : Nat := 10000

def run (text : String) (environment : List (String × String)) (files : List (String × Bytes)) :
    Finished :=
  let runner : Runner := Task.script depthLimit false
  let streams : Streams := ⟨.output, .errors⟩
  let task : Task Unit := do
    Task.runText runner streams text.toList
    Task.sayFarewell runner streams
  let (_, p) := task.run (Process.start environment files)
  let ending : Ending := match p.stop with
    | some (.ended how) => how
    | _ => .exited p.status
  ⟨p.output.reverse, p.errors.reverse, ending⟩

end Shell
end ArbBundle
