import ArbBundle.Shell.Condition

/-!
# Builtin — the commands that a shell script can call

- `Shell.Answer`: what a command writes, and how it leaves the process
- `Builtin.echo`, `Builtin.printf`, `Builtin.cat`, `Builtin.head`: commands that write
- `Builtin.test`, `Builtin.exit`, `Builtin.kill`: commands that decide
- `Builtin.read`, `Builtin.set`: commands that work on the variables and the arguments
- `Builtin.call`: a command by its name
-/

namespace ArbBundle
namespace Shell

/-- What a command writes, and how it leaves the process. -/
structure Answer where
  output : Bytes
  errors : Bytes
  process : Process

namespace Builtin

/-! ## Answers -/

def bytesOf (cs : List Char) : Bytes :=
  Text.utf8 cs

def silent (p : Process) (status : Nat) : Answer :=
  ⟨[], [], { p with status }⟩

def speak (p : Process) (output : Bytes) : Answer :=
  ⟨output, [], { p with status := 0 }⟩

def reports (p : Process) (status : Nat) (message : String) : Answer :=
  ⟨[], bytesOf message.toList ++ [10], { p with status }⟩

def complains (p : Process) (status : Nat) (message : String) : Answer :=
  reports p status (p.told message)

def gives (p : Process) (message : String) : Answer :=
  reports (p.exit 2) 2 (p.told message)

/-! ## Escapes -/

/-- The byte of up to `count` octal digits, and what follows them. -/
def octal : (count : Nat) → (value : Nat) → List Char → Nat × List Char
  | count + 1, value, c :: cs =>
    if '0' ≤ c ∧ c ≤ '7' then octal count (value * 8 + (c.toNat - 48)) cs else (value, c :: cs)
  | _, value, cs => (value, cs)

def letter? : Char → Option UInt8
  | 'a' => some 7
  | 'b' => some 8
  | 'f' => some 12
  | 'n' => some 10
  | 'r' => some 13
  | 't' => some 9
  | 'v' => some 11
  | '\\' => some 92
  | _ => none

/-- The bytes of a text with escapes, and whether it asks to stop there; a byte is written in octal
digits behind a leading zero. -/
def unescape : (length : Nat) → List Char → Bytes × Bool
  | 0, _ => ([], false)
  | _, [] => ([], false)
  | _, '\\' :: 'c' :: _ => ([], true)
  | n + 1, '\\' :: '0' :: cs =>
    let (value, rest) := octal 3 0 cs
    let (b, stop) := unescape n rest
    (UInt8.ofNat value :: b, stop)
  | n + 1, '\\' :: c :: cs =>
    let (b, stop) := unescape n cs
    match letter? c with
    | some byte => (byte :: b, stop)
    | none => (bytesOf ['\\', c] ++ b, stop)
  | n + 1, c :: cs =>
    let (b, stop) := unescape n cs
    (bytesOf [c] ++ b, stop)

/-! ## Commands that write -/

def echo (p : Process) (args : List (List Char)) : Answer :=
  let (words, ended) := match args with
    | ['-', 'n'] :: rest => (rest, false)
    | args => (args, true)
  let text := List.intercalate [' '] words
  let (b, stop) := unescape text.length text
  speak p (if ended && !stop then b ++ [10] else b)

def justified (left : Bool) (fill : Char) (width : Nat) (cs : List Char) : List Char :=
  let gap := List.replicate (width - cs.length) fill
  if left then cs ++ List.replicate (width - cs.length) ' ' else gap ++ cs

def convert (kind : Char) (arg : List Char) : List Char :=
  let n := (Decimal.signed64? arg).getD 0
  match kind with
  | 'd' => (toString n).toList
  | 'i' => (toString n).toList
  | 'u' => Nat.toDigits 10 n.toNat
  | 'x' => Nat.toDigits 16 n.toNat
  | 'o' => Nat.toDigits 8 n.toNat
  | 'c' => arg.take 1
  | _ => arg

/-- The flags, the width and the letter of a conversion, and what follows it. -/
def conversion? (cs : List Char) : Option (Bool × Char × Nat × Char × List Char) :=
  let flags := cs.takeWhile fun c => c = '-' || c = '0'
  let rest := cs.dropWhile fun c => c = '-' || c = '0'
  let width := Decimal.numberOf (rest.takeWhile Char.isDigit)
  match rest.dropWhile Char.isDigit with
  | kind :: rest =>
    some (flags.contains '-', if flags.contains '0' then '0' else ' ', width, kind, rest)
  | [] => none

/-- The bytes of a format for some words, and the words that are left. -/
def formatted : (length : Nat) → List Char → List (List Char) → Bytes × List (List Char)
  | 0, _, args => ([], args)
  | _, [], args => ([], args)
  | n + 1, '\\' :: c :: cs, args =>
    if '0' ≤ c ∧ c ≤ '7' then
      let (value, rest) := octal 3 0 (c :: cs)
      let (b, left) := formatted n rest args
      (UInt8.ofNat value :: b, left)
    else
      let (b, left) := formatted n cs args
      match letter? c with
      | some byte => (byte :: b, left)
      | none => (bytesOf (if c = '"' ∨ c = '\'' then [c] else ['\\', c]) ++ b, left)
  | n + 1, '%' :: '%' :: cs, args =>
    let (b, left) := formatted n cs args
    (37 :: b, left)
  | n + 1, '%' :: cs, args =>
    match conversion? cs with
    | none => ([37], args)
    | some (left, fill, width, kind, rest) =>
      let arg := args.headD []
      let shown := if kind = 'b' then (unescape arg.length arg).1
        else bytesOf (justified left fill width (convert kind arg))
      let (b, more) := formatted n rest args.tail
      (shown ++ b, more)
  | n + 1, c :: cs, args =>
    let (b, left) := formatted n cs args
    (bytesOf [c] ++ b, left)

/-- The bytes of a format, over and over while it uses up words. -/
def repeated (format : List Char) (args : List (List Char)) : Bytes :=
  match _h : formatted format.length format args with
  | (b, left) =>
    if left ≠ [] ∧ left.length < args.length then b ++ repeated format left else b
termination_by args.length

def printf (p : Process) : List (List Char) → Answer
  | [] => complains p 2 "printf: usage: printf format [arg ...]"
  | format :: args => speak p (repeated format args)

/-- What files hold, one after the other; a file that is not there is complained of. -/
def cat (p : Process) (args : List (List Char)) : Answer :=
  let args := if args.isEmpty then [['-']] else args
  args.foldl (fun (a : Answer) arg =>
    if arg = ['-'] then
      { a with output := a.output ++ a.process.input, process := { a.process with input := [] } }
    else
      match a.process.read? (String.ofList arg) with
      | some b => { a with output := a.output ++ b }
      | none =>
        let message := "cat: ".toList ++ arg ++ ": No such file or directory\n".toList
        { a with errors := a.errors ++ bytesOf message, process := { a.process with status := 1 } })
    (speak p [])

/-- The count of a command that shows the front of something: of bytes, or else of lines. -/
def frontOf : List (List Char) → Bool × Nat × List (List Char)
  | ['-', 'c'] :: n :: rest => (true, Decimal.numberOf n, rest)
  | ['-', 'n'] :: n :: rest => (false, Decimal.numberOf n, rest)
  | ('-' :: 'c' :: n) :: rest => (true, Decimal.numberOf n, rest)
  | ('-' :: 'n' :: n) :: rest => (false, Decimal.numberOf n, rest)
  | ('-' :: n) :: rest => (false, Decimal.numberOf n, rest)
  | rest => (false, 10, rest)

def firstLines : (count : Nat) → Bytes → Bytes
  | 0, _ => []
  | _, [] => []
  | count + 1, b :: bs => b :: firstLines (if b = 10 then count else count + 1) bs

/-- The front of a file, or of the input, which is used up. -/
def head (p : Process) (args : List (List Char)) : Answer :=
  let (ofBytes, count, files) := frontOf args
  let front (b : Bytes) : Bytes := if ofBytes then b.take count else firstLines count b
  match files with
  | [] => speak { p with input := [] } (front p.input)
  | file :: _ =>
    if ofBytes ∧ file = "/dev/zero".toList then speak p (List.replicate count 0)
    else
      match p.read? (String.ofList file) with
      | some b => speak p (front b)
      | none =>
        let name := String.ofList file
        reports p 1 s!"head: cannot open '{name}' for reading: No such file or directory"

def seq (p : Process) (args : List (List Char)) : Answer :=
  let numbers := args.map fun a => (Decimal.signed64? a).getD 0
  let (first, step, last) : Int × Int × Int := match numbers with
    | [last] => (1, 1, last)
    | [first, last] => (first, 1, last)
    | first :: step :: last :: _ => (first, step, last)
    | [] => (1, 1, 0)
  let count := if step = 0 then 0 else (Int.fdiv (last - first) step + 1).toNat
  let line (k : Nat) : List Char := (toString (first + step * (k : Int))).toList ++ ['\n']
  speak p (bytesOf ((List.range count).flatMap line))

def wc (p : Process) (args : List (List Char)) : Answer :=
  let count := if args.head? = some ['-', 'l'] then p.input.count 10 else p.input.length
  speak { p with input := [] } (bytesOf s!"{count}\n".toList)

def printenv (p : Process) (args : List (List Char)) : Answer :=
  match args.head?.bind fun name => p.environment.lookup (String.ofList name) with
  | some value => speak p (bytesOf (value.toList ++ ['\n']))
  | none => silent p 1

/-! ## Commands that decide -/

def test (p : Process) (name : String) (args : List (List Char)) : Answer :=
  match Condition.holds p args with
  | .ok b => silent p (if b then 0 else 1)
  | .error fault => complains p 2 s!"{name}: {fault.message}"

def bracket (p : Process) (args : List (List Char)) : Answer :=
  if args.getLast? = some [']'] then test p "[" args.dropLast
  else complains p 2 "[: missing ]"

/-- Ends the process with a status, or with that of the last command. -/
def exit (p : Process) : List (List Char) → Answer
  | [] => ⟨[], [], p.exit p.status⟩
  | arg :: _ =>
    match Decimal.digits? arg with
    | some n => ⟨[], [], p.exit (n % 256)⟩
    | none =>
      gives p s!"exit: Illegal number: {String.ofList arg}"

def signal? (s : List Char) : Option Nat :=
  match Decimal.digits? s with
  | some n => some n
  | none => Ending.signalOf? (String.ofList s)

/-- Signals that a process passes over. -/
def isPassedOver (signal : Nat) : Bool :=
  [0, 17, 18, 23, 28].contains signal

/-- Sends a signal to a process; only this one can be reached. -/
def kill (p : Process) (args : List (List Char)) : Answer :=
  let (signal, targets) : Option Nat × List (List Char) := match args with
    | ['-', 's'] :: name :: rest => (signal? name, rest)
    | ('-' :: name) :: rest => (signal? name, rest)
    | args => (some 15, args)
  match signal with
  | none => complains p 2 "kill: invalid signal number or name"
  | some signal =>
    if targets = [p.id.toList] then
      if isPassedOver signal then silent p 0
      else ⟨[], [], { p with stop := some (.ended (.killed signal)) }⟩
    else complains p 1 "kill: No such process"

def leave (p : Process) (stop : Nat → Stop) (args : List (List Char)) : Answer :=
  let loops := min p.loops ((args.head?.bind Decimal.digits?).getD 1)
  if loops = 0 then silent p 0
  else ⟨[], [], { p with stop := some (stop loops), status := 0 }⟩

def leaveFunction (p : Process) (args : List (List Char)) : Answer :=
  let status := ((args.head?.bind Decimal.digits?).map (· % 256)).getD p.status
  ⟨[], [], { p with stop := some .returned, status }⟩

/-! ## Commands that work on variables -/

def exported (p : Process) (args : List (List Char)) : Process :=
  args.foldl (fun p arg =>
    match arg.dropWhile (· ≠ '=') with
    | _ :: value => p.assign (String.ofList (arg.takeWhile (· ≠ '='))) value
    | [] => p) p

def unset (p : Process) (args : List (List Char)) : Process :=
  { p with environment := p.environment.filter fun (name, _) => !args.contains name.toList }

def isBlank (c : Char) : Bool :=
  c == ' ' || c == '\t'

/-- Sets variables to the words of a line; the last one takes what the others leave. -/
def shared (p : Process) : List (List Char) → List Char → Process
  | [], _ => p
  | [name], line =>
    let kept := line.dropWhile isBlank
    p.assign (String.ofList name) (kept.reverse.dropWhile isBlank).reverse
  | name :: names, line =>
    let kept := line.dropWhile isBlank
    let word := kept.takeWhile fun c => !isBlank c
    shared (p.assign (String.ofList name) word) names (kept.drop word.length)

/-- Reads a line of the input into variables; it ends badly if the line does not end. -/
def read (p : Process) (args : List (List Char)) : Answer :=
  let line := p.input.takeWhile (· ≠ 10)
  let p' := { p with input := p.input.drop (line.length + 1) }
  let names := args.filter (· ≠ ['-', 'r'])
  silent (shared p' names (Text.lossy line)) (if line.length < p.input.length then 0 else 1)

/-- Sets the arguments, or says whether the script ends with the first command that fails. -/
def set (p : Process) : List (List Char) → Answer
  | ['-', '-'] :: args => silent { p with arguments := args.map String.ofList } 0
  | ('-' :: letters) :: args =>
    let p := if letters.contains 'e' then { p with strict := true } else p
    match letters.contains 'o', args with
    | true, name :: _ => gives p s!"set: Illegal option -o {String.ofList name}"
    | _, args => set p args
  | ('+' :: letters) :: args =>
    set (if letters.contains 'e' then { p with strict := false } else p) args
  | [] => silent p 0
  | args => silent { p with arguments := args.map String.ofList } 0

/-- Goes to a directory; only those that are always there are known. -/
def cd (p : Process) (args : List (List Char)) : Answer :=
  let directory := String.ofList (args.headD ['/'])
  if ["/", ".", "/tmp", "/dev"].contains directory then silent p 0
  else complains p 2 s!"cd: can't cd to {directory}"

def shift (p : Process) (args : List (List Char)) : Answer :=
  let count := (args.head?.bind Decimal.digits?).getD 1
  if p.arguments.length < count then gives p "shift: can't shift that many"
  else silent { p with arguments := p.arguments.drop count } 0

def trap (p : Process) : List (List Char) → Process
  | [action, signal] =>
    let isExit : Bool := signal == ['0'] || signal == "EXIT".toList
    if isExit then { p with farewell := some (String.ofList action) } else p
  | _ => p

/-! ## All commands -/

def call (p : Process) (name : List Char) (args : List (List Char)) : Answer :=
  match String.ofList name with
  | "true" => silent p 0
  | ":" => silent p 0
  | "sleep" => silent p 0
  | "wait" => silent p 0
  | "false" => silent p 1
  | "echo" => echo p args
  | "printf" => printf p args
  | "cat" => cat p args
  | "head" => head p args
  | "seq" => seq p args
  | "wc" => wc p args
  | "printenv" => printenv p args
  | "test" => test p "test" args
  | "[" => bracket p args
  | "exit" => exit p args
  | "kill" => kill p args
  | "break" => leave p .broken args
  | "continue" => leave p .continued args
  | "return" => leaveFunction p args
  | "export" => silent (exported p args) 0
  | "unset" => silent (unset p args) 0
  | "read" => read p args
  | "set" => set p args
  | "cd" => cd p args
  | "shift" => shift p args
  | "trap" => silent (trap p args) 0
  | name => complains p 127 s!"{name}: not found"

end Builtin
end Shell
end ArbBundle
