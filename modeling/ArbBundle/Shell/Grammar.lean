import ArbBundle.Shell.Script

/-!
# Grammar — the script that a text writes

- `Fault`: why a text is no script
- `Parse`: reads something off the front of a text, or says what is wrong with it
- `Grammar.word`, `Grammar.redirect`, `Grammar.simpleCommand`: commands without commands in them
- `Grammar.command`, `Grammar.pipeline`, `Grammar.conditional`, `Grammar.commands`: all others
- `Grammar.lines`: the scripts on the lines of a text, up to the first fault

Each construct is told by the word or sign that it begins with, so nothing is read twice.
-/

namespace ArbBundle
namespace Shell

inductive Fault
  /-- Something stands where it must not; `expected` is what should stand there. -/
  | unexpected (found : String) (expected : Option String)
  | openQuote
  | openBackquote
  | openArithmetic
  | badReference
  | badLoopName
  | badFunctionName
  | tooDeep
  deriving DecidableEq

def Fault.message : Fault → String
  | .unexpected found none => s!"Syntax error: {found} unexpected"
  | .unexpected found (some expected) =>
    s!"Syntax error: {found} unexpected (expecting {expected})"
  | .openQuote => "Syntax error: Unterminated quoted string"
  | .openBackquote => "Syntax error: EOF in backquote substitution"
  | .openArithmetic => "Syntax error: Missing '))'"
  | .badReference => "Syntax error: Bad substitution"
  | .badLoopName => "Syntax error: Bad for loop variable"
  | .badFunctionName => "Syntax error: Bad function name"
  | .tooDeep => "Syntax error: nesting too deep"

/-- Reads something off the front of a text, or says what is wrong with it. -/
abbrev Parse (α : Type) := StateT (List Char) (Except Fault) α

namespace Grammar

variable {α : Type}

/-! ## Repetition -/

/-- Values one after the other, until none is left or nothing is used up. -/
def manyFrom (item : Parse (Option α)) (s : List Char) : Except Fault (List α × List Char) :=
  match item s with
  | .error e => .error e
  | .ok (none, r) => .ok ([], r)
  | .ok (some a, r) =>
    if _h : r.length < s.length then
      match manyFrom item r with
      | .error e => .error e
      | .ok (as, r) => .ok (a :: as, r)
    else .ok ([], s)
termination_by s.length
decreasing_by exact _h

def many (item : Parse (Option α)) : Parse (List α) :=
  manyFrom item

/-! ## What comes next -/

/-- Characters that end a word unless they are quoted. -/
def isMeta (c : Char) : Bool :=
  [' ', '\t', '\n', ';', '&', '|', '<', '>', '(', ')'].contains c

/-- Characters that mean more than themselves within a word. -/
def isQuoting (c : Char) : Bool :=
  ['\'', '"', '\\', '$', '\x60'].contains c

def isNameStart (c : Char) : Bool :=
  c.isAlpha || c = '_'

def isNameChar (c : Char) : Bool :=
  c.isAlphanum || c = '_'

def isSpecial (c : Char) : Bool :=
  ['$', '?', '#', '@', '*', '!', '-'].contains c

/-- A text without the blanks and the comment at its front. -/
def skipGap : List Char → List Char
  | ' ' :: s => skipGap s
  | '\t' :: s => skipGap s
  | '\\' :: '\n' :: s => skipGap s
  | '#' :: s => s.dropWhile (· ≠ '\n')
  | s => s

def gap : Parse Unit :=
  modify skipGap

/-- Passes over what may stand between commands. -/
def gaps : Parse Unit := do
  let _ ← many (do
    gap
    match ← get with
    | '\n' :: s => set s; return some ()
    | _ => return none)

/-- The signs of the language, each one before those that it begins with. -/
def signs : List String :=
  ["&&", "||", ";;", "<<-", "<<", ">>", "<&", ">&", ">|", ";", "&", "|", "(", ")", "<", ">", "\n"]

/-- Words that mean something where a command begins. -/
def reserved : List String :=
  ["if", "then", "elif", "else", "fi", "for", "while", "until", "do", "done", "case", "esac",
    "\x7b", "\x7d", "!"]

/-- Words behind which no command follows. -/
def closing : List String :=
  ["then", "elif", "else", "fi", "do", "done", "esac", "\x7d"]

inductive Ahead
  | over
  | sign (s : String)
  /-- A word; empty if a part of it is quoted. -/
  | word (s : String)
  deriving DecidableEq

def Ahead.of (s : List Char) : Ahead :=
  match s with
  | [] => .over
  | s =>
    match signs.find? fun mark => mark.toList.isPrefixOf s with
    | some mark => .sign mark
    | none =>
      let plain := s.takeWhile fun c => !isMeta c && !isQuoting c
      match s.drop plain.length with
      | c :: _ => .word (if isQuoting c then "" else String.ofList plain)
      | [] => .word (String.ofList plain)

def Ahead.shown : Ahead → String
  | .over => "end of file"
  | .sign "\n" => "newline"
  | .sign s => s!"\"{s}\""
  | .word s => if reserved.contains s then s!"\"{s}\"" else "word"

def ahead : Parse Ahead := do
  gap
  return .of (← get)

def refuse (expected : Option String) : Parse α := do
  throw (.unexpected (← ahead).shown (expected.map fun e => s!"\"{e}\""))

def skip (count : Nat) : Parse Unit :=
  modify (·.drop count)

def sign (s : String) : Parse Unit := do
  if (← ahead) = .sign s then skip s.length else refuse (some s)

def keyword (w : String) : Parse Unit := do
  if (← ahead) = .word w then skip w.length else refuse (some w)

/-! ## Words -/

/-- What is read one level further down: commands, and words that end at a brace. -/
structure Inner where
  commands : Parse Script
  operand : Parse Word

def takeWhile (p : Char → Bool) : Parse (List Char) := fun s =>
  .ok (s.takeWhile p, s.dropWhile p)

/-- The text of an expression up to its two closing brackets, and what follows them. -/
def expression : (depth : Nat) → List Char → Option (List Char × List Char)
  | 0, ')' :: ')' :: s => some ([], s)
  | depth + 1, ')' :: s => (expression depth s).map fun (e, s) => (')' :: e, s)
  | depth, '(' :: s => (expression (depth + 1) s).map fun (e, s) => ('(' :: e, s)
  | depth, c :: s => (expression depth s).map fun (e, s) => (c :: e, s)
  | _, [] => none

/-- The text up to a backquote, without the backslashes that it needed, and what follows. -/
def backquoted : List Char → Option (List Char × List Char)
  | '\x60' :: s => some ([], s)
  | '\\' :: c :: s =>
    let kept := if c = '\x60' ∨ c = '$' ∨ c = '\\' then [c] else ['\\', c]
    (backquoted s).map fun (inside, s) => (kept ++ inside, s)
  | c :: s => (backquoted s).map fun (inside, s) => (c :: inside, s)
  | [] => none

/-- A variable's name: letters, digits, or a sign. -/
def parameter : Parse String := do
  match ← get with
  | c :: s =>
    if isNameStart c then return String.ofList (← takeWhile isNameChar)
    else if c.isDigit || isSpecial c then set s; return String.ofList [c]
    else throw .badReference
  | [] => throw .badReference

def use (inner : Inner) : Parse Use := do
  match ← get with
  | ':' :: '-' :: s => set s; return .orElse true false (← inner.operand)
  | ':' :: '=' :: s => set s; return .orElse true true (← inner.operand)
  | ':' :: '?' :: s => set s; return .orFail true (← inner.operand)
  | ':' :: '+' :: s => set s; return .instead true (← inner.operand)
  | '-' :: s => set s; return .orElse false false (← inner.operand)
  | '=' :: s => set s; return .orElse false true (← inner.operand)
  | '?' :: s => set s; return .orFail false (← inner.operand)
  | '+' :: s => set s; return .instead false (← inner.operand)
  | '#' :: '#' :: s => set s; return .strip false true (← inner.operand)
  | '#' :: s => set s; return .strip false false (← inner.operand)
  | '%' :: '%' :: s => set s; return .strip true true (← inner.operand)
  | '%' :: s => set s; return .strip true false (← inner.operand)
  | _ => return .whole

def braced (inner : Inner) (quoted : Bool) : Parse Piece := do
  match ← get with
  | '#' :: c :: s =>
    if c = '\x7d' then set s; return .value "#" .whole quoted
    else
      set (c :: s)
      let name ← parameter
      close (.value name .length quoted)
  | _ =>
    let name ← parameter
    close (.value name (← use inner) quoted)
where
  /-- A value with the brace behind it. -/
  close (p : Piece) : Parse Piece := do
    match ← get with
    | '\x7d' :: s => set s; return p
    | _ => throw .badReference

def dollar (inner : Inner) (quoted : Bool) : Parse Piece := do
  match ← get with
  | '(' :: '(' :: s =>
    match expression 0 s with
    | some (e, s) => set s; return .number e quoted
    | none => throw .openArithmetic
  | '(' :: s =>
    set s
    let body ← inner.commands
    sign ")"
    return .output body quoted
  | '\x7b' :: s => set s; braced inner quoted
  | c :: _ =>
    if isNameChar c || isSpecial c then return .value (← parameter) .whole quoted
    else return .literal ['$'] quoted
  | [] => return .literal ['$'] quoted

def backquote (inner : Inner) (quoted : Bool) : Parse Piece := do
  match backquoted (← get) with
  | none => throw .openBackquote
  | some (inside, s) =>
    set inside
    let body ← inner.commands
    if (← ahead) ≠ .over then refuse none
    set s
    return .output body quoted

/-- A part of what stands in double quotes; `escapable` characters lose a backslash before them. -/
def quotedPiece (inner : Inner) (ends : Char → Bool) (escapable : List Char) :
    Parse (Option Piece) := do
  match ← get with
  | '\\' :: '\n' :: s => set s; return some (.literal [] true)
  | '\\' :: c :: s =>
    if escapable.contains c then set s; return some (.literal [c] true)
    else set (c :: s); return some (.literal ['\\'] true)
  | '$' :: s => set s; return some (← dollar inner true)
  | '\x60' :: s => set s; return some (← backquote inner true)
  | c :: _ =>
    if ends c then return none
    else
      let isPlain (c : Char) : Bool := !ends c && c ≠ '\\' && c ≠ '$' && c ≠ '\x60'
      match ← takeWhile isPlain with
      | [] => skip 1; return some (.literal [c] true)
      | cs => return some (.literal cs true)
  | [] => return none

def escapableInQuotes : List Char := ['$', '\x60', '"', '\\']

def doubleQuoted (inner : Inner) : Parse (List Piece) := do
  let pieces ← many (quotedPiece inner (· == '"') escapableInQuotes)
  match ← get with
  | '"' :: s =>
    set s
    -- quoted arguments may be no word at all
    match pieces with
    | [.value "@" .whole _] => return pieces
    | _ => return .literal [] true :: pieces
  | _ => throw .openQuote

/-- A part of a word, which goes on up to a character that ends it. -/
def piece (inner : Inner) (ends : Char → Bool) : Parse (Option (List Piece)) := do
  match ← get with
  | '\'' :: s =>
    set s
    let cs ← takeWhile (· ≠ '\'')
    if (← get).isEmpty then throw .openQuote
    skip 1
    return some [.literal cs true]
  | '"' :: s => set s; return some (← doubleQuoted inner)
  | '\\' :: '\n' :: s => set s; return some []
  | '\\' :: c :: s => set s; return some [.literal [c] true]
  | ['\\'] => set ([] : List Char); return some [.literal ['\\'] true]
  | '$' :: s => set s; return some [← dollar inner false]
  | '\x60' :: s => set s; return some [← backquote inner false]
  | c :: _ =>
    if ends c then return none
    else return some [.literal (← takeWhile fun c => !ends c && !isQuoting c) false]
  | [] => return none

def pieces (inner : Inner) (ends : Char → Bool) : Parse Word := do
  return (← many (piece inner ends)).flatten

def word (inner : Inner) : Parse Word := do
  match ← ahead with
  | .word _ => pieces inner isMeta
  | _ => refuse none

/-! ## Redirections -/

/-- The lines of a text up to one that consists of a given mark, and what follows that line. -/
def document (mark : List Char) (indented : Bool) (s : List Char) : List Char × List Char :=
  match s with
  | [] => ([], [])
  | c :: rest =>
    let whole := (c :: rest).takeWhile (· ≠ '\n')
    let line := if indented then whole.dropWhile (· = '\t') else whole
    let after := (c :: rest).drop (whole.length + 1)
    if line = mark then ([], after)
    else if _h : after.length < (c :: rest).length then
      let (body, after) := document mark indented after
      (line ++ '\n' :: body, after)
    else ([], after)
termination_by s.length

/-- Input that stands on the lines below, up to one that consists of the word that comes next.
Unless a part of that word is quoted, variables in the lines have their values put in. -/
def here (inner : Inner) (indented : Bool) : Parse Redirect := do
  gap
  let mark ← takeWhile fun c => !isMeta c
  let plain := mark.filter fun c => !isQuoting c
  let s ← get
  let line := s.takeWhile (· ≠ '\n')
  let (body, after) := document plain indented (s.drop (line.length + 1))
  if mark.any isQuoting then
    set (line ++ '\n' :: after)
    return .here [.literal body true]
  else
    set body
    let pieces ← many (quotedPiece inner (fun _ => false) ['$', '\x60', '\\'])
    set (line ++ '\n' :: after)
    return .here pieces

/-- The stream that a redirection copies, or a hyphen, which closes a stream. -/
def copied (fd : Nat) : Parse Redirect := do
  gap
  match ← get with
  | '-' :: s => set s; return .close fd
  | c :: s => if c.isDigit then set s; return .copy fd (c.toNat - 48) else refuse none
  | [] => refuse none

/-- A redirection, which may begin with the number of a stream. -/
def redirect (inner : Inner) : Parse (Option Redirect) := do
  gap
  let s ← get
  let (fd?, behind) := match s with
    | c :: '<' :: rest => if c.isDigit then (some (c.toNat - 48), '<' :: rest) else (none, s)
    | c :: '>' :: rest => if c.isDigit then (some (c.toNat - 48), '>' :: rest) else (none, s)
    | s => (none, s)
  let written := fd?.getD 1
  match Ahead.of behind with
  | .sign ">&" => set (behind.drop 2); return some (← copied written)
  | .sign "<&" => set (behind.drop 2); return some (← copied (fd?.getD 0))
  | .sign ">>" => set (behind.drop 2); return some (.append written (← word inner))
  | .sign ">|" => set (behind.drop 2); return some (.write written (← word inner))
  | .sign ">" => set (behind.drop 1); return some (.write written (← word inner))
  | .sign "<<-" => set (behind.drop 3); return some (← here inner true)
  | .sign "<<" => set (behind.drop 2); return some (← here inner false)
  | .sign "<" => set (behind.drop 1); return some (.read (← word inner))
  | _ => return none

/-! ## Simple commands -/

def assignment (inner : Inner) : Parse (Option (String × Word)) := do
  gap
  let s ← get
  let name := s.takeWhile isNameChar
  match s.drop name.length with
  | '=' :: rest =>
    if name.head?.any isNameStart then
      set rest
      return some (String.ofList name, ← pieces inner isMeta)
    else return none
  | _ => return none

def lead (inner : Inner) : Parse (Option ((String × Word) ⊕ Redirect)) := do
  match ← redirect inner with
  | some r => return some (.inr r)
  | none => return (← assignment inner).map .inl

def argument (inner : Inner) : Parse (Option (Word ⊕ Redirect)) := do
  match ← redirect inner with
  | some r => return some (.inr r)
  | none =>
    match ← ahead with
    | .word _ => return some (.inl (← word inner))
    | _ => return none

def simpleCommand (inner : Inner) : Parse Script := do
  let before ← many (lead inner)
  let rest ← many (argument inner)
  if before.isEmpty && rest.isEmpty then refuse none
  return .simple (before.filterMap Sum.getLeft?) (rest.filterMap Sum.getLeft?)
    (before.filterMap Sum.getRight? ++ rest.filterMap Sum.getRight?)

/-! ## Compound commands -/

def choice (inner : Inner) : Parse Script := do
  let branch : Parse (Script × Script) := do
    let test ← inner.commands
    keyword "then"
    return (test, ← inner.commands)
  let first ← branch
  let more ← many (do
    if (← ahead) = .word "elif" then
      keyword "elif"
      return some (← branch)
    else return none)
  let otherwise ← if (← ahead) = .word "else" then
      keyword "else"
      inner.commands
    else pure .nothing
  keyword "fi"
  return (first :: more).foldr (fun (test, yes) no => .choice test yes no) otherwise

def body (inner : Inner) : Parse Script := do
  keyword "do"
  let commands ← inner.commands
  keyword "done"
  return commands

def loop (inner : Inner) (wellWanted : Bool) : Parse Script := do
  let test ← inner.commands
  return .loop wellWanted test (← body inner)

def forEach (inner : Inner) : Parse Script := do
  gap
  let name ← takeWhile isNameChar
  if !name.head?.any isNameStart then throw .badLoopName
  gaps
  if (← ahead) = .word "in" then
    keyword "in"
    let words ← many (do
      match ← ahead with
      | .word _ => return some (← word inner)
      | _ => return none)
    match ← ahead with
    | .sign ";" => sign ";"
    | .sign "\n" => pure ()
    | _ => refuse none
    gaps
    return .forEach (String.ofList name) words (← body inner)
  else
    if (← ahead) = .sign ";" then sign ";"
    gaps
    return .forEach (String.ofList name) none (← body inner)

def branch (inner : Inner) : Parse (Option (List Word × Script)) := do
  gaps
  if (← ahead) = .word "esac" then return none
  if (← ahead) = .sign "(" then sign "("
  let first ← word inner
  let more ← many (do
    if (← ahead) = .sign "|" then
      sign "|"
      return some (← word inner)
    else return none)
  sign ")"
  let commands ← inner.commands
  match ← ahead with
  | .sign ";;" => sign ";;"
  | .word "esac" => pure ()
  | _ => refuse (some ";;")
  return some (first :: more, commands)

def select (inner : Inner) : Parse Script := do
  let subject ← word inner
  gaps
  keyword "in"
  let branches ← many (branch inner)
  keyword "esac"
  return .select subject branches

/-- Commands that may be missing only at the end of the text. -/
def someCommands (inner : Inner) : Parse Script := do
  gaps
  let s ← get
  let commands ← inner.commands
  if (← get).length = s.length && (← ahead) ≠ .over then refuse none
  return commands

/-- A command with commands in it, told by its first word or sign. -/
def compound (inner : Inner) (first : Ahead) : Parse (Option Script) := do
  let filled : Inner := { inner with commands := someCommands inner }
  match first with
  | .word "if" => skip 2; return some (← choice filled)
  | .word "while" => skip 5; return some (← loop filled true)
  | .word "until" => skip 5; return some (← loop filled false)
  | .word "for" => skip 3; return some (← forEach filled)
  | .word "case" => skip 4; return some (← select inner)
  | .word "\x7b" =>
    skip 1
    let commands ← filled.commands
    keyword "\x7d"
    return some commands
  | .sign "(" =>
    skip 1
    let commands ← filled.commands
    sign ")"
    return some (.subshell commands)
  | .word w => if reserved.contains w then refuse none else return none
  | _ => return none

def command (inner : Inner) : Parse Script := do
  match ← compound inner (← ahead) with
  | none => simpleCommand inner
  | some c =>
    match ← many (redirect inner) with
    | [] => return c
    | redirects => return .redirected c redirects

/-- A command, or the definition of a function: a name with a pair of brackets and a command. -/
def definition (inner : Inner) : Parse Script := do
  match ← ahead with
  | .word name =>
    let s ← get
    let behind := s.drop name.length
    if name ≠ "" ∧ !reserved.contains name ∧ Ahead.of (skipGap behind) = .sign "(" then
      set behind
      sign "("
      sign ")"
      if !name.toList.all isNameChar then throw .badFunctionName
      gaps
      return .function name (← command inner)
    else command inner
  | _ => command inner

def pipeline (inner : Inner) : Parse Script := do
  let negated := (← ahead) = .word "!"
  if negated then keyword "!"
  let first ← definition inner
  let more ← many (do
    if (← ahead) = .sign "|" then
      sign "|"
      gaps
      return some (← definition inner)
    else return none)
  let joined := more.foldl Script.pipe first
  return if negated then .negation joined else joined

def conditional (inner : Inner) : Parse Script := do
  let first ← pipeline inner
  let more ← many (do
    match ← ahead with
    | .sign "&&" => sign "&&"; gaps; return some (true, ← pipeline inner)
    | .sign "||" => sign "||"; gaps; return some (false, ← pipeline inner)
    | _ => return none)
  return more.foldl (fun s (isBoth, t) => if isBoth then s.both t else s.either t) first

def goesOn (acrossLines : Bool) : Parse Bool := do
  if acrossLines then gaps
  match ← ahead with
  | .over => return false
  | .sign s => return !(s = ")" || s = ";;" || s = "\n")
  | .word w => return !closing.contains w

/-- A command with the sign that separates it from the next one, and whether there is one. -/
def separated (inner : Inner) (acrossLines : Bool) : Parse (Script × Bool) := do
  let c ← conditional inner
  match ← ahead with
  | .sign ";" => sign ";"; return (c, true)
  | .sign "&" => sign "&"; return (.background c, true)
  | .sign "\n" => return (c, acrossLines)
  | _ => return (c, false)

def sequenceFrom (inner : Inner) (acrossLines : Bool) (s : List Char) :
    Except Fault (Script × List Char) :=
  match goesOn acrossLines s with
  | .error e => .error e
  | .ok (false, r) => .ok (.nothing, r)
  | .ok (true, r) =>
    match separated inner acrossLines r with
    | .error e => .error e
    | .ok ((c, false), r) => .ok (c, r)
    | .ok ((c, true), r) =>
      if _h : r.length < s.length then
        match sequenceFrom inner acrossLines r with
        | .error e => .error e
        | .ok (.nothing, r) => .ok (c, r)
        | .ok (more, r) => .ok (.sequence c more, r)
      else .ok (c, r)
termination_by s.length
decreasing_by exact _h

/-- What is read with at most `depth` constructs around each other. -/
def innerAt : (depth : Nat) → Inner
  | 0 => ⟨throw .tooDeep, throw .tooDeep⟩
  | depth + 1 =>
    { commands := sequenceFrom (innerAt depth) true
      operand := pieces (innerAt depth) (· == '\x7d') }

def linesFrom (inner : Inner) (s : List Char) : List Script × Option Fault :=
  let line : Parse (Option Script) := do
    gaps
    if (← ahead) = .over then return none
    let c ← sequenceFrom inner false
    match ← ahead with
    | .over => return some c
    | .sign "\n" => return some c
    | _ => refuse none
  match line s with
  | .error e => ([], some e)
  | .ok (none, _) => ([], none)
  | .ok (some c, r) =>
    if _h : r.length < s.length then
      let (more, fault) := linesFrom inner r
      (c :: more, fault)
    else ([c], none)
termination_by s.length
decreasing_by exact _h

def lines (s : List Char) : List Script × Option Fault :=
  linesFrom (innerAt (s.length + 1)) s

end Grammar
end Shell
end ArbBundle
