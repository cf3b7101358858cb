import ArbBundle.Bytes.Hex
import ArbBundle.CommandLine.Flags
import ArbBundle.Decimal.Spelled

/-!
# Reader — the flags of a command line

- `UsageError`: why a command line is refused, or what it asks for instead of a run
- `Flag`: the flags by name; `Flag.set` lays the value of one over what was read before
- `CommandLine.read`: the flags of the arguments

A value stands behind `=` or is the next argument, unless that one begins with a hyphen and is
longer than that.  A value is looked at when the next known flag comes, or at the end; so of two
faults an unknown argument that follows a bad value outweighs it, and a known one does not.
No flag is taken twice.
-/

namespace ArbBundle

inductive UsageError
  | unknownArgument
  /-- A flag was given twice. -/
  | argumentConflict
  /-- A switch was given a value. -/
  | tooManyValues
  /-- A value is missing, or not one of those that are possible. -/
  | invalidValue
  /-- A value is no number or no address. -/
  | valueValidation
  /-- Help was asked for. -/
  | displayHelp
  /-- The version was asked for. -/
  | displayVersion
  deriving DecidableEq

inductive Flag
  | config | rpcUrl | relayUrl | nodeAddress | refundAddress | authKey
  | randomPrivateKey | dryRun | yes
  | profitCheck | builderCommand | explorerTxUrl | simulationBlockOffset | retryRounds
  | inclusionTimeout | logLevel | logFormat | report
  | noColor | help | version
  deriving DecidableEq

/-! ## Flags -/

namespace Flag

def name : Flag → String
  | .config => "config"
  | .rpcUrl => "rpc-url"
  | .relayUrl => "relay-url"
  | .nodeAddress => "node-address"
  | .refundAddress => "refund-address"
  | .authKey => "auth-key"
  | .randomPrivateKey => "random-private-key"
  | .dryRun => "dry-run"
  | .yes => "yes"
  | .profitCheck => "profit-check"
  | .builderCommand => "builder-command"
  | .explorerTxUrl => "explorer-tx-url"
  | .simulationBlockOffset => "simulation-block-offset"
  | .retryRounds => "retry-rounds"
  | .inclusionTimeout => "inclusion-timeout"
  | .logLevel => "log-level"
  | .logFormat => "log-format"
  | .report => "report"
  | .noColor => "no-color"
  | .help => "help"
  | .version => "version"

def all : List Flag :=
  [.config, .rpcUrl, .relayUrl, .nodeAddress, .refundAddress, .authKey, .randomPrivateKey,
    .dryRun, .yes, .profitCheck, .builderCommand, .explorerTxUrl, .simulationBlockOffset,
    .retryRounds, .inclusionTimeout, .logLevel, .logFormat, .report, .noColor, .help, .version]

def ofName? (s : String) : Option Flag :=
  all.find? fun f => f.name = s

def ofLetter? : Char → Option Flag
  | 'y' => some .yes
  | 'h' => some .help
  | 'V' => some .version
  | _ => none

def isSwitch : Flag → Bool
  | .randomPrivateKey | .dryRun | .yes | .noColor | .help | .version => true
  | _ => false

def orRefuse {α : Type} (e : UsageError) : Option α → Except UsageError α
  | some a => .ok a
  | none => .error e

def address (value : String) : Except UsageError Address :=
  orRefuse .valueValidation (Hex.fixed? value)

def number64 (value : String) : Except UsageError UInt64 :=
  orRefuse .valueValidation ((Decimal.unsigned? value.toList).bind Word.uint64?)

def number32 (value : String) : Except UsageError UInt32 :=
  orRefuse .valueValidation ((Decimal.nonNegative? value.toList).bind Word.uint32?)

def format : String → Except UsageError LogFormat
  | "text" => .ok .text
  | "json" => .ok .json
  | _ => .error .invalidValue

def style : String → Except UsageError ReportStyle
  | "console" => .ok .console
  | "tracing" => .ok .tracing
  | _ => .error .invalidValue

def set (f : Flags) (value : String) : Flag → Except UsageError Flags
  | .config => if value.isEmpty then .error .invalidValue else .ok { f with config := value }
  | .rpcUrl => .ok { f with rpcUrl := some value }
  | .relayUrl => .ok { f with relayUrl := some value }
  | .nodeAddress => (address value).map fun a => { f with nodeAddress := some a }
  | .refundAddress => (address value).map fun a => { f with refundAddress := some a }
  | .authKey => .ok { f with authKey := some value }
  | .randomPrivateKey => .ok { f with randomPrivateKey := true }
  | .dryRun => .ok { f with dryRun := true }
  | .yes => .ok { f with yes := true }
  | .profitCheck =>
    (orRefuse .invalidValue (ProfitCheck.ofName? value)).map fun c =>
      { f with profitCheck := some c }
  | .builderCommand => .ok { f with builderCommand := some value }
  | .explorerTxUrl => .ok { f with explorerTxUrl := some value }
  | .simulationBlockOffset =>
    (number64 value).map fun n => { f with simulationBlockOffset := some n }
  | .retryRounds => (number32 value).map fun n => { f with retryRounds := some n }
  | .inclusionTimeout => (number64 value).map fun n => { f with inclusionTimeout := some n }
  | .logLevel => .ok { f with logLevel := value }
  | .logFormat => (format value).map fun l => { f with logFormat := l }
  | .report => (style value).map fun s => { f with report := s }
  | .noColor => .ok { f with noColor := true }
  | .help => .error .displayHelp
  | .version => .error .displayVersion

end Flag

/-! ## Arguments -/

inductive Argument
  /-- Two hyphens; what follows is no flag. -/
  | divider
  | long (name : String) (value : Option String)
  | short (letters : List Char)
  | plain (text : String)
  deriving DecidableEq

def Argument.ofText (s : String) : Argument :=
  match s.toList with
  | ['-', '-'] => .divider
  | '-' :: '-' :: cs =>
    let name := String.ofList (cs.takeWhile (· ≠ '='))
    match cs.dropWhile (· ≠ '=') with
    | _ :: value => .long name (some (String.ofList value))
    | [] => .long name none
  | '-' :: c :: cs => .short (c :: cs)
  | _ => .plain s

namespace CommandLine

structure Reading where
  flags : Flags
  given : List Flag
  /-- A flag that waits for its value, or whose value was not looked at yet. -/
  pending : Option (Flag × Option String)

namespace Reading

def start : Reading :=
  ⟨.none, [], none⟩

def take (r : Reading) (flag : Flag) (value : String) : Except UsageError Reading :=
  if flag ∈ r.given then .error .argumentConflict
  else (flag.set r.flags value).map fun flags => { r with flags, given := flag :: r.given }

/-- Takes the flag that is pending, if there is one. -/
def settle (r : Reading) : Except UsageError Reading :=
  match r.pending with
  | none => .ok r
  | some (_, none) => .error .invalidValue
  | some (flag, some value) => { r with pending := none }.take flag value

def long (r : Reading) (flag : Flag) (value : Option String) : Except UsageError Reading :=
  match flag.isSwitch, value with
  | true, some _ => .error .tooManyValues
  | true, none => do (← r.settle).take flag ""
  | false, some v => do (← r.settle).take flag v
  | false, none => do return { ← r.settle with pending := some (flag, none) }

def short (r : Reading) : List Char → Except UsageError Reading
  | [] => .ok r
  | c :: cs =>
    match Flag.ofLetter? c with
    | none => .error .unknownArgument
    | some flag => do
      let r ← r.settle
      (← r.take flag "").short cs

def plain (r : Reading) (text : String) : Except UsageError Reading :=
  match r.pending with
  | some (flag, none) => .ok { r with pending := some (flag, some text) }
  | _ => .error .unknownArgument

def arguments (r : Reading) : List String → Except UsageError Reading
  | [] => r.settle
  | arg :: rest =>
    match Argument.ofText arg with
    | .divider => if rest.isEmpty then r.settle else .error .unknownArgument
    | .long name value =>
      match Flag.ofName? name with
      | none => .error .unknownArgument
      | some flag => do (← r.long flag value).arguments rest
    | .short letters => do (← r.short letters).arguments rest
    | .plain text => do (← r.plain text).arguments rest

end Reading

/-- The environment's name for the key that signs relay requests. -/
def authKeyVariable : String := "ARB_AUTH_KEY"

/-- The flags of the arguments behind the program's name; the key may stand in the environment. -/
def read (arguments : List String) (environment : List (String × String)) :
    Except UsageError Flags := do
  let r ← Reading.start.arguments arguments
  return { r.flags with authKey := r.flags.authKey.or (environment.lookup authKeyVariable) }

end CommandLine
end ArbBundle
