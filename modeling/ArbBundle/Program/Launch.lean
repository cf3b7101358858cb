import ArbBundle.CommandLine.Reader
import ArbBundle.Curve.Signature
import ArbBundle.Program.Definitions
import ArbBundle.Settings.Load
import ArbBundle.Text.Symbol
import ArbBundle.Url.Parser

/-!
# Launch — from what a program finds around it to a run that can begin

- `Surroundings`: arguments, environment, files and a fresh key
- `LaunchError`: why no run begins
- `Launch`: the settings and the key of a run
- `Launch.prepare`: the command line, then the settings, then the key, then the locators of node and
  relay; the first fault in that order is the error
-/

namespace ArbBundle

structure Surroundings where
  /-- The arguments behind the program's name. -/
  arguments : List String
  environment : List (String × String)
  /-- The files of the working directory. -/
  files : List (String × Bytes)
  /-- A key that nobody knows. -/
  freshKey : Curve.SigningKey

namespace Surroundings

def definitionsFile : String := ".env"

/-- The environment with the variables that a file of definitions adds. -/
def fullEnvironment (s : Surroundings) : List (String × String) :=
  match s.files.lookup definitionsFile with
  | none => s.environment
  | some b => Definitions.load s.environment (Text.lossy b)

/-- The text of the file with the stored settings, which may be named without its ending. -/
def settingsText? (s : Surroundings) (name : String) : Option (List Char) :=
  ((s.files.lookup name).or (s.files.lookup (name ++ ".toml"))).map fun b =>
    let text := Text.lossy b
    if text.head? = some '\ufeff' then text.tail else text

end Surroundings

inductive LaunchError
  | usage (e : UsageError)
  | settings (e : SettingsError)
  | invalidKey
  | missingKey
  | invalidRpcUrl
  | invalidRelayUrl
  deriving DecidableEq

/-- The text of the error, where it is not left to the command line's reader. -/
def LaunchError.message? : LaunchError → Option String
  | .usage _ => none
  | .settings _ => some "failed to load configuration"
  | .invalidKey => some "invalid relay auth key"
  | .missingKey =>
    some "no relay auth key: pass --auth-key, set ARB_AUTH_KEY or use --random-private-key"
  | .invalidRpcUrl => some "invalid rpc url"
  | .invalidRelayUrl => some "invalid relay url"

structure Launch where
  flags : Flags
  config : Config
  key : Curve.SigningKey
  /-- The variables that commands inherit. -/
  environment : List (String × String)
  files : List (String × Bytes)

namespace Launch

/-- The key of a run: a fresh one, or the one that the operator gave. -/
def keyFor (s : Surroundings) (flags : Flags) (config : Config) :
    Except LaunchError Curve.SigningKey :=
  if config.randomPrivateKey then .ok s.freshKey
  else
    match flags.authKey with
    | none => .error .missingKey
    | some text =>
      match Curve.SigningKey.ofText? (String.ofList (Text.trim text.toList)) with
      | none => .error .invalidKey
      | some key => .ok key

def isLocator (text : String) : Bool :=
  (Url.parse text).toOption.isSome

def prepare (s : Surroundings) : Except LaunchError Launch := do
  let environment := s.fullEnvironment
  let flags ← (CommandLine.read s.arguments environment).mapError .usage
  let file := s.settingsText? flags.config
  let config ← (Settings.load flags file environment).mapError .settings
  let key ← keyFor s flags config
  if !isLocator config.rpcUrl then throw .invalidRpcUrl
  if !isLocator config.relayUrl then throw .invalidRelayUrl
  return ⟨flags, config, key, environment, s.files⟩

end Launch
end ArbBundle
