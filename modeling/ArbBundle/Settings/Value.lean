import ArbBundle.Config
import ArbBundle.Decimal.Shortest
import ArbBundle.Decimal.Spelled
import ArbBundle.Text.AsciiCase
import ArbBundle.Toml.Value

/-!
# Value — what a setting says, and what a field makes of it

- `Setting`: a value from any layer
- `Setting.ofToml`: the value of a TOML document
- `Setting.asText`, `Setting.asBool`, `Setting.asUInt64`: what a field of that kind makes of a value
- `Setting.asAddress`, `Setting.asProfitCheck`, `Setting.asBroadcast`, `Setting.asConfig`

A field takes more than its own kind of value: numbers stand for texts and truth values, and words
for truth values and numbers.
-/

namespace ArbBundle

open Decimal (Binary64)

inductive SettingsError
  /-- The file is not in the form of its format. -/
  | unreadable
  /-- A value is of a kind that its field makes nothing of. -/
  | wrongKind
  /-- A value does not name an address or a check, or is no table. -/
  | unknownValue
  deriving DecidableEq

inductive Setting
  /-- A gap in an array. -/
  | nothing
  | text (s : String)
  | integer (n : Int)
  | real (x : Binary64)
  | boolean (b : Bool)
  | array (elements : List Setting)
  | table (entries : List (String × Setting))

namespace Setting

mutual

/-- The value of a TOML document; dates and times are texts. -/
def ofToml : Toml → Setting
  | .text s => .text s
  | .integer n => .integer n
  | .real x => .real x
  | .boolean b => .boolean b
  | .moment spelling => .text spelling
  | .array elements => .array (ofElements elements)
  | .table entries => .table (ofEntries entries)

def ofElements : List Toml → List Setting
  | [] => []
  | v :: rest => ofToml v :: ofElements rest

def ofEntries : List (String × Toml) → List (String × Setting)
  | [] => []
  | (k, v) :: rest => (k, ofToml v) :: ofEntries rest

end

/-! ## Fields -/

def orRefuse {α : Type} (e : SettingsError) : Option α → Except SettingsError α
  | some a => .ok a
  | none => .error e

def lower (s : String) : String :=
  String.ofList (Text.lowerWord s.toList)

def asText : Setting → Except SettingsError String
  | .text s => .ok s
  | .integer n => .ok (toString n)
  | .real x => .ok x.positional
  | .boolean true => .ok "true"
  | .boolean false => .ok "false"
  | _ => .error .wrongKind

/-- The truth values that have names. -/
def truthOf? (word : String) : Option Bool :=
  if word ∈ ["true", "on", "yes"] then some true
  else if word ∈ ["false", "off", "no"] then some false
  else none

/-- What a truth value makes of a value: it may also be a digit, and a number is true unless it is
zero. -/
def asBool : Setting → Except SettingsError Bool
  | .boolean b => .ok b
  | .integer n => .ok (n ≠ 0)
  | .real x => .ok !x.isZero
  | .text s =>
    match s with
    | "1" => .ok true
    | "0" => .ok false
    | s => orRefuse .wrongKind (truthOf? (lower s))
  | _ => .error .wrongKind

/-- What a number of 64 bits makes of a value: a truth value is one or zero, and a number with a
fraction is rounded. -/
def asUInt64 : Setting → Except SettingsError UInt64
  | .integer n => orRefuse .wrongKind (if 0 ≤ n then Word.uint64? n.toNat else none)
  | .real x => .ok x.toUInt64
  | .boolean b => .ok (if b then 1 else 0)
  | .text s =>
    match truthOf? (lower s) with
    | some b => .ok (if b then 1 else 0)
    | none => orRefuse .wrongKind ((Decimal.unsigned? s.toList).bind Word.uint64?)
  | _ => .error .wrongKind

def asUInt32 (v : Setting) : Except SettingsError UInt32 := do
  orRefuse .wrongKind (Word.uint32? (← v.asUInt64).toNat)

def asByte (v : Setting) : Except SettingsError UInt8 := do
  let n ← v.asUInt64
  if n < 256 then .ok n.toUInt8 else .error .wrongKind

/-- What an address makes of a value: hexadecimal text, or an array of as many bytes. -/
def asAddress : Setting → Except SettingsError Address
  | .text s => orRefuse .unknownValue (Hex.fixed? s)
  | .array elements => do
    let bytes ← (elements.take 20).mapM asByte
    -- what follows the bytes is not looked at unless it is one more byte
    match elements[20]?.map asByte with
    | some (.ok _) => .error .unknownValue
    | _ => orRefuse .unknownValue (FixedBytes.ofList? bytes)
  | _ => .error .unknownValue

/-- The check of a name in letters of any case. -/
def checkOf (name : String) : Except SettingsError ProfitCheck :=
  orRefuse .unknownValue (ProfitCheck.ofName? (lower name))

/-- What a profit check makes of a value: a name, or a table with nothing but the name. -/
def asProfitCheck : Setting → Except SettingsError ProfitCheck
  | .text s => checkOf s
  | .table [(name, _)] => checkOf name
  | _ => .error .unknownValue

def asOption {α : Type} (read : Setting → Except SettingsError α) :
    Setting → Except SettingsError (Option α)
  | .nothing => .ok none
  | v => some <$> read v

/-- What a field of a table says; one that is not there keeps its default. -/
def field {α : Type} (entries : List (String × Setting)) (name : String) (default : α)
    (read : Setting → Except SettingsError α) : Except SettingsError α :=
  match entries.lookup name with
  | none => .ok default
  | some v => read v

def broadcastOf (entries : List (String × Setting)) : Except SettingsError Broadcast := do
  let standard := Broadcast.default
  return {
    retryRounds := ← field entries "retry_rounds" standard.retryRounds asUInt32
    inclusionTimeoutSecs :=
      ← field entries "inclusion_timeout_secs" standard.inclusionTimeoutSecs asUInt64
    pollIntervalMs := ← field entries "poll_interval_ms" standard.pollIntervalMs asUInt64 }

/-- What the settings of a broadcast make of a value: a table, or an array of the fields. -/
def asBroadcast : Setting → Except SettingsError Broadcast
  | .table entries => broadcastOf entries
  | .array elements => broadcastOf (Broadcast.fieldNames.zip elements)
  | _ => .error .unknownValue

def configOf (entries : List (String × Setting)) : Except SettingsError Config := do
  let standard := Config.default
  return {
    rpcUrl := ← field entries "rpc_url" standard.rpcUrl asText
    relayUrl := ← field entries "relay_url" standard.relayUrl asText
    nodeAddress := ← field entries "node_address" standard.nodeAddress asAddress
    refundAddress := ← field entries "refund_address" standard.refundAddress (asOption asAddress)
    randomPrivateKey := ← field entries "random_private_key" standard.randomPrivateKey asBool
    dryRun := ← field entries "dry_run" standard.dryRun asBool
    skipConfirmation := ← field entries "skip_confirmation" standard.skipConfirmation asBool
    profitCheck := ← field entries "profit_check" standard.profitCheck asProfitCheck
    builderCommand := ← field entries "builder_command" standard.builderCommand asText
    explorerTxUrl := ← field entries "explorer_tx_url" standard.explorerTxUrl (asOption asText)
    simulationBlockOffset :=
      ← field entries "simulation_block_offset" standard.simulationBlockOffset asUInt64
    broadcast := ← field entries "broadcast" standard.broadcast asBroadcast }

end Setting
end ArbBundle
