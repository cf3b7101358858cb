import ArbBundle.Config
import ArbBundle.Text.Blank
import ArbBundle.Text.Quoted
import ArbBundle.Url.Parser

/-!
# Verification — checking the settings before anything is done

- `ValidationError`: what is wrong with the settings
- `Config.verify`: the checks, in order: the locators, the addresses, the command, the numbers that
  must not be zero
-/

namespace ArbBundle

inductive ValidationError
  | invalidUrl (field value reason : String)
  | zeroAddress (field : String)
  | missingBuilderCommand
  | zeroValue (field : String)
  deriving DecidableEq

def ValidationError.message : ValidationError → String
  | .invalidUrl field value reason => s!"invalid {field} URL {Text.quoted value}: {reason}"
  | .zeroAddress field => s!"{field} must not be the zero address"
  | .missingBuilderCommand => "no builder command configured"
  | .zeroValue field => s!"{field} must be greater than zero"

namespace Verification

/-- A locator has to be readable, and its scheme one of the web. -/
def url (field value : String) : Except ValidationError Unit :=
  match Url.parse value with
  | .error e => .error (.invalidUrl field value e.message)
  | .ok u =>
    if u.scheme = "http" ∨ u.scheme = "https" then .ok ()
    else .error (.invalidUrl field value s!"unsupported scheme {Text.quoted u.scheme}")

/-- An address has to have a byte other than zero. -/
def address (field : String) (a : Address) : Except ValidationError Unit :=
  if a = Address.zero then .error (.zeroAddress field) else .ok ()

def positive (field : String) (n : Nat) : Except ValidationError Unit :=
  if n = 0 then .error (.zeroValue field) else .ok ()

def optional {α : Type} (check : α → Except ValidationError Unit) :
    Option α → Except ValidationError Unit
  | none => .ok ()
  | some a => check a

/-- A command has to hold a character that is not blank. -/
def command (s : String) : Except ValidationError Unit :=
  if (Text.trim s.toList).isEmpty then .error .missingBuilderCommand else .ok ()

end Verification

/-- The first thing that is wrong with the settings. -/
def Config.verify (c : Config) : Except ValidationError Unit := do
  Verification.url "rpc" c.rpcUrl
  Verification.url "relay" c.relayUrl
  Verification.optional (Verification.url "explorer") c.explorerTxUrl
  Verification.address "node address" c.nodeAddress
  Verification.optional (Verification.address "refund address") c.refundAddress
  Verification.command c.builderCommand
  Verification.positive "retry rounds" c.broadcast.retryRounds.toNat
  Verification.positive "inclusion timeout" c.broadcast.inclusionTimeoutSecs.toNat
  Verification.positive "poll interval" c.broadcast.pollIntervalMs.toNat

end ArbBundle
