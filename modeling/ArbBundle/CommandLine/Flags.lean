import ArbBundle.Config

/-!
# Flags — what the command line says

- `Flags`: the values and switches given
- `Flags.apply`: the settings with the flags laid over them

A value replaces the setting.  A switch can only turn a setting on.
-/

namespace ArbBundle

inductive LogFormat
  | text
  | json
  deriving DecidableEq

inductive ReportStyle
  /-- As lines for people. -/
  | console
  /-- As log records. -/
  | tracing
  deriving DecidableEq

structure Flags where
  /-- The file with the stored settings. -/
  config : String
  rpcUrl : Option String
  relayUrl : Option String
  nodeAddress : Option Address
  refundAddress : Option Address
  /-- The key that signs relay requests. -/
  authKey : Option String
  randomPrivateKey : Bool
  dryRun : Bool
  yes : Bool
  profitCheck : Option ProfitCheck
  builderCommand : Option String
  explorerTxUrl : Option String
  simulationBlockOffset : Option UInt64
  retryRounds : Option UInt32
  inclusionTimeout : Option UInt64
  logLevel : String
  logFormat : LogFormat
  report : ReportStyle
  noColor : Bool
  deriving DecidableEq

namespace Flags

def none : Flags where
  config := "arb.toml"
  rpcUrl := .none
  relayUrl := .none
  nodeAddress := .none
  refundAddress := .none
  authKey := .none
  randomPrivateKey := false
  dryRun := false
  yes := false
  profitCheck := .none
  builderCommand := .none
  explorerTxUrl := .none
  simulationBlockOffset := .none
  retryRounds := .none
  inclusionTimeout := .none
  logLevel := "info"
  logFormat := .text
  report := .console
  noColor := false

def applyBroadcast (f : Flags) (b : Broadcast) : Broadcast where
  retryRounds := f.retryRounds.getD b.retryRounds
  inclusionTimeoutSecs := f.inclusionTimeout.getD b.inclusionTimeoutSecs
  pollIntervalMs := b.pollIntervalMs

def apply (f : Flags) (c : Config) : Config where
  rpcUrl := f.rpcUrl.getD c.rpcUrl
  relayUrl := f.relayUrl.getD c.relayUrl
  nodeAddress := f.nodeAddress.getD c.nodeAddress
  refundAddress := f.refundAddress.or c.refundAddress
  randomPrivateKey := c.randomPrivateKey || f.randomPrivateKey
  dryRun := c.dryRun || f.dryRun
  skipConfirmation := c.skipConfirmation || f.yes
  profitCheck := f.profitCheck.getD c.profitCheck
  builderCommand := f.builderCommand.getD c.builderCommand
  explorerTxUrl := f.explorerTxUrl.or c.explorerTxUrl
  simulationBlockOffset := f.simulationBlockOffset.getD c.simulationBlockOffset
  broadcast := f.applyBroadcast c.broadcast

end Flags
end ArbBundle
