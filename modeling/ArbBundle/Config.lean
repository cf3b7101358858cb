import ArbBundle.Address
import ArbBundle.Profit

/-!
# Config — the settings of a run

- `Config`: all settings; `Config.default` is what holds where nothing is said
- `Broadcast`: submission to the relay and the wait for inclusion
- `Config.refundTarget?`: who gets the relay's fee refunds
- `Config.ofJson?`, `Config.toJson`: the stored form
-/

namespace ArbBundle

structure Broadcast where
  /-- For how many blocks in a row the bundle is submitted. -/
  retryRounds : UInt32
  inclusionTimeoutSecs : UInt64
  pollIntervalMs : UInt64
  deriving DecidableEq

namespace Broadcast

/-- Three rounds, a minute, a second. -/
def default : Broadcast := ⟨3, 60, 1000⟩

def fieldNames : List String :=
  ["retry_rounds", "inclusion_timeout_secs", "poll_interval_ms"]

def ofJson? (j : Json) : Option Broadcast := do
  let r ← Json.Record.ofJson? fieldNames j
  return {
    retryRounds := ← (r.slot "retry_rounds").withDefault default.retryRounds Json.uint32?
    inclusionTimeoutSecs :=
      ← (r.slot "inclusion_timeout_secs").withDefault default.inclusionTimeoutSecs Json.uint64?
    pollIntervalMs :=
      ← (r.slot "poll_interval_ms").withDefault default.pollIntervalMs Json.uint64? }

def toJson (b : Broadcast) : Json :=
  Json.object [
    ("retry_rounds", Json.ofNat b.retryRounds.toNat),
    ("inclusion_timeout_secs", Json.ofNat b.inclusionTimeoutSecs.toNat),
    ("poll_interval_ms", Json.ofNat b.pollIntervalMs.toNat)]

end Broadcast

structure Config where
  rpcUrl : String
  relayUrl : String
  /-- The account that signs the transactions of the bundle. -/
  nodeAddress : Address
  /-- The receiver of fee refunds, where one is chosen. -/
  refundAddress : Option Address
  /-- Whether the key that signs relay requests is thrown away afterwards. -/
  randomPrivateKey : Bool
  dryRun : Bool
  skipConfirmation : Bool
  profitCheck : ProfitCheck
  /-- The shell command that prints the bundle. -/
  builderCommand : String
  /-- What comes before the hash in a transaction's page, where the network's is not used. -/
  explorerTxUrl : Option String
  simulationBlockOffset : UInt64
  broadcast : Broadcast
  deriving DecidableEq

/-- Who receives the relay's fee refunds. -/
inductive RefundTarget
  | supplied (address : Address)
  | node (address : Address)
  deriving DecidableEq

def RefundTarget.address : RefundTarget → Address
  | .supplied a => a
  | .node a => a

namespace Config

def default : Config where
  rpcUrl := "http://127.0.0.1:8545"
  relayUrl := "https://relay.flashbots.net"
  nodeAddress := Address.zero
  refundAddress := none
  randomPrivateKey := false
  dryRun := false
  skipConfirmation := false
  profitCheck := .strictCost
  builderCommand := ""
  explorerTxUrl := none
  simulationBlockOffset := 0
  broadcast := Broadcast.default

/-- Who gets fee refunds: the chosen receiver, or else the node when the key is thrown away. -/
def refundTarget? (c : Config) : Option RefundTarget :=
  match c.refundAddress with
  | some a => some (.supplied a)
  | none => if c.randomPrivateKey then some (.node c.nodeAddress) else none

def fieldNames : List String :=
  ["rpc_url", "relay_url", "node_address", "refund_address", "random_private_key", "dry_run",
    "skip_confirmation", "profit_check", "builder_command", "explorer_tx_url",
    "simulation_block_offset", "broadcast"]

/-- The settings from their stored form; what is left out keeps its default. -/
def ofJson? (j : Json) : Option Config := do
  let r ← Json.Record.ofJson? fieldNames j
  return {
    rpcUrl := ← (r.slot "rpc_url").withDefault default.rpcUrl Json.text?
    relayUrl := ← (r.slot "relay_url").withDefault default.relayUrl Json.text?
    nodeAddress := ← (r.slot "node_address").withDefault default.nodeAddress Json.fixed?
    refundAddress := ← (r.slot "refund_address").withDefault none (Json.nullable? Json.fixed?)
    randomPrivateKey := ← (r.slot "random_private_key").withDefault false Json.bool?
    dryRun := ← (r.slot "dry_run").withDefault false Json.bool?
    skipConfirmation := ← (r.slot "skip_confirmation").withDefault false Json.bool?
    profitCheck := ← (r.slot "profit_check").withDefault default.profitCheck ProfitCheck.ofJson?
    builderCommand := ← (r.slot "builder_command").withDefault "" Json.text?
    explorerTxUrl := ← (r.slot "explorer_tx_url").withDefault none (Json.nullable? Json.text?)
    simulationBlockOffset := ← (r.slot "simulation_block_offset").withDefault 0 Json.uint64?
    broadcast := ← (r.slot "broadcast").withDefault default.broadcast Broadcast.ofJson? }

def toJson (c : Config) : Json :=
  Json.object [
    ("rpc_url", Json.text c.rpcUrl),
    ("relay_url", Json.text c.relayUrl),
    ("node_address", Json.ofBytes c.nodeAddress.toList),
    ("refund_address", Json.ofOption (fun a => Json.ofBytes a.toList) c.refundAddress),
    ("random_private_key", .bool c.randomPrivateKey),
    ("dry_run", .bool c.dryRun),
    ("skip_confirmation", .bool c.skipConfirmation),
    ("profit_check", c.profitCheck.toJson),
    ("builder_command", Json.text c.builderCommand),
    ("explorer_tx_url", Json.ofOption Json.text c.explorerTxUrl),
    ("simulation_block_offset", Json.ofNat c.simulationBlockOffset.toNat),
    ("broadcast", c.broadcast.toJson)]

end Config
end ArbBundle
