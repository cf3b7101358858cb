import ArbBundle.Settings.Load

/-!
# Fields — the settings of a run, one by one

Every field has a place among the entries, a reader, and a flag that is laid over it; what the
settings as a whole are is what their fields are.

- `Settings.Field`: the fields, those of a broadcast included
- `Setting.at?`: what stands at the end of some steps; `Field.path` leads to a field
- `Field.said`: what a field makes of the value that was found for it, if one was
- `Settings.configOf_eq_ok_iff_fields`, `Settings.configOf_eq_ok_iff`: settings are read field by
  field
- `Settings.get_apply`: flags are laid over field by field
-/

namespace ArbBundle

/-! ## Places -/

def SettingPath.steps (p : SettingPath) : List SettingStep :=
  .key p.first :: p.rest

/-- What stands at the end of some steps; only tables lead on. -/
def Setting.at? : List SettingStep → Setting → Option Setting
  | [], s => some s
  | .key k :: rest, s => (s.entries.lookup k).bind (at? rest)
  | .index _ :: _, _ => none

namespace Settings

/-! ## Fields -/

inductive Field
  | rpcUrl
  | relayUrl
  | nodeAddress
  | refundAddress
  | randomPrivateKey
  | dryRun
  | skipConfirmation
  | profitCheck
  | builderCommand
  | explorerTxUrl
  | simulationBlockOffset
  | retryRounds
  | inclusionTimeoutSecs
  | pollIntervalMs
  deriving DecidableEq

namespace Field

def name : Field → String
  | .rpcUrl => "rpc_url"
  | .relayUrl => "relay_url"
  | .nodeAddress => "node_address"
  | .refundAddress => "refund_address"
  | .randomPrivateKey => "random_private_key"
  | .dryRun => "dry_run"
  | .skipConfirmation => "skip_confirmation"
  | .profitCheck => "profit_check"
  | .builderCommand => "builder_command"
  | .explorerTxUrl => "explorer_tx_url"
  | .simulationBlockOffset => "simulation_block_offset"
  | .retryRounds => "retry_rounds"
  | .inclusionTimeoutSecs => "inclusion_timeout_secs"
  | .pollIntervalMs => "poll_interval_ms"

def inBroadcast : Field → Bool
  | .retryRounds => true
  | .inclusionTimeoutSecs => true
  | .pollIntervalMs => true
  | _ => false

def path (f : Field) : SettingPath :=
  if f.inBroadcast then ⟨"broadcast", [.key f.name]⟩ else ⟨f.name, []⟩

def Value : Field → Type
  | .rpcUrl => String
  | .relayUrl => String
  | .nodeAddress => Address
  | .refundAddress => Option Address
  | .randomPrivateKey => Bool
  | .dryRun => Bool
  | .skipConfirmation => Bool
  | .profitCheck => ProfitCheck
  | .builderCommand => String
  | .explorerTxUrl => Option String
  | .simulationBlockOffset => UInt64
  | .retryRounds => UInt32
  | .inclusionTimeoutSecs => UInt64
  | .pollIntervalMs => UInt64

def read : (f : Field) → Setting → Except SettingsError f.Value
  | .rpcUrl => Setting.asText
  | .relayUrl => Setting.asText
  | .nodeAddress => Setting.asAddress
  | .refundAddress => Setting.asOption Setting.asAddress
  | .randomPrivateKey => Setting.asBool
  | .dryRun => Setting.asBool
  | .skipConfirmation => Setting.asBool
  | .profitCheck => Setting.asProfitCheck
  | .builderCommand => Setting.asText
  | .explorerTxUrl => Setting.asOption Setting.asText
  | .simulationBlockOffset => Setting.asUInt64
  | .retryRounds => Setting.asUInt32
  | .inclusionTimeoutSecs => Setting.asUInt64
  | .pollIntervalMs => Setting.asUInt64

def get : (f : Field) → Config → f.Value
  | .rpcUrl => Config.rpcUrl
  | .relayUrl => Config.relayUrl
  | .nodeAddress => Config.nodeAddress
  | .refundAddress => Config.refundAddress
  | .randomPrivateKey => Config.randomPrivateKey
  | .dryRun => Config.dryRun
  | .skipConfirmation => Config.skipConfirmation
  | .profitCheck => Config.profitCheck
  | .builderCommand => Config.builderCommand
  | .explorerTxUrl => Config.explorerTxUrl
  | .simulationBlockOffset => Config.simulationBlockOffset
  | .retryRounds => fun c => c.broadcast.retryRounds
  | .inclusionTimeoutSecs => fun c => c.broadcast.inclusionTimeoutSecs
  | .pollIntervalMs => fun c => c.broadcast.pollIntervalMs

/-- The flag of the field laid over a value: what the flag says takes the place of the value, and a
switch turns it on.  One field has no flag. -/
def flagged (flags : Flags) : (f : Field) → f.Value → f.Value
  | .rpcUrl, v => flags.rpcUrl.getD v
  | .relayUrl, v => flags.relayUrl.getD v
  | .nodeAddress, v => flags.nodeAddress.getD v
  | .refundAddress, v => flags.refundAddress.or v
  | .randomPrivateKey, v => flags.randomPrivateKey || v
  | .dryRun, v => flags.dryRun || v
  | .skipConfirmation, v => flags.yes || v
  | .profitCheck, v => flags.profitCheck.getD v
  | .builderCommand, v => flags.builderCommand.getD v
  | .explorerTxUrl, v => flags.explorerTxUrl.or v
  | .simulationBlockOffset, v => flags.simulationBlockOffset.getD v
  | .retryRounds, v => flags.retryRounds.getD v
  | .inclusionTimeoutSecs, v => flags.inclusionTimeout.getD v
  | .pollIntervalMs, v => v

/-- Different fields have different places. -/
theorem path_injective : Function.Injective path := by
  intro f g h
  cases f <;> cases g <;> first | rfl | exact absurd h (by decide)

theorem name_ne_broadcast (f : Field) : f.name ≠ "broadcast" := by
  cases f <;> decide

theorem first_mem_fieldNames (f : Field) : f.path.first ∈ Config.fieldNames := by
  cases f <;> decide

/-- The table of a broadcast is on the way to its fields, and is none of them itself. -/
theorem rest_of_broadcast {f : Field} (h : "broadcast" = f.path.first) :
    ∃ name, f.path.rest = [.key name] := by
  unfold path at h ⊢
  split
  · exact ⟨f.name, rfl⟩
  · rename_i hf
    rw [if_neg hf] at h
    exact absurd h.symm f.name_ne_broadcast

/-- No field is the table of a broadcast itself. -/
theorem leads_below_broadcast (f : Field) : f.path.first ≠ "broadcast" ∨ f.path.rest ≠ [] := by
  by_cases h : f.path.first = "broadcast"
  · obtain ⟨name, hrest⟩ := rest_of_broadcast h.symm
    exact .inr (by simp [hrest])
  · exact .inl h

/-- Only keys lead to a field. -/
theorem steps_eq (f : Field) : ∃ keys : List String, f.path.steps = keys.map .key := by
  unfold path
  split
  · exact ⟨["broadcast", f.name], rfl⟩
  · exact ⟨[f.name], rfl⟩

/-- What the field makes of the value that was found for it; where there is none, it keeps its
default. -/
def said (f : Field) : Option Setting → Except SettingsError f.Value
  | none => .ok (f.get Config.default)
  | some s => f.read s

end Field

/-- Settings with the same fields are the same. -/
theorem config_ext {c c' : Config} (h : ∀ f : Field, f.get c = f.get c') : c = c' := by
  rcases c with ⟨_, _, _, _, _, _, _, _, _, _, _, ⟨_, _, _⟩⟩
  rcases c' with ⟨_, _, _, _, _, _, _, _, _, _, _, ⟨_, _, _⟩⟩
  obtain rfl := h .rpcUrl
  obtain rfl := h .relayUrl
  obtain rfl := h .nodeAddress
  obtain rfl := h .refundAddress
  obtain rfl := h .randomPrivateKey
  obtain rfl := h .dryRun
  obtain rfl := h .skipConfirmation
  obtain rfl := h .profitCheck
  obtain rfl := h .builderCommand
  obtain rfl := h .explorerTxUrl
  obtain rfl := h .simulationBlockOffset
  obtain rfl := h .retryRounds
  obtain rfl := h .inclusionTimeoutSecs
  obtain rfl := h .pollIntervalMs
  rfl

/-- Flags are laid over each field alone. -/
theorem get_apply (flags : Flags) (c : Config) (f : Field) :
    f.get (flags.apply c) = f.flagged flags (f.get c) := by
  cases f with
  | randomPrivateKey | dryRun | skipConfirmation =>
      exact Bool.or_comm _ _
  | _ =>
      rfl

/-- A flag that is laid over a field twice has done all it does the first time. -/
theorem flagged_flagged (flags : Flags) (f : Field) (v : f.Value) :
    f.flagged flags (f.flagged flags v) = f.flagged flags v := by
  have hvalue {α : Type} (flag? : Option α) (v : α) : flag?.getD (flag?.getD v) = flag?.getD v := by
    cases flag? <;> rfl
  have hchoice {α : Type} (flag? v : Option α) : flag?.or (flag?.or v) = flag?.or v := by
    cases flag? <;> rfl
  have hswitch (flag v : Bool) : (flag || (flag || v)) = (flag || v) := by
    cases flag <;> rfl
  cases f with
  | randomPrivateKey | dryRun | skipConfirmation =>
      exact hswitch _ v
  | refundAddress | explorerTxUrl =>
      exact hchoice _ v
  | pollIntervalMs =>
      rfl
  | _ =>
      exact hvalue _ v

/-- Laying the same flags over settings again changes nothing. -/
theorem apply_apply (flags : Flags) (c : Config) :
    flags.apply (flags.apply c) = flags.apply c := by
  refine config_ext fun f => ?_
  rw [get_apply, get_apply, flagged_flagged]

/-! ## Reading -/

/-- The entry of a broadcast, if there is one, is a table. -/
def Tabular (s : Setting) : Prop :=
  ∀ b ∈ s.at? [.key "broadcast"], ∃ entries, b = .table entries

theorem bind_eq_ok_iff {ε α β : Type} {x : Except ε α} {f : α → Except ε β} {b : β} :
    (x >>= f) = .ok b ↔ ∃ a, x = .ok a ∧ f a = .ok b := by
  cases x with
  | error e =>
      simp [bind, Except.bind]
  | ok a =>
      simp [bind, Except.bind]

theorem at?_key (k : String) (entries : List (String × Setting)) :
    Setting.at? [.key k] (.table entries) = entries.lookup k := by
  show (entries.lookup k).bind (Setting.at? []) = _
  cases entries.lookup k <;> rfl

/-- The settings of a broadcast are read just where each of the three fields is, from its own
entry. -/
theorem broadcastOf_eq_ok_iff {entries : List (String × Setting)} {b : Broadcast} :
    Setting.broadcastOf entries = .ok b ↔
      Field.retryRounds.said (entries.lookup "retry_rounds") = .ok b.retryRounds ∧
      Field.inclusionTimeoutSecs.said (entries.lookup "inclusion_timeout_secs") =
        .ok b.inclusionTimeoutSecs ∧
      Field.pollIntervalMs.said (entries.lookup "poll_interval_ms") = .ok b.pollIntervalMs := by
  simp only [Setting.broadcastOf, bind_eq_ok_iff]
  constructor
  · rintro ⟨rounds, hrounds, timeout, htimeout, interval, hinterval, h⟩
    cases h
    exact ⟨hrounds, htimeout, hinterval⟩
  · rintro ⟨hrounds, htimeout, hinterval⟩
    exact ⟨_, hrounds, _, htimeout, _, hinterval, rfl⟩

/-- The settings of a broadcast are read where its table stands. -/
theorem broadcast_eq_ok_iff {entries : List (String × Setting)} {b : Broadcast}
    (h : Tabular (.table entries)) :
    Setting.field entries "broadcast" Broadcast.default Setting.asBroadcast = .ok b ↔
      Field.retryRounds.said (Setting.at? Field.retryRounds.path.steps (.table entries)) =
        .ok b.retryRounds ∧
      Field.inclusionTimeoutSecs.said
        (Setting.at? Field.inclusionTimeoutSecs.path.steps (.table entries)) =
          .ok b.inclusionTimeoutSecs ∧
      Field.pollIntervalMs.said (Setting.at? Field.pollIntervalMs.path.steps (.table entries)) =
        .ok b.pollIntervalMs := by
  unfold Tabular at h
  rw [at?_key] at h
  have hplace (f : Field) (hf : f.inBroadcast = true) :
      Setting.at? f.path.steps (.table entries) =
        (entries.lookup "broadcast").bind (Setting.at? [.key f.name]) := by
    rw [Field.path, if_pos hf]
    rfl
  rw [hplace _ rfl, hplace _ rfl, hplace _ rfl]
  unfold Setting.field
  cases hb : entries.lookup "broadcast" with
  | none =>
      constructor
      · intro hdefault
        cases hdefault
        exact ⟨rfl, rfl, rfl⟩
      · rintro ⟨hrounds, htimeout, hinterval⟩
        rcases b with ⟨_, _, _⟩
        cases hrounds
        cases htimeout
        cases hinterval
        rfl
  | some s =>
      obtain ⟨own, rfl⟩ := h s hb
      simp only [Option.bind_some, at?_key]
      exact broadcastOf_eq_ok_iff

/-- Settings are read field by field, and those of a broadcast together. -/
theorem configOf_eq_ok_iff_fields {entries : List (String × Setting)} {c : Config} :
    Setting.configOf entries = .ok c ↔
      (∀ f : Field, f.inBroadcast = false → f.said (entries.lookup f.name) = .ok (f.get c)) ∧
      Setting.field entries "broadcast" Broadcast.default Setting.asBroadcast =
        .ok c.broadcast := by
  simp only [Setting.configOf, bind_eq_ok_iff]
  constructor
  · rintro ⟨_, _, _, _, _, _, _, _, _, _, _, _, _, _, _, _, _, _, _, _, _, _, _, hbroadcast, hc⟩
    cases hc
    refine ⟨fun f hf => ?_, hbroadcast⟩
    cases f with
    | retryRounds | inclusionTimeoutSecs | pollIntervalMs => cases hf
    | _ => assumption
  · rintro ⟨hfield, hbroadcast⟩
    exact ⟨_, hfield .rpcUrl rfl, _, hfield .relayUrl rfl, _, hfield .nodeAddress rfl,
      _, hfield .refundAddress rfl, _, hfield .randomPrivateKey rfl, _, hfield .dryRun rfl,
      _, hfield .skipConfirmation rfl, _, hfield .profitCheck rfl, _, hfield .builderCommand rfl,
      _, hfield .explorerTxUrl rfl, _, hfield .simulationBlockOffset rfl, _, hbroadcast, rfl⟩

/-- Settings are read field by field, those of a broadcast as well where they stand in a table. -/
theorem configOf_eq_ok_iff {entries : List (String × Setting)} {c : Config}
    (h : Tabular (.table entries)) :
    Setting.configOf entries = .ok c ↔
      ∀ f : Field, f.said (Setting.at? f.path.steps (.table entries)) = .ok (f.get c) := by
  have hplace (f : Field) (hf : f.inBroadcast = false) :
      Setting.at? f.path.steps (.table entries) = entries.lookup f.name := by
    rw [Field.path, if_neg (by simp [hf])]
    exact at?_key _ _
  rw [configOf_eq_ok_iff_fields, broadcast_eq_ok_iff h]
  constructor
  · rintro ⟨hfield, hrounds, htimeout, hinterval⟩ f
    cases f with
    | retryRounds => exact hrounds
    | inclusionTimeoutSecs => exact htimeout
    | pollIntervalMs => exact hinterval
    | _ =>
        rw [hplace _ rfl]
        exact hfield _ rfl
  · intro hsaid
    refine ⟨fun f hf => ?_, hsaid .retryRounds, hsaid .inclusionTimeoutSecs, hsaid .pollIntervalMs⟩
    rw [← hplace f hf]
    exact hsaid f

end Settings
end ArbBundle
