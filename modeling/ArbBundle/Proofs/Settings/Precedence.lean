import ArbBundle.Proofs.Settings.Fields
import Mathlib.Data.List.Nodup

/-!
# Precedence — which source says what a field holds

The command line is laid over the environment, the environment over the file, and the file over the
defaults, and all of this goes on field by field: a source that says nothing of a field leaves it to
the sources below, also where it speaks of other fields of the same table.

- `Setting.at?_layAt`, `Setting.at?_layAt_of_diverge`: a value that is put somewhere is found there,
  and changes nothing elsewhere
- `Layer.says?`: what a source says of a field; `Layer.Plain`: a source whose keys stand for fields
- `Layer.at?_lay`: what is found for a field after a source was laid over others
- `Settings.load_precedence`: what each field of the loaded settings holds
-/

namespace ArbBundle

namespace Setting

variable {α : Type} {k k' : String} {v w old : Setting} {table : List (String × Setting)}

/-! ## Tables -/

theorem entries_table : (Setting.table table).entries = table :=
  rfl

theorem lookup_entry (entry : String × Setting) :
    (entry :: table).lookup k = if k = entry.1 then some entry.2 else table.lookup k := by
  rw [List.lookup_cons]
  by_cases h : k = entry.1
  · simp [h]
  · simp [h, beq_false_of_ne h]

theorem lookup_put :
    (put k v table).lookup k' = if k' = k then some v else table.lookup k' := by
  induction table with
  | nil =>
      exact lookup_entry (k, v)
  | cons entry rest ih =>
      rw [put, lookup_entry]
      split
      · rename_i hentry
        rw [lookup_entry, hentry]
        split <;> rfl
      · rename_i hentry
        rw [lookup_entry, ih]
        -- The two keys are not the same, so at most one of them is the one looked for.
        by_cases h : k' = entry.1
        · have hne : k' ≠ k := by rwa [h]
          rw [if_pos h, if_neg hne, if_pos h]
        · rw [if_neg h, if_neg h]

theorem put_put : put k w (put k v table) = put k w table := by
  induction table with
  | nil =>
      simp [put]
  | cons entry rest ih =>
      by_cases h : entry.1 = k
      · simp [put, h]
      · simp [put, h, ih]

/-! ## Places -/

/-- Two ways that part at some key. -/
def Diverge : List SettingStep → List SettingStep → Prop
  | .key k :: rest, .key k' :: rest' => k ≠ k' ∨ Diverge rest rest'
  | _, _ => False

/-- Further steps lead nowhere from an empty table. -/
theorem at?_empty {q : List SettingStep} (h : q ≠ []) : at? q (.table []) = none := by
  cases q with
  | nil =>
      exact absurd rfl h
  | cons step rest =>
      cases step <;> rfl

/-- A value that is put somewhere is found there, laid over what was there before. -/
theorem at?_layAt (keys : List String) (old : Setting) :
    at? (keys.map .key) (layAt v (keys.map .key) old) =
      some (lay ((at? (keys.map .key) old).getD (.table [])) v) := by
  induction keys generalizing old with
  | nil =>
      rfl
  | cons k keys ih =>
      have hput : at? ((k :: keys).map .key) (layAt v ((k :: keys).map .key) old) =
          at? (keys.map .key)
            (layAt v (keys.map .key) ((old.entries.lookup k).getD (.table []))) := by
        simp only [List.map_cons, layAt, at?, entries_table, lookup_put, if_true, Option.bind_some]
      rw [hput, ih]
      -- Where there was no entry, the rest of the way was looked for in an empty table.
      cases hold : old.entries.lookup k with
      | some before =>
          simp only [List.map_cons, at?, hold, Option.bind_some, Option.getD_some]
      | none =>
          simp only [List.map_cons, at?, hold, Option.bind_none, Option.getD_none]
          cases keys <;> rfl

/-- Elsewhere all is as before. -/
theorem at?_layAt_of_diverge {p q : List SettingStep} (h : Diverge q p) :
    at? q (layAt v p old) = at? q old := by
  induction q, p using Diverge.induct generalizing old with
  | case1 k rest k' rest' ih =>
      simp only [layAt, at?, entries_table, lookup_put]
      split
      · rename_i hk
        subst hk
        have hrest : Diverge rest rest' := by simpa [Diverge] using h
        rw [Option.bind_some, ih hrest]
        cases old.entries.lookup k with
        | some before =>
            rfl
        | none =>
            -- Ways that part lead on, and there is nothing in an empty table.
            refine at?_empty fun hnil => ?_
            rw [hnil] at hrest
            cases hrest
      · rfl
  | case2 q p hq =>
      unfold Diverge at h
      split at h
      · exact (hq _ _ _ _ rfl rfl).elim
      · exact h.elim

/-- A table that is put at a key does there what its entries do one by one; only at the key itself
it also makes room for them. -/
theorem at?_layAt_table {q : List SettingStep} (hq : k' ≠ k ∨ q ≠ [])
    (incoming : List (String × Setting)) (old : Setting) :
    at? (.key k' :: q) (layAt (.table incoming) [.key k] old) =
      at? (.key k' :: q)
        (incoming.foldl (fun s (name, v) => layAt v [.key k, .key (lower name)] s) old) := by
  induction incoming generalizing old with
  | nil =>
      by_cases hk : k' = k
      · subst hk
        have hroom : at? (.key k' :: q) (layAt (.table []) [.key k'] old) =
            at? q ((old.entries.lookup k').getD (.table [])) := by
          simp only [layAt, lay, layEntries, at?, entries_table, lookup_put, if_true,
            Option.bind_some]
        rw [hroom, List.foldl_nil, at?]
        cases old.entries.lookup k' with
        | none => exact at?_empty (hq.resolve_left fun h => h rfl)
        | some before => rfl
      · exact at?_layAt_of_diverge (.inl hk)
  | cons entry rest ih =>
      have hfirst : layAt (.table (entry :: rest)) [.key k] old =
          layAt (.table rest) [.key k] (layAt entry.2 [.key k, .key (lower entry.1)] old) := by
        simp only [layAt, lay, layEntries, entries_table, lookup_put, if_true, Option.getD_some,
          put_put]
      rw [hfirst, ih, List.foldl_cons]

/-- A table that is laid over a table makes a table. -/
theorem lay_table (incoming table : List (String × Setting)) :
    ∃ table', lay (.table table) (.table incoming) = .table table' := by
  simp only [lay]
  induction incoming generalizing table with
  | nil =>
      exact ⟨table, by simp only [layEntries]⟩
  | cons entry rest ih =>
      simp only [layEntries]
      exact ih _

/-- A value that is no table takes the place of whatever was there. -/
theorem lay_of_not_table (h : ∀ entries, v ≠ .table entries) (old : Setting) : lay old v = v := by
  cases v with
  | table entries => exact absurd rfl (h entries)
  | _ => rfl

end Setting

open Settings

/-! ## Sources -/

namespace Layer

/-- What one key of a source says: a table under the key of a broadcast speaks of its entries, and
any other key of the place that it leads to. -/
def assignmentsOf : String × Setting → List (SettingPath × Setting) := fun (key, v) =>
  match SettingPath.ofText (Setting.lower key), v with
  | ⟨"broadcast", []⟩, .table entries =>
    entries.map fun (name, v) => (⟨"broadcast", [.key (Setting.lower name)]⟩, v)
  | path, v => [(path, v)]

def assignments (layer : Layer) : List (SettingPath × Setting) :=
  layer.flatMap assignmentsOf

/-- The key of a field, or one that has nothing to do with the settings of a run. -/
def Apt (p : SettingPath) : Prop :=
  (∃ f : Field, p = f.path) ∨ p.first ∉ Config.fieldNames

/-- A source that speaks of fields only, and of each of them once at most. -/
structure Plain (layer : Layer) : Prop where
  apt : ∀ said ∈ layer.assignments, Apt said.1
  once : ∀ f : Field, (layer.assignments.map Prod.fst).count f.path ≤ 1

/-- What a source says of a field; keys of tables are in lower case. -/
def says? (layer : Layer) (f : Field) : Option Setting :=
  (layer.assignments.lookup f.path).map (Setting.lay (.table []))

/-! ## Laying -/

def found (s : Setting) : Field → Option Setting :=
  fun f => s.at? f.path.steps

/-- What is found after one more was said. -/
def record (known : Field → Option Setting) (said : SettingPath × Setting) :
    Field → Option Setting :=
  fun f => if f.path = said.1 then some (Setting.lay ((known f).getD (.table [])) said.2)
    else known f

/-- The ways to two fields part. -/
theorem diverge_of_ne {f g : Field} (h : f.path ≠ g.path) :
    Setting.Diverge f.path.steps g.path.steps := by
  have hf := f.name_ne_broadcast
  have hg := g.name_ne_broadcast
  unfold Field.path at h ⊢
  split <;> split
  · refine .inr (.inl fun hname => h ?_)
    simp [*]
  · exact .inl hg.symm
  · exact .inl hf
  · refine .inl fun hname => h ?_
    simpa [*] using hname

/-- The key of another field, or of none, parts from the way to a field. -/
theorem diverge_of_apt {p : SettingPath} {f : Field} (h : Apt p) (hne : f.path ≠ p) :
    Setting.Diverge f.path.steps p.steps := by
  rcases h with ⟨g, rfl⟩ | hforeign
  · exact diverge_of_ne hne
  · refine .inl fun hfirst => hforeign ?_
    rw [← hfirst]
    exact f.first_mem_fieldNames

/-- A value put at an apt path is found for the field of that path, and for no other. -/
theorem found_layAt {p : SettingPath} (h : Apt p) (v s : Setting) :
    found (Setting.layAt v p.steps s) = record (found s) (p, v) := by
  funext f
  simp only [found, record]
  split
  · rename_i hp
    obtain ⟨keys, hkeys⟩ := f.steps_eq
    have hsteps : p.steps = keys.map .key := by
      rw [← hkeys, hp]
    rw [hsteps, hkeys]
    exact Setting.at?_layAt keys s
  · rename_i hp
    exact Setting.at?_layAt_of_diverge (diverge_of_apt h hp)

/-- One key after the other, what is found is what was said. -/
theorem found_layAll (said : List (SettingPath × Setting)) (h : ∀ x ∈ said, Apt x.1)
    (s : Setting) :
    found (said.foldl (fun s (p, v) => Setting.layAt v p.steps s) s) =
      said.foldl record (found s) := by
  induction said generalizing s with
  | nil =>
      rfl
  | cons x rest ih =>
      rw [List.foldl_cons, List.foldl_cons, ih fun y hy => h y (List.mem_cons_of_mem _ hy),
        found_layAt (h x List.mem_cons_self)]

/-- What one key of a source says is recorded field by field, in its order. -/
theorem found_assign {key : String} {v : Setting} (h : ∀ x ∈ assignmentsOf (key, v), Apt x.1)
    (s : Setting) :
    found (Setting.layAt v (SettingPath.ofText (Setting.lower key)).steps s) =
      (assignmentsOf (key, v)).foldl record (found s) := by
  rw [← found_layAll _ h]
  unfold assignmentsOf
  dsimp only
  split
  · -- A table of a broadcast is laid over the one that is there entry by entry.
    rename_i path value entries hpath
    rw [hpath, List.foldl_map]
    funext f
    exact Setting.at?_layAt_table f.leads_below_broadcast entries s
  · rfl

/-- What is found for a field after a source was laid over others. -/
theorem found_lay (layer : Layer) (h : ∀ x ∈ layer.assignments, Apt x.1)
    (below : List (String × Setting)) :
    found (.table (lay below layer)) = layer.assignments.foldl record (found (.table below)) := by
  induction layer generalizing below with
  | nil =>
      rfl
  | cons x rest ih =>
      have hx : ∀ y ∈ assignmentsOf x, Apt y.1 := fun y hy => h y (List.mem_append_left _ hy)
      have hrest : ∀ y ∈ assignments rest, Apt y.1 := fun y hy => h y (List.mem_append_right _ hy)
      have hone : found (.table (layOne below x.1 x.2)) =
          (assignmentsOf x).foldl record (found (.table below)) := found_assign hx (.table below)
      have hall : assignments (x :: rest) = assignmentsOf x ++ assignments rest :=
        List.flatMap_cons
      rw [hall, List.foldl_append, ← hone]
      exact ih hrest _

/-- A source that speaks of a field once says what is found for it. -/
theorem foldl_record {said : List (SettingPath × Setting)} {f : Field}
    (h : (said.map Prod.fst).count f.path ≤ 1) (known : Field → Option Setting) :
    said.foldl record known f =
      ((said.lookup f.path).map (Setting.lay ((known f).getD (.table [])))).or (known f) := by
  induction said generalizing known with
  | nil =>
      rfl
  | cons x rest ih =>
      rw [List.map_cons, List.count_cons] at h
      rw [List.foldl_cons, ih (by omega), List.lookup_cons]
      by_cases hx : f.path = x.1
      · -- Nothing further is said of the field.
        have hcount : (rest.map Prod.fst).count f.path = 0 := by
          rw [if_pos (by simp [hx])] at h
          omega
        have hrest : rest.lookup f.path = none := by
          rw [List.lookup_eq_none_iff]
          intro y hy
          have hmem := List.count_eq_zero.1 hcount
          simp only [bne_iff_ne, ne_eq]
          exact fun hpath => hmem (hpath ▸ List.mem_map_of_mem hy)
        rw [hrest]
        simp [record, hx]
      · simp [record, hx, beq_false_of_ne hx]

/-- No source puts anything but a table where the table of a broadcast stands. -/
theorem tabular_layOne {below : List (String × Setting)} {key : String} {v : Setting}
    (h : ∀ x ∈ assignmentsOf (key, v), Apt x.1) (hbelow : Tabular (.table below)) :
    Tabular (.table (layOne below key v)) := by
  have helsewhere {p : SettingPath} (hfirst : "broadcast" ≠ p.first) :
      Tabular (Setting.layAt v p.steps (.table below)) := by
    have hpart : Setting.Diverge [.key "broadcast"] p.steps := .inl hfirst
    unfold Tabular
    rw [Setting.at?_layAt_of_diverge hpart]
    exact hbelow
  show Tabular (Setting.layAt v (SettingPath.ofText (Setting.lower key)).steps (.table below))
  unfold assignmentsOf at h
  dsimp only at h
  split at h
  · rename_i path value entries hpath
    -- What was there before is a table, or nothing, for which an empty one stands.
    obtain ⟨table, htable⟩ : ∃ table,
        (Setting.at? [.key "broadcast"] (.table below)).getD (.table []) = .table table := by
      cases hbefore : Setting.at? [.key "broadcast"] (.table below) with
      | none => exact ⟨[], rfl⟩
      | some before => exact hbelow before hbefore
    have hlaid : Setting.at? [.key "broadcast"]
        (Setting.layAt (.table entries) [.key "broadcast"] (.table below)) =
          some (Setting.lay (.table table) (.table entries)) := by
      rw [← htable]
      exact Setting.at?_layAt ["broadcast"] (.table below)
    rw [hpath]
    intro b hb
    obtain rfl := Option.some.inj (hlaid.symm.trans hb)
    exact Setting.lay_table entries table
  · rcases h _ (List.mem_singleton_self _) with ⟨f, hf⟩ | hforeign
    · dsimp only at hf
      rw [hf]
      by_cases hfirst : "broadcast" = f.path.first
      · intro b hb
        -- The field is an entry of the table, which is made where there was none.
        obtain ⟨name, hrest⟩ := Field.rest_of_broadcast hfirst
        have hsteps : f.path.steps = [.key "broadcast", .key name] := by
          rw [SettingPath.steps, ← hfirst, hrest]
        rw [hsteps, Setting.layAt, at?_key, Setting.lookup_put, if_pos rfl] at hb
        exact ⟨_, (Option.some.inj hb).symm⟩
      · exact helsewhere hfirst
    · refine helsewhere fun hfirst => hforeign ?_
      rw [← hfirst]
      decide

/-- Apt layers leave the settings of a broadcast a table. -/
theorem tabular_lay (layer : Layer) (h : ∀ x ∈ layer.assignments, Apt x.1)
    {below : List (String × Setting)} (hbelow : Tabular (.table below)) :
    Tabular (.table (lay below layer)) := by
  induction layer generalizing below with
  | nil =>
      exact hbelow
  | cons x rest ih =>
      have hx : ∀ y ∈ assignmentsOf x, Apt y.1 := fun y hy => h y (List.mem_append_left _ hy)
      exact ih (fun y hy => h y (List.mem_append_right _ hy)) (tabular_layOne hx hbelow)

/-- A source whose keys are those of different fields. -/
theorem plain_of_fields {layer : Layer} (fields : List Field) (hnodup : fields.Nodup)
    (h : layer.assignments.map Prod.fst = fields.map Field.path) : layer.Plain := by
  constructor
  · intro x hx
    have hpath : x.1 ∈ fields.map Field.path := h ▸ List.mem_map_of_mem hx
    obtain ⟨f, -, hf⟩ := List.mem_map.1 hpath
    exact .inl ⟨f, hf.symm⟩
  · intro f
    rw [h]
    exact List.nodup_iff_count_le_one.1 (hnodup.map Field.path_injective) f.path

/-! ## The environment -/

theorem valueOf_not_table (s : String) (entries : List (String × Setting)) :
    valueOf s ≠ .table entries := by
  unfold valueOf
  split
  · nofun
  · nofun
  · split
    · nofun
    · split <;> nofun

/-- The environment says nothing but plain values. -/
theorem not_table_of_environment {environment : List (String × String)}
    {x : SettingPath × Setting} (h : x ∈ (ofEnvironment environment).assignments)
    (entries : List (String × Setting)) : x.2 ≠ .table entries := by
  obtain ⟨⟨key, v⟩, hentry, hx⟩ := List.mem_flatMap.1 h
  obtain ⟨⟨name, value⟩, -, hkey⟩ := List.mem_filterMap.1 hentry
  obtain ⟨key', -, heq⟩ := Option.map_eq_some_iff.1 hkey
  cases heq
  unfold assignmentsOf at hx
  dsimp only at hx
  split at hx
  · rename_i hvalue
    exact absurd hvalue (valueOf_not_table value _)
  · obtain rfl := List.mem_singleton.1 hx
    exact valueOf_not_table value entries

end Layer

namespace Settings

/-- What the file says; where there is none, nothing. -/
def fileLayer? : Option (List Char) → Option Layer
  | none => some []
  | some text => Layer.ofToml? text

/-- What is found for a field is what the environment says of it, or else what the file says. -/
theorem found_entries {layer : Layer} {environment : List (String × String)}
    (hfile : layer.Plain) (henv : (Layer.ofEnvironment environment).Plain) (f : Field) :
    Layer.found (.table (Layer.lay (Layer.lay [] layer) (Layer.ofEnvironment environment))) f =
      ((Layer.ofEnvironment environment).says? f).or (layer.says? f) := by
  have hbottom : Layer.found (.table []) f = none :=
    Setting.at?_empty (List.cons_ne_nil _ _)
  have hbelow : Layer.found (.table (Layer.lay [] layer)) f = layer.says? f := by
    rw [Layer.found_lay layer hfile.apt, Layer.foldl_record (hfile.once f), hbottom]
    exact Option.or_none
  rw [Layer.found_lay _ henv.apt, Layer.foldl_record (henv.once f), hbelow]
  unfold Layer.says?
  cases hsaid : (Layer.ofEnvironment environment).assignments.lookup f.path with
  | none =>
      rfl
  | some v =>
      -- A plain value takes the place of whatever is below it.
      obtain ⟨before, after, hmem, -⟩ := List.lookup_eq_some_iff.1 hsaid
      have hplain : ∀ entries, v ≠ .table entries :=
        Layer.not_table_of_environment (x := (f.path, v)) (by rw [hmem]; simp)
      simp only [Option.map_some, Setting.lay_of_not_table hplain]

def configFrom (value : (f : Field) → f.Value) : Config where
  rpcUrl := value .rpcUrl
  relayUrl := value .relayUrl
  nodeAddress := value .nodeAddress
  refundAddress := value .refundAddress
  randomPrivateKey := value .randomPrivateKey
  dryRun := value .dryRun
  skipConfirmation := value .skipConfirmation
  profitCheck := value .profitCheck
  builderCommand := value .builderCommand
  explorerTxUrl := value .explorerTxUrl
  simulationBlockOffset := value .simulationBlockOffset
  broadcast := ⟨value .retryRounds, value .inclusionTimeoutSecs, value .pollIntervalMs⟩

theorem get_configFrom (value : (f : Field) → f.Value) (f : Field) :
    f.get (configFrom value) = value f := by
  cases f <;> rfl

/-- Loading is the reading of the laid entries, and then the flags on top. -/
theorem load_eq_ok_iff {flags : Flags} {file : Option (List Char)}
    {environment : List (String × String)} {layer : Layer} (hlayer : fileLayer? file = some layer)
    {config : Config} :
    load flags file environment = .ok config ↔
      ∃ c, Setting.configOf
        (Layer.lay (Layer.lay [] layer) (Layer.ofEnvironment environment)) = .ok c ∧
          flags.apply c = config := by
  have hentries : entries file environment =
      .ok (Layer.lay (Layer.lay [] layer) (Layer.ofEnvironment environment)) := by
    cases file with
    | none =>
        cases hlayer
        rfl
    | some text =>
        have htext : Layer.ofToml? text = some layer := hlayer
        simp only [entries, htext]
        rfl
  rw [load, hentries]
  show (Setting.configOf _ >>= fun c => .ok (flags.apply c)) = .ok config ↔ _
  rw [bind_eq_ok_iff]
  simp only [Except.ok.injEq]

/-- Settings are loaded just where every field makes something of what it is told, and then each
field, one of a broadcast as well as any other, holds what its flag says; or else what the
environment says; or else what the file says; or else its default.  A switch is on as soon as the
flag or the rest says so.  Laying the flags over it all once more changes nothing. -/
theorem load_precedence {flags : Flags} {file : Option (List Char)}
    {environment : List (String × String)} {layer : Layer} (hlayer : fileLayer? file = some layer)
    (hfile : layer.Plain) (henv : (Layer.ofEnvironment environment).Plain) (config : Config) :
    (load flags file environment = .ok config ↔
      ∀ f : Field, ∃ v,
        f.said (((Layer.ofEnvironment environment).says? f).or (layer.says? f)) = .ok v ∧
        f.get config = f.flagged flags v) ∧
      (load flags file environment = .ok config → flags.apply config = config) := by
  have hloaded : load flags file environment = .ok config ↔
      ∃ c, (∀ f : Field, f.said (((Layer.ofEnvironment environment).says? f).or (layer.says? f)) =
        .ok (f.get c)) ∧ flags.apply c = config := by
    rw [load_eq_ok_iff hlayer]
    refine exists_congr fun c => and_congr_left fun _ => ?_
    have htable : Tabular (.table
        (Layer.lay (Layer.lay [] layer) (Layer.ofEnvironment environment))) :=
      Layer.tabular_lay _ henv.apt (Layer.tabular_lay layer hfile.apt nofun)
    rw [configOf_eq_ok_iff htable]
    exact forall_congr' fun f => by rw [← found_entries hfile henv f]; rfl
  constructor
  · rw [hloaded]
    constructor
    · rintro ⟨c, hsaid, rfl⟩ f
      exact ⟨f.get c, hsaid f, get_apply flags c f⟩
    · intro h
      choose value hsaid hget using h
      refine ⟨configFrom value, fun f => ?_, config_ext fun f => ?_⟩
      · rw [get_configFrom]
        exact hsaid f
      · rw [get_apply, get_configFrom]
        exact (hget f).symm
  · -- Whatever was loaded has the flags laid over it already.
    intro h
    obtain ⟨c, -, rfl⟩ := hloaded.1 h
    exact apply_apply flags c

/-- A file that speaks of two fields of a broadcast and turns a switch off. -/
def storedText : List Char :=
  "dry_run=false\n[broadcast]\nretry_rounds=2\npoll_interval_ms=7\n".toList

/-- An environment that speaks of one of the two fields. -/
def storedVariables : List (String × String) :=
  [("HOME", "/root"), ("ARB_BROADCAST__RETRY_ROUNDS", "5")]

/-- Each field of the broadcast has its value from another source. -/
def layered : Config :=
  { Config.default with dryRun := true, broadcast := ⟨5, 60, 7⟩ }

/-- Each layer has its say: a default, the file, the environment and a flag are all seen in the
settings. -/
theorem load_precedence_layered :
    let flags := { Flags.none with dryRun := true }
    ∃ layer, fileLayer? (some storedText) = some layer ∧ layer.Plain ∧
      (Layer.ofEnvironment storedVariables).Plain ∧
      load flags (some storedText) storedVariables = .ok layered ∧
      (∀ f : Field, ∃ v,
        f.said (((Layer.ofEnvironment storedVariables).says? f).or (layer.says? f)) = .ok v ∧
        f.get layered = f.flagged flags v) ∧
      flags.apply layered = layered := by
  intro flags
  have hpaths : (fileLayer? (some storedText)).map (fun layer => layer.assignments.map Prod.fst) =
      some ([Field.dryRun, .retryRounds, .pollIntervalMs].map Field.path) := by
    decide +kernel
  obtain ⟨layer, hlayer, hkeys⟩ := Option.map_eq_some_iff.1 hpaths
  have hfile : layer.Plain := Layer.plain_of_fields _ (by decide) hkeys
  have henv : (Layer.ofEnvironment storedVariables).Plain :=
    Layer.plain_of_fields [.retryRounds] (by decide) (by decide +kernel)
  have hload : load flags (some storedText) storedVariables = .ok layered := by
    have hloaded : (load flags (some storedText) storedVariables).toOption = some layered := by
      decide +kernel
    cases hresult : load flags (some storedText) storedVariables with
    | error e =>
        rw [hresult] at hloaded
        cases hloaded
    | ok config =>
        rw [hresult] at hloaded
        rw [Option.some.inj hloaded]
  obtain ⟨hfields, hagain⟩ := load_precedence hlayer hfile henv layered
  exact ⟨layer, hlayer, hfile, henv, hload, hfields.1 hload, hagain hload⟩

end Settings
end ArbBundle
