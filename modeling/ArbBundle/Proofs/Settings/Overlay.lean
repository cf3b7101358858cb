import ArbBundle.Proofs.Settings.Precedence

/-!
# Overlay — one text more among the settings

A source that says something of one field, and of the others what another source says, gives the
same settings but for this field.  So it does not matter which source says it.

- `Settings.TextField`: the fields that hold texts; `TextField.put`: settings with one of them
  replaced
- `Layer.about`, `Layer.aside`: what a source says of such a field, and all else
- `Layer.AgreeBut`: entries that are the same but under one key; `AgreeBut.lay` passes it on
- `Settings.load_of_said`: what is loaded when something else is said of a field
-/

namespace ArbBundle

namespace Settings

inductive TextField
  | rpcUrl
  | relayUrl
  | builderCommand
  | explorerTxUrl
  deriving DecidableEq

namespace TextField

def field : TextField → Field
  | .rpcUrl => .rpcUrl
  | .relayUrl => .relayUrl
  | .builderCommand => .builderCommand
  | .explorerTxUrl => .explorerTxUrl

def name (f : TextField) : String :=
  f.field.name

def variableName : TextField → String
  | .rpcUrl => "ARB_RPC_URL"
  | .relayUrl => "ARB_RELAY_URL"
  | .builderCommand => "ARB_BUILDER_COMMAND"
  | .explorerTxUrl => "ARB_EXPLORER_TX_URL"

/-- What the command line says of the field. -/
def flag? (flags : Flags) : TextField → Option String
  | .rpcUrl => flags.rpcUrl
  | .relayUrl => flags.relayUrl
  | .builderCommand => flags.builderCommand
  | .explorerTxUrl => flags.explorerTxUrl

def put (text : String) (c : Config) : TextField → Config
  | .rpcUrl => { c with rpcUrl := text }
  | .relayUrl => { c with relayUrl := text }
  | .builderCommand => { c with builderCommand := text }
  | .explorerTxUrl => { c with explorerTxUrl := some text }

variable {f : TextField} {g : Field} {flags : Flags} {text : String} {c : Config} {v : Setting}

/-- The variable of a field is found to hold the field's key. -/
theorem keyOf?_variableName (f : TextField) : Layer.keyOf? f.variableName = some f.name := by
  cases f <;> decide +kernel

/-- The key of a field leads to one entry of the root table. -/
theorem ofText_name (f : TextField) :
    SettingPath.ofText (Setting.lower f.name) = ⟨f.name, []⟩ := by
  cases f <;> decide +kernel

theorem name_ne_broadcast (f : TextField) : "broadcast" ≠ f.name :=
  f.field.name_ne_broadcast.symm

/-- A text that is put into one field is not seen in another. -/
theorem get_put_of_ne (h : g ≠ f.field) : g.get (f.put text c) = g.get c := by
  cases f <;> cases g <;> first | rfl | exact absurd rfl h

theorem broadcast_put : (f.put text c).broadcast = c.broadcast := by
  cases f <;> rfl

/-- A value that makes a text makes this text of the field. -/
theorem said_put (h : v.asText = .ok text) :
    f.field.said (some v) = .ok (f.field.get (f.put text c)) := by
  cases f with
  | explorerTxUrl =>
      show Setting.asOption Setting.asText v = .ok (some text)
      cases v with
      | nothing => cases h
      | _ => exact congrArg (some <$> ·) h
  | _ => exact h

/-- Flags that say nothing of the field leave the text there. -/
theorem apply_put (h : f.flag? flags = none) :
    flags.apply (f.put text c) = f.put text (flags.apply c) := by
  cases f <;> (unfold flag? at h; simp [Flags.apply, put, h])

/-- A text can be told from the settings that it was put into. -/
theorem put_injective {text' : String} (h : f.put text c = f.put text' c) : text = text' := by
  cases f with
  | explorerTxUrl => exact Option.some.inj (congrArg Config.explorerTxUrl h)
  | rpcUrl => exact congrArg Config.rpcUrl h
  | relayUrl => exact congrArg Config.relayUrl h
  | builderCommand => exact congrArg Config.builderCommand h

end TextField
end Settings

open Settings

/-! ## Sources -/

namespace Layer

variable {f : TextField} {k key : String} {v : Setting} {layer layer' : Layer}
  {table table' : List (String × Setting)}

/-- Whether a key leads to a field, or through it. -/
def concerns (f : TextField) (key : String) : Bool :=
  (SettingPath.ofText (Setting.lower key)).first = f.name

def about (f : TextField) (layer : Layer) : Layer :=
  layer.filter fun said => concerns f said.1

/-- What a source says besides. -/
def aside (f : TextField) (layer : Layer) : Layer :=
  layer.filter fun said => !concerns f said.1

/-- A source that puts a text under the key of a field, and says all else that another one says. -/
structure Writes (f : TextField) (text : String) (layer layer' : Layer) : Prop where
  about : layer'.about f = [(f.name, .text text)]
  aside : layer'.aside f = layer.aside f

theorem concerns_name (f : TextField) : concerns f f.name = true := by
  rw [concerns, f.ofText_name]
  exact decide_eq_true rfl

theorem about_cons (said : String × Setting) : about f (said :: layer) =
    if concerns f said.1 then said :: about f layer else about f layer :=
  List.filter_cons

theorem aside_cons (said : String × Setting) : aside f (said :: layer) =
    if concerns f said.1 then aside f layer else said :: aside f layer := by
  cases hkey : concerns f said.1 <;> simp [aside, hkey]

theorem about_append : about f (layer ++ layer') = about f layer ++ about f layer' :=
  List.filter_append ..

theorem aside_append : aside f (layer ++ layer') = aside f layer ++ aside f layer' :=
  List.filter_append ..

/-- A source that says nothing of a field may say it at its head. -/
theorem writes_cons (h : layer.about f = []) (text : String) :
    Writes f text layer ((f.name, .text text) :: layer) where
  about := by rw [about_cons, if_pos (concerns_name f), h]
  aside := by rw [aside_cons, if_pos (concerns_name f)]

/-- Entries that are the same but under one key. -/
def AgreeBut (key : String) (table table' : List (String × Setting)) : Prop :=
  ∀ k ≠ key, table.lookup k = table'.lookup k

/-- What is laid over a table is found under the first key of its path, and all else is found as
before. -/
theorem lookup_layOne : (layOne table key v).lookup k =
    if k = (SettingPath.ofText (Setting.lower key)).first then
      some (Setting.layAt v (SettingPath.ofText (Setting.lower key)).rest
        ((table.lookup (SettingPath.ofText (Setting.lower key)).first).getD (.table [])))
    else table.lookup k :=
  Setting.lookup_put

/-- What concerns a field changes nothing elsewhere. -/
theorem AgreeBut.layOne_left (h : AgreeBut f.name table table') (hkey : concerns f key = true) :
    AgreeBut f.name (layOne table key v) table' := by
  intro k hk
  rw [lookup_layOne, of_decide_eq_true hkey, if_neg hk]
  exact h k hk

/-- What does not concern the field changes the same elsewhere. -/
theorem AgreeBut.layOne (h : AgreeBut f.name table table') (hkey : concerns f key = false) :
    AgreeBut f.name (layOne table key v) (layOne table' key v) := by
  intro k hk
  rw [lookup_layOne, lookup_layOne, h _ (of_decide_eq_false hkey), h k hk]

/-- What a layer says of one field is not seen under any other key. -/
theorem AgreeBut.lay_aside (h : AgreeBut f.name table table') (layer : Layer) :
    AgreeBut f.name (lay table layer) (lay table' (layer.aside f)) := by
  induction layer generalizing table table' with
  | nil =>
      exact h
  | cons said layer ih =>
      rw [aside_cons]
      split
      · rename_i hkey
        exact ih (h.layOne_left hkey)
      · rename_i hkey
        exact ih (h.layOne (by simpa using hkey))

/-- Sources that differ in what they say of one field make entries that differ there only. -/
theorem AgreeBut.lay (h : AgreeBut f.name table table') (hsame : layer'.aside f = layer.aside f) :
    AgreeBut f.name (lay table layer) (lay table' layer') := by
  intro k hk
  rw [h.lay_aside layer k hk, ← hsame]
  exact (AgreeBut.lay_aside (fun _ _ => rfl) layer' k hk).symm

/-- A source that says nothing of a field leaves it as it is. -/
theorem lookup_lay_of_silent (h : layer.about f = []) :
    (lay table layer).lookup f.name = table.lookup f.name := by
  induction layer generalizing table with
  | nil =>
      rfl
  | cons said layer ih =>
      rw [about_cons] at h
      split at h
      · cases h
      · rename_i hkey
        have hne : f.name ≠ (SettingPath.ofText (Setting.lower said.1)).first :=
          fun heq => hkey (decide_eq_true heq.symm)
        have hone : (layOne table said.1 said.2).lookup f.name = table.lookup f.name := by
          rw [lookup_layOne, if_neg hne]
        exact (ih h).trans hone

/-- A plain value that a source says of a field takes the place of what was there. -/
theorem lookup_lay_of_about (h : layer.about f = [(f.name, v)])
    (hplain : ∀ entries, v ≠ .table entries) :
    (lay table layer).lookup f.name = some v := by
  obtain ⟨before, after, rfl, hbefore, -, hafter⟩ := List.filter_eq_cons_iff.1 h
  rw [lay, List.foldl_append]
  refine (lookup_lay_of_silent hafter).trans ?_
  dsimp only
  rw [lookup_layOne, f.ofText_name, if_pos rfl]
  exact congrArg some (Setting.lay_of_not_table hplain _)

/-! ## The environment -/

theorem ofEnvironment_append (environment environment' : List (String × String)) :
    ofEnvironment (environment ++ environment') =
      ofEnvironment environment ++ ofEnvironment environment' :=
  List.filterMap_append

/-- The variable of a field is one more entry of the environment's layer. -/
theorem ofEnvironment_variable (f : TextField) (text : String)
    (environment : List (String × String)) :
    ofEnvironment ((f.variableName, text) :: environment) =
      (f.name, valueOf text) :: ofEnvironment environment :=
  List.filterMap_cons_some (congrArg (Option.map _) f.keyOf?_variableName)

/-- A variable adds what it says of its field to what the environment says, and nothing else. -/
theorem about_environment {before after : List (String × String)}
    (h : (ofEnvironment (before ++ after)).about f = []) (text : String) :
    (ofEnvironment (before ++ (f.variableName, text) :: after)).about f =
        [(f.name, valueOf text)] ∧
      (ofEnvironment (before ++ (f.variableName, text) :: after)).aside f =
        (ofEnvironment (before ++ after)).aside f := by
  rw [ofEnvironment_append, about_append, List.append_eq_nil_iff] at h
  rw [ofEnvironment_append, ofEnvironment_append, ofEnvironment_variable, about_append,
    aside_append, aside_append, about_cons, aside_cons, if_pos (concerns_name f),
    if_pos (concerns_name f), h.1, h.2]
  exact ⟨rfl, rfl⟩

end Layer

/-! ## Loading -/

namespace Settings

variable {f : TextField} {flags : Flags} {file file' : Option (List Char)}
  {environment environment' : List (String × String)} {layer layer' : Layer} {config c : Config}
  {v : Setting} {text : String} {table table' : List (String × Setting)}

/-- Entries that are the same but under the key of a field are read as the same settings but for
this field. -/
theorem configOf_put (h : Layer.AgreeBut f.name table table') (hv : table'.lookup f.name = some v)
    (htext : v.asText = .ok text) (hc : Setting.configOf table = .ok c) :
    Setting.configOf table' = .ok (f.put text c) := by
  rw [configOf_eq_ok_iff_fields] at hc ⊢
  obtain ⟨hfield, hbroadcast⟩ := hc
  constructor
  · intro g hg
    by_cases hgf : g = f.field
    · subst hgf
      rw [show table'.lookup f.field.name = some v from hv]
      exact TextField.said_put htext
    · have hname : g.name ≠ f.name := by
        revert hgf
        cases f <;> cases g <;> decide
      rw [← h _ hname, TextField.get_put_of_ne hgf]
      exact hfield g hg
  · rw [TextField.broadcast_put, ← hbroadcast, Setting.field, Setting.field,
      h _ f.name_ne_broadcast]

/-- Where the file and the environment say the same as others do but for one field, and in the end a
value that makes a text stands under its key, the settings are the same but for this text. -/
theorem load_of_said (hlayer : fileLayer? file = some layer)
    (hlayer' : fileLayer? file' = some layer') (hfile : layer'.aside f = layer.aside f)
    (henv : (Layer.ofEnvironment environment').aside f = (Layer.ofEnvironment environment).aside f)
    (hv : (Layer.lay (Layer.lay [] layer') (Layer.ofEnvironment environment')).lookup f.name =
      some v)
    (htext : v.asText = .ok text) (hflag : f.flag? flags = none)
    (h : load flags file environment = .ok config) :
    load flags file' environment' = .ok (f.put text config) := by
  rw [load_eq_ok_iff hlayer] at h
  obtain ⟨c, hc, rfl⟩ := h
  rw [load_eq_ok_iff hlayer']
  have hagree : Layer.AgreeBut f.name [] [] := fun _ _ => rfl
  exact ⟨_, configOf_put ((hagree.lay hfile).lay henv) hv htext hc, TextField.apply_put hflag⟩

end Settings
end ArbBundle
