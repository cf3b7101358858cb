import ArbBundle.Proofs.Decimal.Spelled
import ArbBundle.Proofs.Settings.Overlay
import ArbBundle.Proofs.Toml.Entry

/-!
# Spelling — what becomes of a text that a source says of a field

The file keeps every text as it is written.  The environment does not know the kind of a field: a
text that reads as a truth value or a number is taken for it, and what the field holds is the
standard spelling of that value.

- `Settings.Respelled`: the text that a field makes of the text of a variable
- `Settings.asText_valueOf_eq_ok_iff`: it is this text and no other
- `Settings.Plain`: texts that are kept
- `Settings.variable_respelled`: the settings with a variable, and those with a line in the file
-/

namespace ArbBundle
namespace Settings

open Decimal (Binary64 Whole Real Fits64)

variable {v w : String}

/-! ## Respelling -/

/-- A text is spelled anew: where it reads as a truth value in letters of any case, as a whole
number that 64 bits hold, or as another real number, the value is spelled in the standard way, and
any other text stays as it is. -/
inductive Respelled (v : String) : String → Prop where
  | truth (b : Bool) : Setting.lower v = toString b → Respelled v (toString b)
  | whole (i : Int) : Whole v.toList i → Fits64 i → Respelled v (toString i)
  | real (x : Binary64) : (∀ i, Whole v.toList i → ¬ Fits64 i) → Real v.toList x →
      Respelled v x.positional
  | text : (∀ b : Bool, Setting.lower v ≠ toString b) → (∀ x, ¬ Real v.toList x) → Respelled v v

/-- A text that reads as a truth value has the letters of its word. -/
theorem map_toLower_of_truth {b : Bool} (h : Setting.lower v = toString b) :
    v.toList.map Char.toLower = (toString b).toList := by
  have hletters : v.toList.map Text.lowerAscii = (toString b).toList := by
    rw [← h]
    exact String.toList_ofList.symm
  rw [← hletters]
  refine List.map_congr_left fun c hc => ?_
  have hmem : Text.lowerAscii c ∈ (toString b).toList := hletters ▸ List.mem_map_of_mem hc
  unfold Text.lowerAscii at hmem ⊢
  split
  · -- The Kelvin sign stands for a letter that is in neither word.
    rename_i hkelvin
    rw [if_pos hkelvin] at hmem
    exact absurd hmem (by cases b <;> decide)
  · rfl

/-- No number reads as a truth value, since each of the two words has a letter that no number
has. -/
theorem not_real_of_truth {b : Bool} (h : Setting.lower v = toString b) (x : Binary64) :
    ¬ Real v.toList x := by
  intro hreal
  have hword : ∃ l ∈ (toString b).toList, l ∈ ['r', 'l'] := by
    cases b <;> simp [toString]
  obtain ⟨l, hl, hmem⟩ := hword
  rw [← map_toLower_of_truth h] at hl
  obtain ⟨c, hc, rfl⟩ := List.mem_map.1 hl
  exact (hreal.inNumber c hc).plain.2 hmem

theorem not_truth_of_real {x : Binary64} (h : Real v.toList x) (b : Bool) :
    Setting.lower v ≠ toString b :=
  fun htruth => not_real_of_truth htruth x h

theorem not_truth_of_whole {i : Int} (h : Whole v.toList i) (b : Bool) :
    Setting.lower v ≠ toString b := by
  obtain ⟨x, hreal⟩ := h.exists_real
  exact not_truth_of_real hreal b

/-! ## The value of a variable -/

/-- The text of a variable that is a truth value in any case becomes one. -/
theorem valueOf_of_truth {b : Bool} (h : Setting.lower v = toString b) :
    Layer.valueOf v = .boolean b := by
  unfold Layer.valueOf
  rw [h]
  cases b <;> rfl

/-- Any other text of a variable is tried as a whole number, then as a real one, and stays a text
otherwise. -/
theorem valueOf_of_not_truth (h : ∀ b : Bool, Setting.lower v ≠ toString b) :
    Layer.valueOf v = match Decimal.signed64? v.toList with
      | some i => .integer i
      | none => match Decimal.real? v.toList with
        | some x => .real x
        | none => .text v := by
  unfold Layer.valueOf
  split
  · rename_i htrue
    exact absurd htrue (h true)
  · rename_i hfalse
    exact absurd hfalse (h false)
  · rfl

theorem signed64?_eq_none (h : ∀ i, Whole v.toList i → ¬ Fits64 i) :
    Decimal.signed64? v.toList = none := by
  cases hread : Decimal.signed64? v.toList with
  | none =>
      rfl
  | some i =>
      obtain ⟨hwhole, hfits⟩ := Decimal.signed64?_eq_some_iff.1 hread
      exact absurd hfits (h i hwhole)

theorem real?_eq_none (h : ∀ x, ¬ Real v.toList x) : Decimal.real? v.toList = none := by
  cases hread : Decimal.real? v.toList with
  | none => rfl
  | some x => exact absurd (Decimal.real?_eq_some_iff.1 hread) (h x)

/-- A text field makes of the value of a variable what its text is respelled as. -/
theorem Respelled.asText (h : Respelled v w) : (Layer.valueOf v).asText = .ok w := by
  cases h with
  | truth b hb =>
      rw [valueOf_of_truth hb]
      cases b <;> rfl
  | whole i hwhole hfits =>
      rw [valueOf_of_not_truth (not_truth_of_whole hwhole),
        Decimal.signed64?_eq_some_iff.2 ⟨hwhole, hfits⟩]
      rfl
  | real x hwhole hreal =>
      rw [valueOf_of_not_truth (not_truth_of_real hreal), signed64?_eq_none hwhole,
        Decimal.real?_eq_some_iff.2 hreal]
      rfl
  | text htruth hreal =>
      have hwhole : ∀ i, Whole v.toList i → ¬ Fits64 i := by
        intro i hi
        obtain ⟨x, hx⟩ := hi.exists_real
        exact absurd hx (hreal x)
      rw [valueOf_of_not_truth htruth, signed64?_eq_none hwhole, real?_eq_none hreal]
      rfl

/-- Every text is respelled as some text. -/
theorem exists_respelled (v : String) : ∃ w, Respelled v w := by
  by_cases htruth : ∃ b : Bool, Setting.lower v = toString b
  · obtain ⟨b, hb⟩ := htruth
    exact ⟨_, .truth b hb⟩
  by_cases hwhole : ∃ i, Whole v.toList i ∧ Fits64 i
  · obtain ⟨i, hi, hfits⟩ := hwhole
    exact ⟨_, .whole i hi hfits⟩
  by_cases hreal : ∃ x, Real v.toList x
  · obtain ⟨x, hx⟩ := hreal
    exact ⟨_, .real x (fun i hi hfits => hwhole ⟨i, hi, hfits⟩) hx⟩
  · exact ⟨v, .text (fun b hb => htruth ⟨b, hb⟩) fun x hx => hreal ⟨x, hx⟩⟩

/-- A text field takes the text of a variable as it is respelled. -/
theorem asText_valueOf_eq_ok_iff : (Layer.valueOf v).asText = .ok w ↔ Respelled v w := by
  constructor
  · intro h
    obtain ⟨w', hw'⟩ := exists_respelled v
    obtain rfl := Except.ok.inj (h.symm.trans hw'.asText)
    exact hw'
  · exact Respelled.asText

/-! ## Plain texts -/

/-- Texts that stay as they are: truth values in lower case, whole numbers in their standard
spelling, and whatever has a character that is no letter or digit of ASCII and no sign or point, as
all locators and all commands with arguments have. -/
inductive Plain : String → Prop where
  | truth (b : Bool) : Plain (toString b)
  | whole (i : Int) : Fits64 i → Plain (toString i)
  | marked {v : String} (c : Char) : c ∈ v.toList → c.isAlphanum = false → c ∉ ['+', '-', '.'] →
      Plain v

theorem isAlphanum_of_truth {b : Bool} (h : Setting.lower v = toString b) {c : Char}
    (hc : c ∈ v.toList) : c.isAlphanum = true := by
  have hword : ∀ l ∈ (toString b).toList, l ∈ "truefals".toList := by
    cases b <;> simp [toString]
  have hlower : c.toLower ∈ "truefals".toList :=
    hword _ (map_toLower_of_truth h ▸ List.mem_map_of_mem hc)
  have hall : ∀ n < 128, (Char.ofNat n).toLower ∈ "truefals".toList →
      (Char.ofNat n).isAlphanum = true := by
    decide +kernel
  exact Numeral.forall_ascii
    (P := fun c => c.toLower ∈ "truefals".toList → c.isAlphanum = true) hall
    (Numeral.ascii_of_toLower_mem (by simp) hlower) hlower

/-- A plain text is its own respelling. -/
theorem Plain.respelled (h : Plain v) : Respelled v v := by
  cases h with
  | truth b =>
      refine .truth b ?_
      cases b <;> decide +kernel
  | whole i hfits =>
      exact .whole i (Decimal.whole_toString i) hfits
  | marked c hc hletter hmark =>
      refine .text (fun b hb => ?_) fun x hreal => ?_
      · rw [isAlphanum_of_truth hb hc] at hletter
        cases hletter
      · rcases (hreal.inNumber c hc).plain.1 with hplain | hplain
        · rw [hletter] at hplain
          cases hplain
        · exact hmark hplain

/-! ## Loading -/

variable {f : TextField} {flags : Flags} {file : Option (List Char)} {layer : Layer}
  {before after : List (String × String)} {config : Config}

theorem keys_ofEntries (entries : List (String × Toml)) :
    (Setting.ofEntries entries).map Prod.fst = entries.map Prod.fst := by
  induction entries with
  | nil =>
      simp [Setting.ofEntries]
  | cons entry rest ih =>
      simp [Setting.ofEntries, ih]

/-- A line with any text under the key of a field may stand at the head of a file that says nothing
of the field. -/
theorem ofToml?_entryLine (f : TextField) {text : List Char} (h : Layer.ofToml? text = some layer)
    (hsilent : layer.about f = []) (t : String) :
    Layer.ofToml? (Toml.entryLine f.name.toList t.toList ++ text) =
      some ((f.name, .text t) :: layer) := by
  obtain ⟨entries, hentries, rfl⟩ := Option.map_eq_some_iff.1 h
  have hne : f.name.toList ≠ [] := by
    cases f <;> decide
  have hname : ∀ c ∈ f.name.toList, Toml.isKeyChar c = true :=
    List.all_eq_true.1 (by cases f <;> decide)
  have hfree : String.ofList f.name.toList ∉ entries.map Prod.fst := by
    rw [String.ofList_toList, ← keys_ofEntries]
    intro hmem
    obtain ⟨said, hsaid, hkey⟩ := List.mem_map.1 hmem
    refine List.filter_eq_nil_iff.1 hsilent said hsaid ?_
    rw [hkey]
    exact Layer.concerns_name f
  rw [Layer.ofToml?, Toml.document?_entryLine hne hname hentries hfree, String.ofList_toList,
    String.ofList_toList]
  simp only [Option.map_some, Setting.ofEntries, Setting.ofToml]

/-- Suppose that settings are loaded, that no flag and no other variable speaks of a text field, and
that its variable is set to a text.  Then settings are loaded too, and but for this field they are
the same; the field holds what the text is respelled as, which is the text itself if it is plain.
A file keeps the text whatever it is: one that says the same but for a text under the key of the
field loads just this text, and so does a file with a line for it at the head, where it has none. -/
theorem variable_respelled (hlayer : fileLayer? file = some layer)
    (hflag : f.flag? flags = none)
    (hsilent : (Layer.ofEnvironment (before ++ after)).about f = [])
    (hload : load flags file (before ++ after) = .ok config) (v : String) :
    let loaded := load flags file (before ++ (f.variableName, v) :: after)
    (∃ w, loaded = .ok (f.put w config)) ∧
      (∀ w, loaded = .ok (f.put w config) ↔ Respelled v w) ∧
      (Plain v → loaded = .ok (f.put v config)) ∧
      (∀ t text layer', Layer.ofToml? text = some layer' → Layer.Writes f t layer layer' →
        load flags (some text) (before ++ after) = .ok (f.put t config)) ∧
      ∀ t text, Layer.ofToml? text = some layer → layer.about f = [] →
        load flags (some (Toml.entryLine f.name.toList t.toList ++ text)) (before ++ after) =
          .ok (f.put t config) := by
  intro loaded
  obtain ⟨habout, haside⟩ := Layer.about_environment hsilent v
  have hvariable {w : String} (hw : Respelled v w) : loaded = .ok (f.put w config) :=
    load_of_said hlayer hlayer rfl haside
      (Layer.lookup_lay_of_about habout (Layer.valueOf_not_table v)) hw.asText hflag hload
  have hfile (t : String) (text : List Char) (layer' : Layer)
      (htext : Layer.ofToml? text = some layer') (hwrites : Layer.Writes f t layer layer') :
      load flags (some text) (before ++ after) = .ok (f.put t config) := by
    refine load_of_said (v := .text t) hlayer htext hwrites.aside rfl ?_ rfl hflag hload
    -- The environment leaves what the file says of the field as it is.
    rw [Layer.lookup_lay_of_silent hsilent]
    exact Layer.lookup_lay_of_about hwrites.about nofun
  obtain ⟨w, hw⟩ := exists_respelled v
  refine ⟨⟨w, hvariable hw⟩, fun w' => ⟨fun h => ?_, hvariable⟩, fun h => hvariable h.respelled,
    hfile, fun t text htext habsent => ?_⟩
  · -- No two respellings come to the same settings.
    obtain rfl := TextField.put_injective (Except.ok.inj ((hvariable hw).symm.trans h))
    exact hw
  · exact hfile t _ _ (ofToml?_entryLine f htext habsent t) (Layer.writes_cons habsent t)

/-- A computation that an `Option` sees succeed has succeeded. -/
theorem eq_ok_of_toOption {ε α : Type} {x : Except ε α} {a : α} (h : x.toOption = some a) :
    x = .ok a := by
  cases x with
  | error e => cases h
  | ok b => rw [Option.some.inj h]

/-- A file that does not speak of the command. -/
def unrelatedText : List Char :=
  "dry_run = true\n".toList

/-- Settings with a flag, a variable and a line of the file for other fields. -/
def unrelated : Config :=
  { Config.default with
    rpcUrl := "http://node", dryRun := true, broadcast := ⟨5, 60, 1000⟩ }

/-- A command of digits loses the zeros in front in the environment, and keeps them in the file. -/
theorem padded_command_respelled :
    let flags := { Flags.none with rpcUrl := some "http://node" }
    let others := [("HOME", "/root"), ("ARB_BROADCAST__RETRY_ROUNDS", "5")]
    ∃ layer, fileLayer? (some unrelatedText) = some layer ∧
      TextField.builderCommand.flag? flags = none ∧
      (Layer.ofEnvironment others).about .builderCommand = [] ∧
      load flags (some unrelatedText) others = .ok unrelated ∧
      load flags (some unrelatedText) (("ARB_BUILDER_COMMAND", "007") :: others) =
        .ok { unrelated with builderCommand := "7" } ∧
      load flags (some (Toml.entryLine "builder_command".toList "007".toList ++ unrelatedText))
        others = .ok { unrelated with builderCommand := "007" } := by
  intro flags others
  have hsaid : (fileLayer? (some unrelatedText)).map (fun layer =>
      (layer.about .builderCommand).length) = some 0 := by
    decide +kernel
  obtain ⟨layer, hlayer, habsent⟩ := Option.map_eq_some_iff.1 hsaid
  have hsilent : (Layer.ofEnvironment ([] ++ others)).about .builderCommand = [] :=
    List.length_eq_zero_iff.1 (by decide +kernel)
  have hload : load flags (some unrelatedText) ([] ++ others) = .ok unrelated :=
    eq_ok_of_toOption (by decide +kernel)
  have hwhole : Whole "007".toList 7 ∧ Fits64 7 :=
    Decimal.signed64?_eq_some_iff.1 (by decide +kernel)
  obtain ⟨-, hrespelled, -, -, hline⟩ :=
    variable_respelled (f := .builderCommand) hlayer rfl hsilent hload "007"
  exact ⟨layer, hlayer, rfl, hsilent, hload, (hrespelled "7").2 (.whole 7 hwhole.1 hwhole.2),
    hline "007" unrelatedText hlayer (List.length_eq_zero_iff.1 habsent)⟩

/-- The same text does not come to the same settings from the environment and from the file. -/
theorem command_loses_zeros :
    load Flags.none none [] = .ok Config.default ∧
      load Flags.none none [("ARB_BUILDER_COMMAND", "007")] =
        .ok { Config.default with builderCommand := "7" } ∧
      load Flags.none (some "builder_command = \"007\"\n".toList) [] =
        .ok { Config.default with builderCommand := "007" } ∧
      load Flags.none none [("ARB_BUILDER_COMMAND", "007")] ≠
        .ok { Config.default with builderCommand := "007" } := by
  have hvariable : load Flags.none none [("ARB_BUILDER_COMMAND", "007")] =
      .ok { Config.default with builderCommand := "7" } :=
    eq_ok_of_toOption (by decide +kernel)
  refine ⟨eq_ok_of_toOption (by decide +kernel), hvariable, eq_ok_of_toOption (by decide +kernel),
    ?_⟩
  rw [hvariable]
  intro heq
  exact absurd (congrArg Config.builderCommand (Except.ok.inj heq)) (by decide)

end Settings
end ArbBundle
