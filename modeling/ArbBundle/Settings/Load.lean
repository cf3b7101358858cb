import ArbBundle.CommandLine.Flags
import ArbBundle.Settings.Layer

/-!
# Load — the settings of a run from all their sources

Defaults lie below, the file over them, then the environment, and the command line above all.
-/

namespace ArbBundle
namespace Settings

def entries (file : Option (List Char)) (environment : List (String × String)) :
    Except SettingsError (List (String × Setting)) := do
  let layer ← match file with
    | none => .ok []
    | some text => Setting.orRefuse .unreadable (Layer.ofToml? text)
  return Layer.lay (Layer.lay [] layer) (Layer.ofEnvironment environment)

def load (flags : Flags) (file : Option (List Char)) (environment : List (String × String)) :
    Except SettingsError Config := do
  let config ← Setting.configOf (← entries file environment)
  return flags.apply config

end Settings
end ArbBundle
