import PasskeyConsent.Config.Basic
import PasskeyConsent.Config.Dotenv
/-!
# The home directory

Where the wallet keeps its files under the home directory, and the configuration that they make.  A variable comes from
the process first, then from the working directory's file of variables, then from the home's; the settings file is
overlaid by the configuration file.  The home's configuration file may be missing or broken; one that is asked for may
not.
-/
namespace PasskeyConsent

namespace Home

def directory : String := ".passkey-confirm"

def variablesPath : String := directory ++ "/.env"

def settingsPath : String := directory ++ "/settings.json"

def configPath : String := directory ++ "/config.toml"

end Home

/-- What stands in the home directory and in the working directory. -/
structure Home where
  settings : FileState := .absent
  config : FileState := .absent
  ownVariables : FileState := .absent
  workingVariables : FileState := .absent

namespace Home

/-- The preferences that the settings file stores. -/
def preferences (h : Home) : ConfirmationPolicy := (Settings.ofJsonFile h.settings).confirmation

/-- The environment of a process with both files of variables, if a process can have it. -/
def environment (h : Home) (env : Environment) : Option Environment := do
  Dotenv.load (← Dotenv.load env h.workingVariables) h.ownVariables

/-- The settings of both files; `asked` is the configuration file that has been asked for. -/
def effectiveSettings (h : Home) (asked : Option FileState) : Except ConfigError Settings :=
  let base := Settings.ofJsonFile h.settings
  match asked with
  | some file =>
    match Settings.ofTomlFile configPath file with
    | .ok (some overlay) => .ok (base.merge overlay)
    | .ok none => .error (.parseError ("no config file at " ++ configPath))
    | .error e => .error (.parseError e.message)
  | none =>
    match Settings.ofTomlFile configPath h.config with
    | .ok (some overlay) => .ok (base.merge overlay)
    | _ => .ok base

/-- The configuration of a process started with these files; nothing when its environment is impossible. -/
def configure (h : Home) (env : Environment) (asked : Option FileState) : Option (Except ConfigError Config) := do
  let env ← h.environment env
  return (h.effectiveSettings asked).bind (Config.resolve env)

end Home
end PasskeyConsent
