import PluginHost.Document.Format
import PluginHost.Files.Fault
import PluginHost.Manifest.Dependency

/-!
# The configuration of a host

Every setting has a default.
-/

namespace PluginHost

def appName : String := "Hearth"

def appVersion : String := "0.1.0"

/-- The host version that plugins are checked against by default. -/
def defaultApiVersion : String := "1.0.0"

/-- The directory in which plugins are looked for by default. -/
def defaultPluginsDir : Path := ⟨"plugins"⟩

/-- The configuration file that is read when none is given. -/
def defaultConfigFile : Path := ⟨"hearth.toml"⟩

/-- The settings of a host. -/
structure Config where
  pluginsDir : Path := defaultPluginsDir
  apiVersion : String := defaultApiVersion
  /-- The time an activation may take, in milliseconds; any when there is none. -/
  activationLimit : Option Nat := none
  /-- Plugins that are left out. -/
  disabled : List PluginId := []
deriving DecidableEq, Repr

/-- Why a configuration cannot be used. -/
inductive ConfigError where
  | unreadable (path : Path) (fault : FileFault)
  | unsupportedFormat (path : Path)
  /-- The text is not a configuration in its format. -/
  | deserialize (format : Format)
  | apiVersion (error : VersionError)
deriving DecidableEq, Repr

def ConfigError.message : ConfigError → String
  | unreadable path fault => "Failed to read config file '" ++ path.text ++ "': " ++ fault.message
  | unsupportedFormat path => "Unknown or unsupported config format for path: " ++ path.text
  | deserialize format => "Failed to deserialize from " ++ format.name
  | apiVersion error => "Invalid host API version: " ++ error.message

def Config.api (c : Config) : Except VersionError Version := Version.parse c.apiVersion

end PluginHost
