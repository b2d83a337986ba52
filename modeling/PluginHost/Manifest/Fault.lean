import PluginHost.Document.Format
import PluginHost.Document.Schema
import PluginHost.Manifest.Dependency

/-!
# What can be wrong with a manifest
-/

namespace PluginHost

/-- Why a text declares no plugins. -/
inductive ManifestFault where
  | unsupportedFormat
  /-- The text is not in its format. -/
  | unreadable (format : Format)
  | schema (error : SchemaError)
  | noPlugins
  | emptyId
  | blankInId (id : PluginId)
  | badVersion (id : PluginId) (error : VersionError)
  | repeatedDependency (id dependency : PluginId)
  /-- A fault told by someone else. -/
  | other (message : String)
deriving DecidableEq, Repr

def ManifestFault.message : ManifestFault → String
  | unsupportedFormat => "unsupported manifest format (expected toml, json or yaml)"
  | unreadable format => "failed to parse " ++ format.extension ++ " document"
  | schema _ => "manifest does not match the plugin schema"
  | noPlugins => "manifest declares no plugins"
  | emptyId => "plugin id must not be empty"
  | blankInId id => "plugin id '" ++ id ++ "' must not contain whitespace"
  | badVersion id _ => "plugin '" ++ id ++ "' has an invalid version"
  | repeatedDependency id dependency =>
    "plugin '" ++ id ++ "' declares dependency '" ++ dependency ++ "' more than once"
  | other message => message

end PluginHost
