import PluginHost.Document.Format
import PluginHost.Document.Json
import PluginHost.Document.Toml.Parser
import PluginHost.Document.Yaml.Value

/-!
# Reading documents of any format
-/

namespace PluginHost

/-- The value of a text in a format; none when the text is not in the format. -/
def Document.read? : Format → String → Option Document
  | .json, s => (Json.parse? s).bind Json.toDocument?
  | .yaml, s => (Yaml.parse? s).bind Yaml.toDocument?
  | .toml, s => (Toml.parse? s).map Toml.toDocument

end PluginHost
