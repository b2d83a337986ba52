import PluginHost.Files.Path
import PluginHost.Text.Lower

/-!
# Formats of documents

The format of a document is read off the extension of its path, in any letter case.
-/

namespace PluginHost

/-- The formats in which documents are written. -/
inductive Format where
  | json
  | yaml
  | toml
deriving DecidableEq, Repr

namespace Format

def extension : Format → String
  | json => "json"
  | yaml => "yaml"
  | toml => "toml"

def name : Format → String
  | json => "JSON"
  | yaml => "YAML"
  | toml => "TOML"

/-- The format of a lower-case extension. -/
def ofExtension? (extension : String) : Option Format :=
  if extension = "json" then some json
  else if extension = "yaml" ∨ extension = "yml" then some yaml
  else if extension = "toml" then some toml
  else none

/-- The format that the extension of a path tells. -/
def ofPath? (p : Path) : Option Format := p.extension?.bind fun e => ofExtension? (String.ofList (Text.lower e.toList))

end Format
end PluginHost
