import PluginHost.Manifest.Dependency

/-!
# Manifests

What a plugin says about itself.
-/

namespace PluginHost

/-- The manifest of a plugin. -/
structure Manifest where
  id : PluginId
  name : String := ""
  version : String
  description : Option String := none
  authors : List String := []
  /-- Names what builds the plugin: a registered factory, or a library beside the artifact. -/
  entryPoint : String := ""
  /-- The host versions the plugin works with; any when there is none. -/
  apiVersions : List VersionRange := []
  dependencies : List Dependency := []
  tags : List String := []
deriving DecidableEq

namespace Manifest

/-- A manifest that says no more than an id and a version; the id is also the name and the entry point. -/
def create (id : PluginId) (version : String) : Manifest := { id, name := id, version, entryPoint := id }

def addDependency (m : Manifest) (d : Dependency) : Manifest := { m with dependencies := m.dependencies ++ [d] }

def addAuthor (m : Manifest) (author : String) : Manifest := { m with authors := m.authors ++ [author] }

def addApiVersion (m : Manifest) (range : VersionRange) : Manifest :=
  { m with apiVersions := m.apiVersions ++ [range] }

def addTag (m : Manifest) (tag : String) : Manifest := { m with tags := m.tags ++ [tag] }

/-- The dependencies the plugin cannot do without. -/
def requiredDependencies (m : Manifest) : List Dependency := m.dependencies.filter (·.required)

def supportsApi (m : Manifest) (api : Version) : Bool :=
  m.apiVersions.isEmpty || m.apiVersions.any (·.includes api)

end Manifest
end PluginHost
