import PluginHost.Document.Format
import PluginHost.Files.Tree

/-!
# Artifacts

Where plugins are looked for: manifest files, and directories that hold a manifest under one of four names. The name of
a manifest file is read in any letter case; that of a manifest in a directory has to be one of the four as it stands.

* `isManifestName_of_mem`: each of the four names is one of a manifest file.
-/

namespace PluginHost

/-- The names under which a directory holds its manifest, in the order in which they are tried. -/
def manifestNames : List String := ["plugin.toml", "plugin.json", "plugin.yaml", "plugin.yml"]

/-- What a name of a manifest file ends in, when it is not one of `manifestNames`. -/
def manifestEndings : List String := [".plugin.toml", ".plugin.json", ".plugin.yaml", ".plugin.yml"]

/-- Whether a name is that of a manifest file: one of four, or something before one of the endings. -/
def isManifestName (name : String) : Bool :=
  let lower := Text.lower name.toList
  manifestNames.any (·.toList == lower)
    || manifestEndings.any fun ending => ending.toList.isSuffixOf lower && ending.length < lower.length

/-- Each of the four names is one of a manifest file. -/
theorem isManifestName_of_mem {name : String} (h : name ∈ manifestNames) : isManifestName name = true := by
  simp only [manifestNames, List.mem_cons, List.not_mem_nil, or_false] at h
  rcases h with rfl | rfl | rfl | rfl <;> decide +kernel

/-- Whether a path is that of a manifest file. -/
def Path.isManifestFile (p : Path) : Bool := p.fileName?.any isManifestName

namespace FileTree

def manifestIn? (root : FileTree) (dir : Path) : Option Path :=
  (manifestNames.map fun name => dir.join ⟨name⟩).find? root.isFile

/-- Whether an entry of a directory is an artifact. -/
def isArtifact (root : FileTree) (path : Path) (entry : Node) : Bool :=
  let directory := match entry with
    | .directory _ => true
    | .link _ => root.isDirectory path
    | .file _ => false
  if directory then (root.manifestIn? path).isSome else path.isManifestFile

/-- The artifacts directly inside a directory, in ascending order of names. -/
def artifacts (root : FileTree) (dir : Path) : Except FileFault (List Path) := do
  let entries ← root.entries dir
  let paths := (Keyed.ofList entries).map fun e => (dir.join ⟨e.1⟩, e.2)
  return (paths.filter fun p => root.isArtifact p.1 p.2).map Prod.fst

end FileTree
end PluginHost
