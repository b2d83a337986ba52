import PluginHost.Manifest.Basic
import PluginHost.Plugin.Error
import PluginHost.Text.Blank

/-!
# Checking manifests

A manifest becomes a plugin only when its id is a text without blanks, its version is one, and it declares no
dependency twice. The checks come in this order; blanks around the id are dropped, and an empty name or entry point is
replaced by the id.

* `check_id`: the id of a checked manifest is the trimmed id.
-/

namespace PluginHost.Manifest

/-- The first id that is declared a second time. -/
def repeatedId? (seen : List PluginId) : List Dependency → Option PluginId
  | [] => none
  | d :: ds => if d.id ∈ seen then some d.id else repeatedId? (d.id :: seen) ds

/-- A manifest with the id given, which is also the name and the entry point where those are empty. -/
def withDefaults (m : Manifest) (id : PluginId) : Manifest :=
  { m with
    id
    name := if m.name = "" then id else m.name
    entryPoint := if m.entryPoint = "" then id else m.entryPoint }

/-- Checks a manifest and fills in its defaults. -/
def check (m : Manifest) : Except ManifestFault Manifest :=
  let id := Text.trim m.id
  if id = "" then .error .emptyId
  else if id.toList.any Text.isBlank then .error (.blankInId id)
  else match Version.parse m.version with
    | .error e => .error (.badVersion id e)
    | .ok _ =>
      match repeatedId? [] m.dependencies with
      | some d => .error (.repeatedDependency id d)
      | none => .ok (m.withDefaults id)

/-- Checks a manifest that was read at a path. -/
def validate (path : Path) (m : Manifest) : Except PluginError Manifest :=
  match m.check with
  | .ok m => .ok m
  | .error fault => .error (.malformedManifest path fault)

/-- The id of a checked manifest is the trimmed id. -/
theorem check_id {m m' : Manifest} (h : m.check = .ok m') : m'.id = Text.trim m.id := by
  simp only [check] at h
  split at h
  · cases h
  · split at h
    · cases h
    · split at h
      · cases h
      · split at h
        · cases h
        · cases h; rfl

end PluginHost.Manifest
