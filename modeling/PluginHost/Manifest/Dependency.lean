import PluginHost.Version.Range

/-!
# Dependencies

What a plugin declares about another one it builds on.

* `accepts_any`: without ranges every version is accepted, a text that says none included.
-/

namespace PluginHost

/-- Plugins are known by a text. -/
abbrev PluginId := String

/-- A declared dependency on another plugin. -/
structure Dependency where
  id : PluginId
  /-- The versions that will do; any when there is none. -/
  version : Option VersionRange := none
  /-- Versions that will not do, even when they are in `version`. -/
  incompatible : Option VersionRange := none
  required : Bool := true
deriving DecidableEq

namespace Dependency

/-- Whether the dependency is content with a version text. -/
def accepts (d : Dependency) (version : String) : Bool :=
  !(d.incompatible.any (·.includesText version)) && d.version.all (·.includesText version)

def render (d : Dependency) : String :=
  (if d.required then "Requires" else "Optional") ++ " plugin: " ++ d.id ++
    match d.version with
    | some range => " (version: " ++ range.text ++ ")"
    | none => " (any version)"

/-- How the demand on the version is told. -/
def requirement (d : Dependency) : String :=
  match d.version, d.incompatible with
  | some range, some bad => "version " ++ range.text ++ " excluding " ++ bad.text
  | some range, none => "version " ++ range.text
  | none, some bad => "any version except " ++ bad.text
  | none, none => "any version"

theorem accepts_any (id : PluginId) (required : Bool) (version : String) :
    accepts { id, required } version = true := rfl

end Dependency
end PluginHost
