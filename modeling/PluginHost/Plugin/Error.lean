import PluginHost.Files.Fault
import PluginHost.Manifest.Fault
import PluginHost.Plugin.State

/-!
# Errors of the plugin system

Every operation on plugins fails with a `PluginError`, which says what went wrong and with which plugin or artifact.
-/

namespace PluginHost

/-- What a plugin leaves behind when it breaks off: a text, or something that is none. -/
abbrev Payload := Option String

def Payload.text : Payload → String
  | some s => s
  | none => "unknown panic reason"

/-- Why a plugin could not be activated. -/
inductive ActivationFault where
  /-- The host version is in none of the ranges. -/
  | apiUnsupported (api : Version) (ranges : List String)
  | noFactory (entryPoint : String)
  | factoryFailed (entryPoint message : String)
  /-- The library named by the entry point lies, or may lie, outside the artifact. -/
  | libraryOutside (entryPoint : String)
  /-- The system opens no library at the path; its reason may be left out. -/
  | libraryUnopened (path : Path) (reason : Option String)
  /-- The library has no constructor. -/
  | noConstructor (reason : String)
  | constructorPanicked (payload : Payload)
  /-- The constructor of the library gives no plugin. -/
  | nullPlugin
  /-- The plugin refused, for a reason of its own. -/
  | refused (message : String)
  | panicked (payload : Payload)
  | timedOut (limit : Nat)
  /-- A fault told by someone else. -/
  | other (message : String)
deriving DecidableEq, Repr

def ActivationFault.message : ActivationFault → String
  | apiUnsupported api ranges =>
    "host API version " ++ api.render ++ " is not in the supported range(s) " ++ ", ".intercalate ranges
  | noFactory entryPoint => "no plugin factory registered for entry point '" ++ entryPoint ++ "'"
  | factoryFailed entryPoint message => "factory '" ++ entryPoint ++ "' failed: " ++ message
  | libraryOutside entryPoint =>
    "invalid entry_point '" ++ entryPoint ++ "': must be relative and not traverse upwards"
  | libraryUnopened path reason => "cannot open '" ++ path.text ++ "'" ++ (reason.map (": " ++ ·)).getD ""
  | noConstructor reason => "missing symbol hearth_plugin_create: " ++ reason
  | constructorPanicked payload => "hearth_plugin_create panicked: " ++ payload.text
  | nullPlugin => "hearth_plugin_create returned null"
  | refused message => message
  | panicked payload => "activation panicked: " ++ payload.text
  | timedOut limit => s!"activation timed out after {limit} ms"
  | other message => message

/-- Why a plugin could not be stopped. -/
inductive DeactivationFault where
  | refused (message : String)
  | panicked (payload : Payload)
deriving DecidableEq, Repr

def DeactivationFault.message : DeactivationFault → String
  | refused message => message
  | panicked payload => "deactivation panicked: " ++ payload.text

/-- What goes wrong with plugins. -/
inductive PluginError where
  /-- A required dependency is not there. -/
  | missingDependency (plugin dependency : PluginId)
  /-- The plugins on a path require each other; the path ends where it starts. -/
  | cycleDetected (path : List PluginId)
  /-- A required dependency has a version that will not do. -/
  | incompatibleDependency (plugin dependency : PluginId) (requirement found : String)
  /-- A required dependency failed. -/
  | dependencyFailed (plugin dependency : PluginId)
  | malformedManifest (path : Path) (fault : ManifestFault)
  | unreadableArtifact (path : Path) (fault : FileFault)
  /-- An artifact declares a plugin that another one declared before. -/
  | duplicatePlugin (plugin : PluginId) (path : Path)
  | activationError (plugin : PluginId) (cause : ActivationFault)
  | deactivationError (plugin : PluginId) (cause : DeactivationFault)
  | invalidStateTransition (plugin : PluginId) (before after : PluginState)
  | notFound (id : PluginId)
  | duplicateEntryPoint (entryPoint : String)
  | pipelineAlreadyRun
  | versionParsing (error : VersionError)
deriving DecidableEq, Repr

namespace PluginError

def message : PluginError → String
  | missingDependency plugin dependency => "Dependency '" ++ dependency ++ "' of plugin '" ++ plugin ++ "' is missing"
  | cycleDetected path => "Circular dependency detected: " ++ " -> ".intercalate path
  | incompatibleDependency plugin dependency requirement found =>
    "Plugin '" ++ plugin ++ "' requires '" ++ dependency ++ "' " ++ requirement ++ " but found version " ++ found
  | dependencyFailed plugin dependency =>
    "Plugin '" ++ plugin ++ "' cannot load because its dependency '" ++ dependency ++ "' failed"
  | malformedManifest path fault => "Malformed plugin manifest '" ++ path.text ++ "': " ++ fault.message
  | unreadableArtifact path fault => "Unreadable plugin artifact '" ++ path.text ++ "': " ++ fault.message
  | duplicatePlugin plugin path =>
    "Plugin '" ++ plugin ++ "' from '" ++ path.text ++ "' duplicates an already discovered plugin"
  | activationError plugin cause => "Activation of plugin '" ++ plugin ++ "' failed: " ++ cause.message
  | deactivationError plugin cause => "Deactivation of plugin '" ++ plugin ++ "' failed: " ++ cause.message
  | invalidStateTransition plugin before after =>
    "Plugin '" ++ plugin ++ "' cannot move from " ++ before.name ++ " to " ++ after.name
  | notFound id => "Plugin not found: " ++ id
  | duplicateEntryPoint entryPoint =>
    "A factory is already registered for entry point '" ++ entryPoint ++ "'"
  | pipelineAlreadyRun => "The plugin load pipeline has already run for this manager"
  | versionParsing error => "Version parsing error: " ++ error.message

/-- The plugin an error is about, when it is about a single one; a cycle is told from the plugin it starts at. -/
def plugin? : PluginError → Option PluginId
  | missingDependency plugin _ | incompatibleDependency plugin _ _ _ | dependencyFailed plugin _
  | duplicatePlugin plugin _ | activationError plugin _ | deactivationError plugin _
  | invalidStateTransition plugin _ _ => some plugin
  | cycleDetected path => path.head?
  | notFound id => some id
  | _ => none

/-- Whether an error comes from working out which plugins can be loaded. -/
def isResolution : PluginError → Bool
  | missingDependency .. | cycleDetected .. | incompatibleDependency .. | dependencyFailed .. => true
  | _ => false

end PluginError
end PluginHost
