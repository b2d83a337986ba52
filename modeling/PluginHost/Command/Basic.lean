import PluginHost.Command.Arguments
import PluginHost.Config.Parser
import PluginHost.Host.Basic
import PluginHost.Host.Lookup
import PluginHost.Plugin.Builtin

/-!
# The command

`Command.run` answers what the arguments ask for, with the files of a working directory and the plugins of a registry at
hand; these are the built-in ones, unless others are given. The exit code is 0 when all went well, 1 when an error kept
the command from its task, and 2 when something is wrong with plugins or with the arguments.

* `run_usage`: arguments that ask for nothing give the code 2 and no output.
-/

namespace PluginHost.Command

/-- What the command prints and the code it ends with. -/
structure Outcome where
  code : Nat
  lines : List String := []
deriving DecidableEq, Repr

namespace Outcome

/-- The end of a task that was done: it went well, or something is wrong with plugins. -/
def done (well : Bool) (lines : List String) : Outcome := { code := if well then 0 else 2, lines }

/-- The end of a task that an error kept from being done. -/
def broken : Outcome := { code := 1 }

/-- The end of a command with arguments that ask for nothing. -/
def usage : Outcome := { code := 2 }

def output (o : Outcome) : String := String.join (o.lines.map (· ++ "\n"))

end Outcome

/-- The configuration that the settings ask for: the file that they name, or else the usual one if there is one. -/
def configOf (root : FileTree) (settings : Settings) : Except ConfigError Config := do
  let config ← match settings.configFile with
    | some file => Config.load root file
    | none => if root.isFile defaultConfigFile then Config.load root defaultConfigFile else .ok {}
  return { config with pluginsDir := settings.pluginsDir.getD config.pluginsDir }

/-- A manager of the plugins in the configured directory. -/
def discover (root : FileTree) (config : Config) (registry : Registry := .builtin) : Except HostError Manager := do
  let manager ← (Manager.ofConfig config registry).mapError .config
  let (manager, found) := manager.discover root config.pluginsDir
  let _ ← found.mapError .plugins
  return manager

/-- How an error that stops nothing is told. -/
def warning (e : PluginError) : String := "warning: " ++ e.message

/-- The lines about a plugin: itself and its dependencies. -/
def listing (c : Container) : List String :=
  (c.render ++ " (" ++ c.manifest.name ++ ") - " ++ (c.source.map (·.text)).getD "") ::
    c.dependencies.map fun d => "    " ++ d.render

def list (root : FileTree) (config : Config) (registry : Registry := .builtin) : Except HostError Outcome := do
  let manager ← discover root config registry
  let empty := if manager.plugins.isEmpty then ["No plugins found in " ++ config.pluginsDir.text] else []
  return .done manager.discoveryErrors.isEmpty
    (manager.discoveryErrors.map warning ++ empty ++ manager.plugins.flatMap listing)

/-- The lines about a resolution: the order, what is left out of it, and why. -/
def plan (r : Resolution) : List String :=
  ["Load order:"] ++ r.order.zipIdx.map (fun p => s!"  {p.2 + 1}. {p.1}")
    ++ r.absentOptional.map (fun p => "note: optional dependency '" ++ p.2 ++ "' of '" ++ p.1 ++ "' is not present")
    ++ if r.isComplete then [] else "Excluded:" :: r.excluded.entries.map fun p => "  " ++ p.1 ++ ": " ++ p.2.message

def resolve (root : FileTree) (config : Config) (registry : Registry := .builtin) : Except HostError Outcome := do
  let manager ← discover root config registry
  let resolution := Resolution.ofContainers manager.plugins
  return .done (resolution.isComplete && manager.discoveryErrors.isEmpty)
    (manager.discoveryErrors.map warning ++ plan resolution)

def load (root : FileTree) (config : Config) (registry : Registry := .builtin) : Except HostError Outcome := do
  let host ← Host.create config registry
  let (host, started) := (host.start root).result
  let report ← started
  let errors ← host.shutdown.result.2
  return .done (report.isClean && errors.isEmpty) (report.lines ++ errors.map warning)

def perform (root : FileTree) (config : Config) (registry : Registry) : Task → Except HostError Outcome
  | .list => list root config registry
  | .resolve => resolve root config registry
  | .load => load root config registry

def run (root : FileTree) (arguments : List String) (registry : Registry := .builtin) : Outcome :=
  match Request.ofArguments? {} arguments with
  | none => .usage
  | some .version => .done true ["hearth " ++ appVersion]
  | some (.run task settings) =>
    match configOf root settings with
    | .error _ => .broken
    | .ok config => (perform root config registry task).toOption.getD .broken

/-- Arguments that ask for nothing give the code 2 and no output. -/
theorem run_usage {root : FileTree} {arguments : List String} {registry : Registry}
    (h : Request.ofArguments? {} arguments = none) : run root arguments registry = { code := 2, lines := [] } := by
  simp [run, h, Outcome.usage]

end PluginHost.Command
