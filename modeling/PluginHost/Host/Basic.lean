import PluginHost.Host.Manager

/-!
# Hosts

A host has settings and the manager of its plugins. It is started once and shut down once.

* `start_again`: a second start is an error and changes nothing.
-/

namespace PluginHost

/-- What goes wrong with a host. -/
inductive HostError where
  | plugins (error : PluginError)
  | config (error : ConfigError)
  | alreadyStarted
  | alreadyShutDown
deriving DecidableEq, Repr

def HostError.message : HostError → String
  | plugins error => "Plugin system error: " ++ error.message
  | config error => "Configuration error: " ++ error.message
  | alreadyStarted => "Kernel lifecycle error during Start: Host already started"
  | alreadyShutDown => "Kernel lifecycle error during Shutdown: Host already shut down"

/-- A host. -/
structure Host where
  config : Config
  manager : Manager
  started : Bool := false
  stopped : Bool := false

namespace Host

def create (config : Config) (registry : Registry) : Except HostError Host :=
  match Manager.ofConfig config registry with
  | .ok manager => .ok { config, manager }
  | .error e => .error (.config e)

/-- Loads the plugins of the configured directory. -/
def start (h : Host) (root : FileTree) : Traced (Host × Except HostError Report) :=
  if h.started then .pure (h, .error .alreadyStarted)
  else
    let t := h.manager.loadDirectory root h.config.pluginsDir
    { calls := t.calls
      result := ({ h with started := true, manager := t.result.1 }, t.result.2.mapError .plugins) }

/-- Stops the loaded plugins; the errors of plugins do not make it fail. -/
def shutdown (h : Host) : Traced (Host × Except HostError (List PluginError)) :=
  if h.stopped then .pure (h, .error .alreadyShutDown)
  else
    let t := h.manager.shutdown
    { calls := t.calls, result := ({ h with stopped := true, manager := t.result.1 }, .ok t.result.2) }

/-- A second start is an error and changes nothing. -/
theorem start_again {h : Host} (started : h.started = true) (root : FileTree) :
    h.start root = .pure (h, .error .alreadyStarted) := by
  simp [start, started]

end Host
end PluginHost
