import PluginHost.Config.Basic
import PluginHost.Host.Report
import PluginHost.Plugin.Loader
import PluginHost.Resolution.Basic

/-!
# Managers

A manager owns the containers of the plugins. It takes them in, works out what can be loaded, activates it in order and
stops it in reverse order; each of these but the first happens at most once.

* `shutdown_again`: stopping a second time calls no plugin code.
-/

namespace PluginHost

/-- The plugins of a host and what came of them. -/
structure Manager where
  loader : Loader
  /-- Plugins that are left out. -/
  disabled : List PluginId := []
  containers : IdMap Container := .empty
  /-- The loaded plugins in the order of their activation. -/
  loadOrder : List PluginId := []
  /-- The dependencies among the plugins that could be loaded. -/
  graph : Graph := {}
  discoveryErrors : List PluginError := []
  pipelineRan : Bool := false
  shutDown : Bool := false

namespace Manager

def ofConfig (config : Config) (registry : Registry) : Except ConfigError Manager :=
  match config.api with
  | .error e => .error (.apiVersion e)
  | .ok api => .ok { loader := { registry, api, limit := config.activationLimit }, disabled := config.disabled }

/-! ## Discovery -/

/-- Takes in a container. A disabled plugin is dropped, a second container of a known plugin is an error. -/
def addContainer (m : Manager) (c : Container) : Except PluginError Manager :=
  if m.pipelineRan then .error .pipelineAlreadyRun
  else if c.id ∈ m.disabled then .ok m
  else if m.containers.contains c.id then .error (.duplicatePlugin c.id (c.source.getD ⟨""⟩))
  else .ok { m with containers := m.containers.insert c.id c }

/-- Takes in a container and keeps the error, if it is one. -/
def addOrRecord (m : Manager) (c : Container) : Manager :=
  match m.addContainer c with
  | .ok m => m
  | .error e => { m with discoveryErrors := m.discoveryErrors ++ [e] }

/-- Takes in what a directory holds; answers how many containers are new. -/
def discover (m : Manager) (root : FileTree) (dir : Path) : Manager × Except PluginError Nat :=
  if m.pipelineRan then (m, .error .pipelineAlreadyRun)
  else match Loader.scanDirectory root dir with
    | .error e => (m, .error e)
    | .ok found =>
      let before := m.containers.size
      let m := { m with discoveryErrors := m.discoveryErrors ++ found.errors }
      let m := found.containers.foldl addOrRecord m
      (m, .ok (m.containers.size - before))

/-! ## Loading -/

/-- The containers of a manager while it loads. -/
abbrev Containers := IdMap Container

/-- Marks excluded plugins as failed; a container that refuses stops it. -/
def failExcluded : List (PluginId × PluginError) → Containers → Containers × Except PluginError Unit
  | [], cs => (cs, .ok ())
  | (id, cause) :: rest, cs =>
    match cs.find? id with
    | none => failExcluded rest cs
    | some c =>
      match c.markFailed cause with
      | .ok c => failExcluded rest (cs.insert id c)
      | .error e => (cs, .error e)

/-- Marks the plugins of an order as about to be activated; a container that refuses stops it. -/
def beginAll : List PluginId → Containers → Containers × Except PluginError Unit
  | [], cs => (cs, .ok ())
  | id :: rest, cs =>
    match cs.find? id with
    | none => beginAll rest cs
    | some c =>
      match c.beginResolving with
      | .ok c => beginAll rest (cs.insert id c)
      | .error e => (cs, .error e)

/-- The first required dependency of a plugin that is not there or failed. -/
def failedDependency? (cs : Containers) (c : Container) : Option PluginId :=
  (c.manifest.requiredDependencies.find? fun d => (cs.find? d.id).all (·.isFailed)).map (·.id)

/-- How far loading got: the containers, the plugins activated so far, and their ids in the order of activation. -/
structure Loading where
  containers : Containers
  /-- What the next plugin sees. -/
  active : IdMap Plugin := .empty
  loadOrder : List PluginId

/-- A loader is done with the container of a plugin; one that was activated is seen by those that follow. -/
def Loading.finish (s : Loading) (id : PluginId) (c : Container) (result : Except PluginError Unit) : Loading :=
  let containers := s.containers.insert id c
  match result with
  | .error _ => { s with containers }
  | .ok _ =>
    { containers
      active := match c.plugin? with
        | some plugin => s.active.insert id plugin
        | none => s.active
      loadOrder := s.loadOrder ++ [id] }

/-- Activates a plugin. One whose required dependency failed is marked as failed without being called; only a container
that refuses this is an error. -/
def activateNext (loader : Loader) (root : FileTree) (id : PluginId) (s : Loading) :
    Traced (Loading × Except PluginError Unit) :=
  match s.containers.find? id with
  | none => .pure (s, .ok ())
  | some c =>
    match failedDependency? s.containers c with
    | some dependency =>
      match c.markFailed (.dependencyFailed id dependency) with
      | .ok c => .pure ({ s with containers := s.containers.insert id c }, .ok ())
      | .error e => .pure (s, .error e)
    | none =>
      let t := loader.load root c s.active.keys
      { calls := t.calls, result := (s.finish id t.result.1 t.result.2, .ok ()) }

/-- Activates the plugins of an order one after the other; the failure of one does not stop the others. -/
def activateAll (loader : Loader) (root : FileTree) :
    List PluginId → Loading → Traced (Loading × Except PluginError Unit)
  | [], s => .pure (s, .ok ())
  | id :: rest, s =>
    let t := activateNext loader root id s
    match t.result.2 with
    | .error _ => t
    | .ok _ =>
      let more := activateAll loader root rest t.result.1
      { calls := t.calls ++ more.calls, result := more.result }

/-- The failed containers in ascending order of ids. -/
def failedPlugins (m : Manager) : List Container := m.containers.values.filter (·.isFailed)

def report (m : Manager) : Report :=
  { loaded := m.loadOrder
    failed := m.failedPlugins.map fun c => (c.id, (c.failure?.map (·.message)).getD "")
    discoveryErrors := m.discoveryErrors.map (·.message) }

/-- Resolves all containers and activates the plugins that can be loaded. -/
def loadAll (m : Manager) (root : FileTree) : Traced (Manager × Except PluginError Report) :=
  if m.pipelineRan then .pure (m, .error .pipelineAlreadyRun)
  else
    let m := { m with pipelineRan := true }
    let resolution := Resolution.ofContainers m.containers.values
    let (containers, result) := failExcluded resolution.excluded.entries m.containers
    let m := { m with containers }
    match result with
    | .error e => .pure (m, .error e)
    | .ok _ =>
      let (containers, result) := beginAll resolution.order m.containers
      let m := { m with containers }
      match result with
      | .error e => .pure (m, .error e)
      | .ok _ =>
        let t := activateAll m.loader root resolution.order { containers := m.containers, loadOrder := m.loadOrder }
        let m := { m with containers := t.result.1.containers, loadOrder := t.result.1.loadOrder }
        { calls := t.calls
          result := match t.result.2 with
            | .error e => (m, .error e)
            | .ok _ =>
              let m := { m with graph := resolution.graph }
              (m, .ok m.report) }

/-- Takes in what a directory holds and loads everything. -/
def loadDirectory (m : Manager) (root : FileTree) (dir : Path) : Traced (Manager × Except PluginError Report) :=
  if m.pipelineRan then .pure (m, .error .pipelineAlreadyRun)
  else
    let (m, result) := m.discover root dir
    match result with
    | .error e => .pure (m, .error e)
    | .ok _ => m.loadAll root

/-! ## Stopping -/

/-- Stops one plugin; answers the error, if it is one. -/
def stop (containers : Containers) (id : PluginId) : Traced (Option PluginError) :=
  match containers.find? id with
  | none => .pure none
  | some c =>
    match c.plugin? with
    | none => .pure none
    | some plugin =>
      { calls := [.deactivate c.manifest]
        result := match plugin.deactivate with
          | .done => none
          | .refused message => some (.deactivationError id (.refused message))
          | .panicked payload => some (.deactivationError id (.panicked payload)) }

/-- Stops plugins one after the other; the failure of one does not stop the others. -/
def stopAll (containers : Containers) : List PluginId → Traced (List PluginError)
  | [] => .pure []
  | id :: rest =>
    let first := stop containers id
    let more := stopAll containers rest
    { calls := first.calls ++ more.calls, result := first.result.toList ++ more.result }

/-- Stops the loaded plugins in reverse order of their activation; a second time nothing happens. -/
def shutdown (m : Manager) : Traced (Manager × List PluginError) :=
  if m.shutDown then .pure (m, [])
  else
    let t := stopAll m.containers m.loadOrder.reverse
    { calls := t.calls, result := ({ m with shutDown := true }, t.result) }

/-- Stopping a second time calls no plugin code and changes nothing. -/
theorem shutdown_again {m : Manager} (h : m.shutDown = true) : m.shutdown = .pure (m, []) := by
  simp [shutdown, h]

end Manager
end PluginHost
