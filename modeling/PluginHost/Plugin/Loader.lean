import PluginHost.Files.Artifact
import PluginHost.Manifest.Parser
import PluginHost.Plugin.Registry

/-!
# Loading

Reading artifacts gives containers and calls no plugin code. Activating a container that is about to be resolved calls
its factory and its plugin, and leaves it loaded or failed; only a factory that panics keeps it from ending at all
(`Loader.loadFragile`).

* `load_of_not_resolving`: any other container is left alone, and no plugin code is called.
-/

namespace PluginHost

/-- What a directory holds: the containers of its artifacts, and why other artifacts gave none. -/
structure Discovery where
  containers : List Container := []
  errors : List PluginError := []

/-- How a host activates plugins. -/
structure Loader where
  registry : Registry
  /-- The version of the host. -/
  api : Version
  /-- The time an activation may take, in milliseconds; any when there is none. -/
  limit : Option Nat := none

namespace Loader

/-- The containers of an artifact: a manifest file, or a directory that holds one. -/
def loadFile (root : FileTree) (path : Path) : Except PluginError (List Container) := do
  let unreadable := fun fault => PluginError.unreadableArtifact path fault
  let node ← (root.find path).mapError unreadable
  let manifest ← match node with
    | .directory _ =>
      match root.manifestIn? path with
      | some manifest => .ok manifest
      | none => .error (unreadable .noManifest)
    | _ => .ok path
  let content ← (root.readText manifest).mapError unreadable
  let manifests ← Manifest.parseAll manifest content
  return manifests.map fun manifest => { manifest, source := some path }

/-- Takes one more artifact into a discovery. -/
def discoverArtifact (root : FileTree) (d : Discovery) (path : Path) : Discovery :=
  match loadFile root path with
  | .ok containers => { d with containers := d.containers ++ containers }
  | .error e => { d with errors := d.errors ++ [e] }

/-- What a directory holds; a directory that is not there holds nothing. -/
def scanDirectory (root : FileTree) (dir : Path) : Except PluginError Discovery :=
  match root.find dir with
  | .error .notFound => .ok {}
  | .error fault => .error (.unreadableArtifact dir fault)
  | .ok _ =>
    match root.artifacts dir with
    | .error fault => .error (.unreadableArtifact dir fault)
    | .ok paths => .ok (paths.foldl (discoverArtifact root) {})

/-- The end of an activation; one that takes longer than its limit has timed out, whatever comes of it later. -/
def judge (limit : Option Nat) (a : Activation) : Except ActivationFault Unit :=
  match limit with
  | some limit => if limit < a.duration then .error (.timedOut limit) else finish
  | none => finish
where
  finish := match a.outcome with
    | .done => .ok ()
    | .refused message => .error (.refused message)
    | .panicked payload => .error (.panicked payload)

/-- What a plugin sees that is activated for a container; `loaded` are the plugins activated so far. -/
def contextOf (l : Loader) (c : Container) (loaded : List PluginId) : Context :=
  { manifest := c.manifest, api := l.api, loaded }

@[simp] theorem manifest_contextOf (l : Loader) (c : Container) (loaded : List PluginId) :
    (l.contextOf c loaded).manifest = c.manifest := rfl

@[simp] theorem loaded_contextOf (l : Loader) (c : Container) (loaded : List PluginId) :
    (l.contextOf c loaded).loaded = loaded := rfl

@[simp] theorem contextOf_progress (l : Loader) (c : Container) (progress : Progress) (loaded : List PluginId) :
    l.contextOf { c with progress } loaded = l.contextOf c loaded := rfl

/-- What is told of an error of the registry: its cause when an activation failed, and else its message. -/
def causeOf : PluginError → ActivationFault
  | .activationError _ cause => cause
  | e => .other e.message

section

variable {m : Type → Type} [Monad m] [MonadLiftT Traced m]

/-- Activates the plugin of a container, which the registry instantiates if the container works with the host. -/
def activateWith (l : Loader) (instantiated : m (Except PluginError Plugin)) (c : Container)
    (loaded : List PluginId) : m (Except ActivationFault Plugin) :=
  if !c.manifest.supportsApi l.api then
    return .error (.apiUnsupported l.api (c.manifest.apiVersions.map (·.text)))
  else do
    match ← instantiated with
    | .error e => return .error (causeOf e)
    | .ok plugin =>
      let attempt : Attempt := ⟨l.contextOf c loaded, plugin⟩
      liftM (Traced.note (.activate attempt))
      return (judge l.limit (plugin.activate attempt.toContext)).map fun _ => plugin

/-- Loads a container that is about to be resolved: it ends up loaded or failed. -/
def loadWith (l : Loader) (instantiated : m (Except PluginError Plugin)) (c : Container) (loaded : List PluginId) :
    m (Container × Except PluginError Unit) :=
  if c.state ≠ .resolving then return (c, .error (.invalidStateTransition c.id c.state .loaded))
  else do
    match ← l.activateWith instantiated c loaded with
    | .ok plugin =>
      match c.markLoaded plugin with
      | .ok c => return (c, .ok ())
      | .error e => return (c, .error e)
    | .error cause =>
      match c.markFailed (.activationError c.id cause) with
      | .ok c' => return (c', .error (.activationError c.id cause))
      | .error e => return (c, .error e)

end

def activate (l : Loader) (root : FileTree) (c : Container) (loaded : List PluginId) :
    Traced (Except ActivationFault Plugin) :=
  l.activateWith (l.registry.instantiate root c) c loaded

def load (l : Loader) (root : FileTree) (c : Container) (loaded : List PluginId) :
    Traced (Container × Except PluginError Unit) :=
  l.loadWith (l.registry.instantiate root c) c loaded

/-- Loads with factories that may panic, in place of those of the registry. A panic leaves the container as it was. -/
def loadFragile (l : Loader) (factories : IdMap FragileFactory) (root : FileTree) (c : Container)
    (loaded : List PluginId) : Fragile (Container × Except PluginError Unit) :=
  let answer? := (factories.find? c.manifest.entryPoint).map fun factory => ExceptT.mk (pure (factory c.manifest))
  l.loadWith (Registry.instantiateWith (Registry.buildWith answer? l.registry.linker root c) c) c loaded

/-- A container that is not about to be resolved is left alone, and no plugin code is called. -/
theorem load_of_not_resolving {l : Loader} {root : FileTree} {c : Container} {loaded : List PluginId}
    (h : c.state ≠ .resolving) :
    l.load root c loaded = .pure (c, .error (.invalidStateTransition c.id c.state .loaded)) := by
  rw [load, loadWith, if_pos h]
  rfl

end Loader
end PluginHost
