import PluginHost.Files.Tree
import PluginHost.Ordered.IdMap
import PluginHost.Plugin.Container

/-!
# Registries

The factories a host knows, under the entry points that manifests name. An entry point without a factory may name a
library beside the artifact, which is opened and asked for the plugin; such a path never leads out of the artifact.

* `libraryPath_of_absolute`: an absolute entry point is refused.
-/

namespace PluginHost

/-- What a call of the constructor of a library comes to. A panic of it is caught. -/
inductive Construction where
  | plugin (plugin : Plugin)
  | null
  | panicked (payload : Payload)

/-- A library that was opened. -/
structure Library where
  /-- What its constructor gives, or why it has none. -/
  construction : Except String Construction

/-- How the system opens the library at a path, or why it does not; the reason may be left out. -/
abbrev Linker := Path → Except (Option String) Library

/-- The factories a host knows, and how the system opens libraries; unless told otherwise it opens none. -/
structure Registry where
  factories : IdMap Factory := .empty
  linker : Linker := fun _ => .error none

namespace Registry

/-- Registers a factory; an entry point that has one already is an error. -/
def register (r : Registry) (entryPoint : String) (factory : Factory) : Except PluginError Registry :=
  if r.factories.contains entryPoint then .error (.duplicateEntryPoint entryPoint)
  else .ok { r with factories := r.factories.insert entryPoint factory }

def contains (r : Registry) (entryPoint : String) : Bool := r.factories.contains entryPoint

def size (r : Registry) : Nat := r.factories.size

def isEmpty (r : Registry) : Bool := r.factories.isEmpty

def entryPoints (r : Registry) : List String := r.factories.keys

/-- The entry points of a registry, for diagnostics. -/
def inspect (r : Registry) : String :=
  "PluginRegistry \x7b entry_points: " ++ Text.quotedList r.entryPoints ++ " \x7d"

def libraryExtensions : List String := ["so", "dylib", "dll"]

def isLibraryName (entryPoint : String) : Bool := (Path.mk entryPoint).extension?.any libraryExtensions.contains

/-- The directory of an artifact: the artifact itself, or the directory a file lies in. -/
def artifactDirectory (root : FileTree) : Option Path → Path
  | none => ⟨""⟩
  | some source => if root.isDirectory source then source else source.parent?.getD ⟨""⟩

/-- The path of the library that an entry point names, seen from the artifact. -/
def libraryPath (root : FileTree) (c : Container) : Except ActivationFault Path :=
  let relative : Path := ⟨c.manifest.entryPoint⟩
  if relative.isAbsolute || relative.components.contains .parent then
    .error (.libraryOutside c.manifest.entryPoint)
  else .ok ((artifactDirectory root c.source).join relative)

/-- Opens the library at a path, and asks its constructor for a plugin. -/
def openLibrary (linker : Linker) (c : Container) (path : Path) : Traced (Except ActivationFault Plugin) :=
  match linker path with
  | .error reason => .pure (.error (.libraryUnopened path reason))
  | .ok library =>
    match library.construction with
    | .error reason => .pure (.error (.noConstructor reason))
    | .ok construction =>
      { calls := [.create c.manifest]
        result := match construction with
          | .plugin plugin => .ok plugin
          | .null => .error .nullPlugin
          | .panicked payload => .error (.constructorPanicked payload) }

/-- Builds the plugin of a container whose entry point names a library. -/
def loadLibrary (linker : Linker) (root : FileTree) (c : Container) : Traced (Except ActivationFault Plugin) :=
  match libraryPath root c with
  | .error fault => .pure (.error fault)
  | .ok path => openLibrary linker c path

section

variable {m : Type → Type} [Monad m] [MonadLiftT Traced m]

/-- Builds the plugin of a container. `answer?` is the answer of its factory, if there is one; a panic of the factory is
one of `m`. -/
def buildWith (answer? : Option (m (Except String Plugin))) (linker : Linker) (root : FileTree) (c : Container) :
    m (Except ActivationFault Plugin) :=
  let entryPoint := c.manifest.entryPoint
  match answer? with
  | some answer => do
    liftM (Traced.note (.create c.manifest))
    return (← answer).mapError (.factoryFailed entryPoint)
  | none =>
    if isLibraryName entryPoint then liftM (loadLibrary linker root c)
    else return .error (.noFactory entryPoint)

/-- Names the container in the error. -/
def instantiateWith (built : m (Except ActivationFault Plugin)) (c : Container) : m (Except PluginError Plugin) := do
  return (← built).mapError (.activationError c.id)

end

/-- Builds the plugin of a container. -/
def build (r : Registry) (root : FileTree) (c : Container) : Traced (Except ActivationFault Plugin) :=
  buildWith ((r.factories.find? c.manifest.entryPoint).map fun factory => pure (factory c.manifest)) r.linker root c

/-- Builds the plugin of a container; the error names it. -/
def instantiate (r : Registry) (root : FileTree) (c : Container) : Traced (Except PluginError Plugin) :=
  instantiateWith (r.build root c) c

/-- An absolute entry point is refused. -/
theorem libraryPath_of_absolute {root : FileTree} {c : Container}
    (h : (Path.mk c.manifest.entryPoint).isAbsolute = true) :
    libraryPath root c = .error (.libraryOutside c.manifest.entryPoint) := by
  simp [libraryPath, h]

end Registry
end PluginHost
