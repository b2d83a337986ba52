import PluginHost.Host.Manager

/-!
# Asking a manager
-/

namespace PluginHost

/-- What is known of a declared dependency. -/
inductive DependencyState where
  /-- It is there, with a version that will do, and did not fail. -/
  | present
  | missing
  /-- It is there with a version that will not do. -/
  | incompatible
  | failed
deriving DecidableEq, Repr

def DependencyState.name : DependencyState → String
  | present => "present"
  | missing => "missing"
  | incompatible => "incompatible"
  | failed => "failed"

namespace Manager

def find? (m : Manager) (id : PluginId) : Option Container := m.containers.find? id

/-- The container of a plugin; it is an error when there is none. -/
def get (m : Manager) (id : PluginId) : Except PluginError Container :=
  match m.find? id with
  | some c => .ok c
  | none => .error (.notFound id)

def findFailed? (m : Manager) (id : PluginId) : Option Container := (m.find? id).filter (·.isFailed)

def isLoaded (m : Manager) (id : PluginId) : Bool := (m.find? id).any (·.isLoaded)

def plugins (m : Manager) : List Container := m.containers.values

/-- The containers with a property, in ascending order of ids. -/
def filter (m : Manager) (p : Container → Bool) : List Container := m.plugins.filter p

/-- The loaded containers in the order of their activation. -/
def loadedPlugins (m : Manager) : List Container := m.loadOrder.filterMap m.find?

/-- The ids of the plugins that require a plugin, in ascending order. -/
def dependentsOf (m : Manager) (id : PluginId) : List PluginId :=
  (m.plugins.filter fun c => c.manifest.requiredDependencies.any (·.id = id)).map (·.id)

/-- What is known of a declared dependency. -/
def dependencyState (m : Manager) (d : Dependency) : DependencyState :=
  match m.find? d.id with
  | none => .missing
  | some target =>
    if !d.accepts target.version then .incompatible else if target.isFailed then .failed else .present

/-- What is known of each dependency that a plugin declares, in the order of declaration. -/
def dependencyStates (m : Manager) (id : PluginId) : Except PluginError (List (Dependency × DependencyState)) :=
  (m.get id).map fun c => c.dependencies.map fun d => (d, m.dependencyState d)

/-- The plugins of a manager and how far it got, for diagnostics. -/
def inspect (m : Manager) : String :=
  "PluginManager \x7b plugins: " ++ Text.quotedList m.containers.keys ++ ", load_order: " ++
    Text.quotedList m.loadOrder ++ ", pipeline_ran: " ++ (if m.pipelineRan then "true" else "false") ++ ", .. \x7d"

end Manager
end PluginHost
