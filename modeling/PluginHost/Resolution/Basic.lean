import PluginHost.Graph.Order
import PluginHost.Ordered.IdMap
import PluginHost.Plugin.Container

/-!
# Resolution

Which plugins can be loaded, and in which order. A plugin is excluded when a dependency it requires is missing or has a
version that will not do, when it is on a cycle of required dependencies, or when it requires an excluded plugin; the
cause is kept. The others form the graph of the resolution and are ordered.
-/

namespace PluginHost

/-- What a resolution finds. -/
structure Resolution where
  /-- The plugins that can be loaded, dependencies first. -/
  order : List PluginId := []
  /-- The plugins that cannot be loaded, each with the cause. -/
  excluded : IdMap PluginError := .empty
  /-- Plugins with the optional dependencies of theirs that are not there. -/
  absentOptional : List (PluginId × PluginId) := []
  /-- The dependencies among the plugins of the order. -/
  graph : Graph := {}

namespace Resolution

def isComplete (r : Resolution) : Bool := r.excluded.isEmpty

/-- A cause that is not handed on from a dependency. -/
def isRoot : PluginError → Bool
  | .dependencyFailed .. => false
  | _ => true

/-- The causes that are not handed on, in ascending order of ids. -/
def rootCauses (r : Resolution) : List PluginError := r.excluded.values.filter isRoot

/-- The place of a plugin in the order, counted from zero. -/
def position? (r : Resolution) (id : PluginId) : Option Nat := r.order.findIdx? (· = id)

/-! ## Looking at the declarations -/

/-- What is found while declarations are looked at. -/
structure Survey where
  causes : IdMap PluginError := .empty
  absentOptional : List (PluginId × PluginId) := []
  graph : Graph

/-- Records the first cause of a plugin. -/
def Survey.blame (s : Survey) (id : PluginId) (cause : PluginError) : Survey :=
  if s.causes.contains id then s else { s with causes := s.causes.insert id cause }

/-- Looks at one declaration of a plugin. -/
def Survey.look (known : IdMap Container) (id : PluginId) (s : Survey) (d : Dependency) : Survey :=
  match known.find? d.id with
  | none =>
    if d.required then s.blame id (.missingDependency id d.id)
    else { s with absentOptional := s.absentOptional ++ [(id, d.id)] }
  | some target =>
    if !d.accepts target.version then
      if d.required then s.blame id (.incompatibleDependency id d.id d.requirement target.version) else s
    else match s.graph.addEdge id d.id d.required with
      | .ok graph => { s with graph }
      | .error _ => s

/-- Looks at all declarations, plugin by plugin. -/
def survey (known : IdMap Container) : Survey :=
  let nodes := known.keys.foldl Graph.addNode {}
  known.entries.foldl (fun s p => p.2.dependencies.foldl (Survey.look known p.1) s) { graph := nodes }

/-! ## Excluding -/

/-- Excludes what requires the plugins of a list, directly or through others, and drops all that is excluded. -/
def excludeDependents (graph : Graph) (excluded : IdMap PluginError) (failed : List PluginId) :
    Graph × IdMap PluginError :=
  let reached := spread graph.requires (graph.nodes.filter fun id => !excluded.contains id) failed
  let excluded := reached.foldl (fun m p => m.insert p.1 (.dependencyFailed p.1 p.2)) excluded
  (graph.removeNodes excluded.keys, excluded)

/-- The plugins on a closed path, each once. -/
def cycleMembers (path : List PluginId) : List PluginId :=
  match path with
  | first :: second :: rest => if (second :: rest).getLast? = some first then path.dropLast else path
  | path => path

/-- A cycle told from one of its members: the members from there on, those before, and the member again. -/
def rotations (before : List PluginId) : List PluginId → List (PluginId × List PluginId)
  | [] => []
  | m :: rest => (m, m :: rest ++ before ++ [m]) :: rotations (before ++ [m]) rest

/-- Excludes cycles, and what requires them, until the rest can be ordered. Every round removes a node, so as many
rounds as there are nodes suffice. -/
def peel : Nat → Graph → IdMap PluginError → List PluginId × Graph × IdMap PluginError
  | 0, graph, excluded => ([], graph, excluded)
  | room + 1, graph, excluded =>
    match graph.orderOrCycle with
    | .ok order => (order, graph, excluded)
    | .error path =>
      let members := cycleMembers path
      let excluded := (rotations [] members).foldl (fun m p => m.insert p.1 (.cycleDetected p.2)) excluded
      let (graph, excluded) := excludeDependents graph excluded members
      peel room graph excluded

/-- Finds the plugins that can be loaded; of several containers with one id the last one counts. -/
def ofContainers (containers : List Container) : Resolution :=
  let known := IdMap.ofList (containers.map fun c => (c.id, c))
  let s := survey known
  let (graph, excluded) := excludeDependents s.graph s.causes s.causes.keys
  let (order, graph, excluded) := peel (graph.size + 1) graph excluded
  { order, excluded, absentOptional := s.absentOptional, graph }

/-! ## Strict resolution -/

/-- The rank of a cause: missing dependencies come first, then versions that will not do, then cycles; a failure handed
on has no rank. -/
def rank? : PluginError → Option Nat
  | .missingDependency .. => some 0
  | .incompatibleDependency .. => some 1
  | .dependencyFailed .. => none
  | _ => some 2

/-- The cause with the least rank and, among those of one rank, the least id. -/
def firstCause? (r : Resolution) : Option PluginError :=
  let ofRank := fun n => (r.excluded.entries.find? fun p => rank? p.2 = some n).map Prod.snd
  ofRank 0 <|> ofRank 1 <|> ofRank 2

/-- Resolution that fails when any plugin is excluded for a cause of its own. -/
def strict (containers : List Container) : Except PluginError Resolution :=
  let r := ofContainers containers
  match r.firstCause? with
  | some cause => .error cause
  | none => .ok r

end Resolution
end PluginHost
