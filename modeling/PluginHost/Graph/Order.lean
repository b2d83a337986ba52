import PluginHost.Graph.Cycle
import PluginHost.Graph.Spread

/-!
# The order of a graph

Dependencies come first. Required edges always count; optional edges count in ascending order, except those that would
close a cycle with the edges that count already. Among the nodes that could come next the least one does.

* `Frontier.size_release_le`: placing a node adds none to those left, which bounds the number of steps.
-/

namespace PluginHost.Graph

/-- Edges that count, as pairs of a node and one that has to come before it. -/
abbrev Relation := List (PluginId × PluginId)

/-- Whether a relation leads from one node to another, in any number of steps. -/
def Relation.reaches (r : Relation) (nodes : List PluginId) (start goal : PluginId) : Bool :=
  start == goal ||
    ((spread (fun x current => (current, x) ∈ r) (nodes.filter (· ≠ start)) [start]).map Prod.fst).contains goal

def requiredRelation (g : Graph) : Relation :=
  (g.edges.filter (·.required)).map fun e => (e.source, e.target)

/-- Takes in an optional edge, unless its target leads back to its source already. -/
def countOptional (nodes : List PluginId) (r : Relation) (e : Edge) : Relation :=
  if r.reaches nodes e.target e.source then r else r ++ [(e.source, e.target)]

def effectiveRelation (g : Graph) : Relation :=
  (g.edges.filter (!·.required)).foldl (countOptional g.nodes) g.requiredRelation

/-! ## The frontier -/

/-- The nodes that are not placed yet: those that wait for others, with how many they wait for, and those that wait
for none, in ascending order. -/
structure Frontier where
  waiting : List (PluginId × Nat)
  ready : List PluginId
deriving DecidableEq, Repr

namespace Frontier

def size (f : Frontier) : Nat := f.waiting.length + f.ready.length

/-- Moves nodes that wait for none to those that are ready. -/
def settle (waiting : List (PluginId × Nat)) (ready : List PluginId) : Frontier :=
  { waiting := waiting.filter (·.2 ≠ 0)
    ready := ((waiting.filter (·.2 = 0)).map Prod.fst).foldl (fun ready id => insertAscending id ready) ready }

/-- The nodes of a graph before any is placed. -/
def start (nodes : List PluginId) (r : Relation) : Frontier :=
  settle (nodes.map fun id => (id, r.countP fun p => p.1 = id)) []

/-- A node was placed: those that wait for it wait for one less. -/
def release (f : Frontier) (r : Relation) (id : PluginId) : Frontier :=
  let dependents := (r.filter fun p => p.2 = id).map Prod.fst
  settle (f.waiting.map fun p => (p.1, if p.1 ∈ dependents then p.2 - 1 else p.2)) f.ready

/-- Inserting ids one after the other adds no more than there are. -/
theorem length_foldl_insert_le (ids : List PluginId) : ∀ ready : List PluginId,
    (ids.foldl (fun ready id => insertAscending id ready) ready).length ≤ ready.length + ids.length := by
  induction ids with
  | nil => exact fun _ => Nat.le_refl _
  | cons id ids ih =>
    intro ready
    have h1 := ih (insertAscending id ready)
    have h2 := length_insertAscending_le id ready
    simp only [List.foldl_cons, List.length_cons]
    omega

/-- Every node waits for some or for none. -/
theorem length_filter_zero_add : ∀ waiting : List (PluginId × Nat),
    (waiting.filter (·.2 = 0)).length + (waiting.filter (·.2 ≠ 0)).length = waiting.length
  | [] => rfl
  | p :: waiting => by
    have ih := length_filter_zero_add waiting
    by_cases h : p.2 = 0 <;> simp [h] at ih ⊢ <;> omega

/-- Moving nodes to those that are ready adds none. -/
theorem size_settle_le (waiting : List (PluginId × Nat)) (ready : List PluginId) :
    (settle waiting ready).size ≤ waiting.length + ready.length := by
  have h1 := length_foldl_insert_le ((waiting.filter (·.2 = 0)).map Prod.fst) ready
  have h2 := length_filter_zero_add waiting
  simp only [size, settle, List.length_map] at h1 ⊢
  omega

/-- Placing a node adds none. -/
theorem size_release_le (f : Frontier) (r : Relation) (id : PluginId) : (f.release r id).size ≤ f.size := by
  have h := size_settle_le (f.waiting.map fun p =>
    (p.1, if p.1 ∈ (r.filter fun p => p.2 = id).map Prod.fst then p.2 - 1 else p.2)) f.ready
  simpa [release, size] using h

end Frontier

/-- Places the least node that is ready, as long as there is one. -/
def place (r : Relation) (f : Frontier) : List PluginId :=
  match _h : f.ready with
  | [] => []
  | id :: ready => id :: place r ({ f with ready }.release r id)
termination_by f.size
decreasing_by
  have := Frontier.size_release_le { f with ready } r id
  simp only [Frontier.size, _h, List.length_cons] at this ⊢
  omega

/-- The nodes in an order that places dependencies first; an error tells the nodes on a cycle. Were nodes left over
although there is no cycle, they would be the error. -/
def orderOrCycle (g : Graph) : Except (List PluginId) (List PluginId) :=
  match g.findCycle? with
  | some cycle => .error cycle
  | none =>
    let r := g.effectiveRelation
    let order := place r (Frontier.start g.nodes r)
    if order.length = g.nodes.length then .ok order else .error (g.nodes.filter (· ∉ order))

/-- The nodes in an order that places dependencies first. -/
def topologicalOrder (g : Graph) : Except PluginError (List PluginId) :=
  match g.orderOrCycle with
  | .ok order => .ok order
  | .error cycle => .error (.cycleDetected cycle)

end PluginHost.Graph
