import PluginHost.Graph.Basic

/-!
# Looking for cycles

A depth-first walk along required edges, in ascending order of ids. It keeps the path it came along, the nodes it is
done with, and in `room` the nodes that are not on the path; `room` shrinks on the way down, so the walk ends.

* `visit` answers with a cycle, which starts and ends with the same id, or with the nodes it is done with.
-/

namespace PluginHost.Graph

/-- The part of a path, given last node first, from its node `id` on, closed by `id` itself. -/
def closeCycle (path : List PluginId) (id : PluginId) : List PluginId :=
  path.reverse.dropWhile (· ≠ id) ++ [id]

mutual

/-- Walks on from a node that is not on the path: a cycle is an error. -/
def visit (deps : PluginId → List PluginId) (room path done : List PluginId) (id : PluginId) (_h : id ∈ room) :
    Except (List PluginId) (List PluginId) :=
  (visitAll deps (room.erase id) (id :: path) done (deps id)).map fun done => id :: done
termination_by (room.length, 0)
decreasing_by
  have := List.length_erase_of_mem _h
  have := List.length_pos_of_mem _h
  exact Prod.Lex.left _ _ (by omega)

/-- Walks on to each of some nodes in turn, unless it is done with them. -/
def visitAll (deps : PluginId → List PluginId) (room path done : List PluginId) :
    List PluginId → Except (List PluginId) (List PluginId)
  | [] => .ok done
  | d :: ds =>
    if d ∈ path then .error (closeCycle path d)
    else if d ∈ done then visitAll deps room path done ds
    else if h : d ∈ room then
      match visit deps room path done d h with
      | .error cycle => .error cycle
      | .ok done => visitAll deps room path done ds
    else visitAll deps room path done ds
termination_by ds => (room.length, ds.length + 1)

end

/-- The first cycle of required edges on a walk from each node in turn: a path that starts and ends with one id. -/
def findCycle? (g : Graph) : Option (List PluginId) :=
  match visitAll (g.dependenciesOf · true) g.nodes [] [] g.nodes with
  | .error cycle => some cycle
  | .ok _ => none

end PluginHost.Graph
