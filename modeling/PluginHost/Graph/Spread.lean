import PluginHost.Graph.Basic

/-!
# Spreading along a relation

A worklist: starting from the ids in a queue, whatever stands in the relation `step` to an id that was reached is
reached too. Every id is reached once, and is told together with the id it was reached from; the ids reached from one
id come in the order of the list they are taken from.

* `mem_of_mem_spread`: only ids of the given list are reached.
-/

namespace PluginHost

/-- The ids of `room` that stand in the relation to `current`. -/
def reachedFrom (step : PluginId → PluginId → Bool) (room : List PluginId) (current : PluginId) : List PluginId :=
  room.filter fun x => step x current

/-- The ids of `room` that do not stand in the relation to `current`. -/
def notReachedFrom (step : PluginId → PluginId → Bool) (room : List PluginId) (current : PluginId) : List PluginId :=
  room.filter fun x => !step x current

/-- Every id of `room` is of one kind or the other. -/
theorem length_reachedFrom_add (step : PluginId → PluginId → Bool) (current : PluginId) : ∀ room : List PluginId,
    (reachedFrom step room current).length + (notReachedFrom step room current).length = room.length
  | [] => rfl
  | x :: room => by
    have ih := length_reachedFrom_add step current room
    simp only [reachedFrom, notReachedFrom] at ih ⊢
    by_cases h : step x current = true <;> simp [h] <;> omega

/-- Spreads from a queue over the ids of `room`; gives the ids reached, each with the one it was reached from. -/
def spread (step : PluginId → PluginId → Bool) (room queue : List PluginId) : List (PluginId × PluginId) :=
  match queue with
  | [] => []
  | current :: queue =>
    (reachedFrom step room current).map (fun x => (x, current)) ++
      spread step (notReachedFrom step room current) (queue ++ reachedFrom step room current)
termination_by room.length + queue.length
decreasing_by
  have h := length_reachedFrom_add step current room
  simp only [List.length_append, List.length_cons]
  omega

/-- Only ids of the given list are reached. -/
theorem mem_of_mem_spread {step : PluginId → PluginId → Bool} {room queue : List PluginId} {x c : PluginId}
    (h : (x, c) ∈ spread step room queue) : x ∈ room := by
  fun_induction spread step room queue with
  | case1 => cases h
  | case2 room current queue ih =>
    rcases List.mem_append.mp h with h | h
    · obtain ⟨y, hy, e⟩ := List.mem_map.mp h
      cases e
      exact (List.mem_filter.mp hy).1
    · exact (List.mem_filter.mp (ih h)).1

namespace Graph

/-- Every id that requires `id`, directly or through others; `id` itself is not among them. -/
def transitiveDependents (g : Graph) (id : PluginId) : List PluginId :=
  let found := (spread g.requires (g.nodes.filter (· ≠ id)) [id]).map Prod.fst
  g.nodes.filter (· ∈ found)

end Graph
end PluginHost
