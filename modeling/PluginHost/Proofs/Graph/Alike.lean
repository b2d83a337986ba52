import PluginHost.Proofs.Graph.Cycle

/-!
# Graphs that are alike in what is required

Two graphs are alike when they have the same nodes and the same required edges; their optional edges may differ
(`Graph.Alike`). What depends on required edges alone is the same for both: the cycle that is found
(`Alike.findCycle?_eq`), not only whether there is one, because the walk comes to the dependencies of a node in
ascending order.
-/

namespace PluginHost.Graph

variable {g g' : Graph} {x : PluginId}

/-- What a node requires comes in ascending order. -/
theorem WellFormed.ascending_dependenciesOf (h : g.WellFormed) (x : PluginId) :
    Ascending (g.dependenciesOf x true) := by
  refine List.pairwise_map.mpr (List.Pairwise.imp_of_mem ?_ (h.edges.filter _))
  intro e e' he he' hlt
  obtain ⟨hs, hr⟩ : e.source = x ∧ e.required = true := by simpa using (List.mem_filter.mp he).2
  obtain ⟨hs', hr'⟩ : e'.source = x ∧ e'.required = true := by simpa using (List.mem_filter.mp he').2
  rcases (Edge.lt_iff_of_required_eq (hr.trans hr'.symm)).mp hlt with h | ⟨_, h⟩
  · rw [hs, hs'] at h
    exact absurd h (String.lt_irrefl x)
  · exact h

/-- Two graphs with the same nodes and the same required edges. -/
structure Alike (g g' : Graph) : Prop where
  left : g.WellFormed
  right : g'.WellFormed
  nodes : g.nodes = g'.nodes
  requires : ∀ x y, g.Requires x y ↔ g'.Requires x y

namespace Alike

theorem dependenciesOf_eq (h : Alike g g') (x : PluginId) : g.dependenciesOf x true = g'.dependenciesOf x true :=
  (h.left.ascending_dependenciesOf x).ext (h.right.ascending_dependenciesOf x) fun y => by
    rw [mem_dependenciesOf, mem_dependenciesOf, h.requires]

/-- The same cycle is found in both. -/
theorem findCycle?_eq (h : Alike g g') : g.findCycle? = g'.findCycle? := by
  simp only [findCycle?, h.nodes, h.dependenciesOf_eq]

theorem acyclic_iff (h : Alike g g') : Acyclic g.Requires ↔ Acyclic g'.Requires := by
  rw [← findCycle?_eq_none_iff h.left, ← findCycle?_eq_none_iff h.right, h.findCycle?_eq]

theorem requires_eq (h : Alike g g') : g.requires = g'.requires := by
  funext x y
  rw [Bool.eq_iff_iff, requires_eq_true_iff, requires_eq_true_iff, h.requires]

/-- Taking out the same nodes keeps graphs alike. -/
theorem removeNodes (h : Alike g g') (ids : List PluginId) : Alike (g.removeNodes ids) (g'.removeNodes ids) where
  left := h.left.removeNodes ids
  right := h.right.removeNodes ids
  nodes := by rw [nodes_removeNodes, nodes_removeNodes, h.nodes]
  requires x y := by
    have hxy : (⟨x, y, true⟩ : Edge) ∈ g.edges ↔ (⟨x, y, true⟩ : Edge) ∈ g'.edges := h.requires x y
    rw [Requires, Requires, mem_edges_removeNodes, mem_edges_removeNodes, hxy]

end Alike

end PluginHost.Graph
