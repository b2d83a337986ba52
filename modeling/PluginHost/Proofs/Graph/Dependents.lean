import PluginHost.Proofs.Graph.Cycle
import PluginHost.Proofs.Graph.Spread

/-!
# Dependents

The dependents of an id are the sources of the required edges to it (`mem_dependentsOf`). Its transitive dependents are
the other nodes from which a path of required edges leads to it, whether such paths come through the id itself, run in
circles, or the id is no node at all (`transitiveDependents_build`).
-/

open Relation (TransGen)

namespace PluginHost.Graph

variable {g : Graph} {id x y : PluginId}

/-! ## Direct dependents -/

theorem mem_dependentsOf : x ∈ g.dependentsOf y ↔ g.Requires x y := by
  simp only [dependentsOf, List.mem_map, List.mem_filter, Requires]
  constructor
  · rintro ⟨⟨s, t, r⟩, ⟨he, hy⟩, rfl⟩
    obtain ⟨rfl, rfl⟩ : r = true ∧ t = y := by simpa using hy
    exact he
  · intro h
    exact ⟨⟨x, y, true⟩, ⟨h, by simp⟩, rfl⟩

theorem WellFormed.ascending_dependentsOf (h : g.WellFormed) (y : PluginId) : Ascending (g.dependentsOf y) := by
  refine List.pairwise_map.mpr (List.Pairwise.imp_of_mem ?_ (h.edges.filter _))
  intro e e' he he' hlt
  obtain ⟨hr, ht⟩ : e.required = true ∧ e.target = y := by simpa using (List.mem_filter.mp he).2
  obtain ⟨hr', ht'⟩ : e'.required = true ∧ e'.target = y := by simpa using (List.mem_filter.mp he').2
  rcases (Edge.lt_iff_of_required_eq (hr.trans hr'.symm)).mp hlt with h | ⟨_, h⟩
  · exact h
  · rw [ht, ht'] at h
    exact absurd h (String.lt_irrefl y)

/-! ## Transitive dependents -/

/-- What the search for transitive dependents puts into its queue, each with the id it was reached from. -/
def queuedFor (g : Graph) (id : PluginId) : List (PluginId × PluginId) :=
  spread g.requires (g.nodes.filter (· ≠ id)) [id]

/-- The search queues the other nodes from which a path of required edges leads to the id. -/
theorem WellFormed.mem_queuedFor_iff (h : g.WellFormed) :
    x ∈ (g.queuedFor id).map Prod.fst ↔ x ≠ id ∧ TransGen g.Requires x id := by
  have hstep : ∀ y z, SpreadStep g.requires (g.nodes.filter (· ≠ id)) y z ↔ g.Requires z y ∧ z ≠ id := by
    intro y z
    rw [SpreadStep, List.mem_filter, decide_eq_true_eq, requires_eq_true_iff]
    constructor
    · rintro ⟨⟨_, hne⟩, hzy⟩
      exact ⟨hzy, hne⟩
    · rintro ⟨hzy, hne⟩
      exact ⟨⟨(h.requires_mem hzy).1, hne⟩, hzy⟩
  rw [queuedFor, mem_spread_iff]
  constructor
  · rintro ⟨q, hq, hpath⟩
    obtain rfl := List.mem_singleton.mp hq
    obtain ⟨y, _, hyx⟩ := TransGen.tail'_iff.mp hpath
    refine ⟨((hstep y x).mp hyx).2, Relation.transGen_swap.mp ?_⟩
    exact TransGen.mono (fun y z hyz => ((hstep y z).mp hyz).1) _ _ hpath
  · rintro ⟨hne, hpath⟩
    -- A path that comes through the id is cut there.
    rcases eq_or_transGen_avoiding (Relation.transGen_swap.mpr hpath).to_reflTransGen with rfl | hpath
    · exact absurd rfl hne
    · exact ⟨id, List.mem_singleton_self id, TransGen.mono (fun y z hyz => (hstep y z).mpr hyz) _ _ hpath⟩

theorem mem_transitiveDependents_iff :
    x ∈ g.transitiveDependents id ↔ x ∈ g.nodes ∧ x ∈ (g.queuedFor id).map Prod.fst := by
  rw [transitiveDependents, List.mem_filter, decide_eq_true_eq, queuedFor]

/-- The transitive dependents of an id, be it a node or not, are the other ids from which a path of one or more required
edges leads to it, in ascending order. The search for them queues each of them once and nothing else, so it ends after
as many rounds and one for the id. -/
theorem transitiveDependents_build (changes : List Change) (id : PluginId) :
    let g := build changes
    (∀ x, x ∈ g.transitiveDependents id ↔ x ≠ id ∧ TransGen g.Requires x id) ∧
    Ascending (g.transitiveDependents id) ∧
    ((g.queuedFor id).map Prod.fst).Perm (g.transitiveDependents id) := by
  intro g
  have h : g.WellFormed := wellFormed_build changes
  have hmem : ∀ x, x ∈ g.transitiveDependents id ↔ x ≠ id ∧ TransGen g.Requires x id := by
    intro x
    rw [mem_transitiveDependents_iff, h.mem_queuedFor_iff, and_iff_right_of_imp]
    rintro ⟨_, hpath⟩
    obtain ⟨y, hxy, _⟩ := TransGen.head'_iff.mp hpath
    exact (h.requires_mem hxy).1
  have hascending : Ascending (g.transitiveDependents id) := h.nodes.filter _
  have hqueued : ((g.queuedFor id).map Prod.fst).Nodup := nodup_spread (h.nodes.nodup.filter _)
  refine ⟨hmem, hascending, (List.perm_ext_iff_of_nodup hqueued hascending.nodup).mpr fun x => ?_⟩
  rw [h.mem_queuedFor_iff, hmem]

end PluginHost.Graph
