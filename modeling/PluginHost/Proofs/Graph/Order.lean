import PluginHost.Proofs.Graph.Effective
import PluginHost.Proofs.Graph.Placement

/-!
# The order of a graph, exactly

A well-formed graph has an order exactly when its required edges have no cycle (`exists_orderOrCycle_ok`,
`exists_orderOrCycle_error`). The order is the least one for the edges that count, and these are all edges whenever all
edges together have no cycle.
-/

open Relation (TransGen ReflTransGen)

namespace PluginHost.Graph

variable {g : Graph}

theorem WellFormed.effective_mem (h : g.WellFormed) {x y : PluginId} (hxy : g.Effective x y) :
    x ∈ g.nodes ∧ y ∈ g.nodes := by
  obtain ⟨e, he, rfl, rfl⟩ := exists_edge_of_effective hxy
  exact ⟨h.source_mem e he, h.target_mem e he⟩

/-- The nodes are placed in the least order for the edges that count. -/
theorem leastOrder_place_effectiveRelation (h : g.WellFormed) (hacyclic : Acyclic g.Requires) :
    LeastOrder g.Effective g.nodes (place g.effectiveRelation (.start g.nodes g.effectiveRelation)) := by
  have hstep : g.effectiveRelation.Step = g.Effective := by
    funext x y
    exact propext (mem_effectiveRelation_iff h)
  have hr : ∀ p ∈ g.effectiveRelation, p.2 ∈ g.nodes := by
    rintro ⟨x, y⟩ hp
    exact (h.effective_mem ((mem_effectiveRelation_iff h).mp hp)).2
  rw [Frontier.start_eq_of h.nodes hr, ← hstep]
  exact leastOrder_place (nodup_effectiveRelation h) (hstep ▸ acyclic_effective hacyclic) h.nodes

/-- Without a cycle of required edges there is an order, the least one for the edges that count. -/
theorem exists_orderOrCycle_ok (h : g.WellFormed) (hacyclic : Acyclic g.Requires) :
    ∃ order, g.orderOrCycle = .ok order ∧ LeastOrder g.Effective g.nodes order := by
  have hleast := leastOrder_place_effectiveRelation h hacyclic
  refine ⟨_, ?_, hleast⟩
  simp only [orderOrCycle, (findCycle?_eq_none_iff h).mpr hacyclic, if_pos hleast.perm.length_eq]

/-- With a cycle of required edges, the error tells one. -/
theorem exists_orderOrCycle_error (h : g.WellFormed) (hcycle : ¬Acyclic g.Requires) :
    ∃ c, g.findCycle? = some c ∧ g.orderOrCycle = .error c ∧ IsCycle g.Requires c := by
  cases hc : g.findCycle? with
  | none => exact absurd ((findCycle?_eq_none_iff h).mp hc) hcycle
  | some c =>
    refine ⟨c, rfl, ?_, isCycle_of_findCycle? h hc⟩
    simp only [orderOrCycle, hc]

/-- There is no order exactly when the required edges have a cycle. Otherwise the edges that count have none, an edge
that does not count would close one, and the order is the least one for the edges that count; these are all edges when
all edges together have no cycle. -/
theorem topologicalOrder_build (changes : List Change) :
    let g := build changes
    ((∃ path, g.topologicalOrder = .error (.cycleDetected path)) ↔ ∃ x, TransGen g.Requires x x) ∧
    (Acyclic g.Requires →
      (g.optionalEdges.Pairwise fun e e' => e.source < e'.source ∨ e.source = e'.source ∧ e.target < e'.target) ∧
      Acyclic g.Effective ∧
      (∀ e ∈ g.optionalEdges, ¬g.Effective e.source e.target → ¬Acyclic (AddPair g.Effective e.source e.target)) ∧
      ∃ order, g.topologicalOrder = .ok order ∧ LeastOrder g.Effective g.nodes order ∧
        ((Acyclic fun x y => ∃ e ∈ g.edges, e.source = x ∧ e.target = y) →
          ∀ e ∈ g.edges, Precedes order e.target e.source)) := by
  intro g
  have h : g.WellFormed := wellFormed_build changes
  clear_value g
  refine ⟨⟨?_, ?_⟩, fun hacyclic => ⟨h.pairwise_optionalEdges, acyclic_effective hacyclic, ?_, ?_⟩⟩
  · rintro ⟨path, he⟩
    by_contra hno
    obtain ⟨order, ho, _⟩ := exists_orderOrCycle_ok h fun x hx => hno ⟨x, hx⟩
    simp [topologicalOrder, ho] at he
  · rintro ⟨x, hx⟩
    obtain ⟨c, _, hc, _⟩ := exists_orderOrCycle_error h fun hacyclic => hacyclic x hx
    exact ⟨c, by simp [topologicalOrder, hc]⟩
  · intro e he hno hacyclic'
    have hback : ReflTransGen (AddPair g.Effective e.source e.target) e.target e.source :=
      ReflTransGen.mono (fun _ _ hxy => Or.inl hxy) _ _ (effective_leads_back he hno)
    exact hacyclic' e.source (TransGen.head' (Or.inr ⟨rfl, rfl⟩) hback)
  · obtain ⟨order, ho, hleast⟩ := exists_orderOrCycle_ok h hacyclic
    refine ⟨order, by simp [topologicalOrder, ho], hleast, fun hall e he => ?_⟩
    exact hleast.respects _ (h.source_mem e he) _ (h.target_mem e he) (effective_of_acyclic hall he)

end PluginHost.Graph
