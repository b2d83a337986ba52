import PluginHost.Proofs.Graph.Order
import PluginHost.Proofs.Resolution.Resolvable

/-!
# Excluding plugins

What one round of exclusion does to the graph and to the plugins that are excluded (`excluded_excludeDependents`), and
that excluding cycles ends with a graph that can be ordered (`peel_induction`): each round drops at least the nodes of
the cycle it found, so there are enough rounds.
-/

open Relation (TransGen)

namespace PluginHost.Resolution

variable {graph : Graph} {excluded : IdMap PluginError} {failed : List PluginId} {id x y : PluginId}

/-- A step from a plugin to one that requires it and is not excluded yet. -/
abbrev Spreads (graph : Graph) (excluded : IdMap PluginError) : PluginId → PluginId → Prop :=
  SpreadStep graph.requires (graph.nodes.filter fun id => !excluded.contains id)

theorem spreads_iff : Spreads graph excluded x y ↔ (y ∈ graph.nodes ∧ y ∉ excluded.keys) ∧ graph.Requires y x := by
  simp only [Spreads, SpreadStep, List.mem_filter, Graph.requires, Graph.Requires, decide_eq_true_eq, Bool.not_eq_true',
    ← IdMap.contains_iff, Bool.not_eq_true]

/-- Who is excluded before a round is so after it. -/
theorem subset_excludeDependents (h : x ∈ excluded.keys) : x ∈ (excludeDependents graph excluded failed).2.keys :=
  (IdMap.mem_keys_foldl_insert _ _).mpr (Or.inr h)

/-- What one round of exclusion does. -/
structure Excluded (graph : Graph) (excluded : IdMap PluginError) (failed : List PluginId)
    (graph' : Graph) (excluded' : IdMap PluginError) : Prop where
  keeps : ∀ x ∈ excluded.keys, x ∈ excluded'.keys
  /-- Who is excluded was so before, or a path of requirements leads from there to one that failed. -/
  reason : ∀ x ∈ excluded'.keys, x ∈ excluded.keys ∨ ∃ q ∈ failed, TransGen (Spreads graph excluded) q x
  /-- Who requires an excluded plugin is excluded. -/
  closed : ∀ x y, graph.Requires x y → y ∈ excluded'.keys → x ∈ excluded'.keys
  graph_eq : graph' = graph.removeNodes excluded'.keys

/-- A round of exclusion, when every node that is excluded already is among those that failed. -/
theorem excluded_excludeDependents (h : graph.WellFormed)
    (hfailed : ∀ x ∈ graph.nodes, x ∈ excluded.keys → x ∈ failed) :
    Excluded graph excluded failed (excludeDependents graph excluded failed).1
      (excludeDependents graph excluded failed).2 := by
  have hkeys : ∀ x, x ∈ (excludeDependents graph excluded failed).2.keys ↔
      (∃ q ∈ failed, TransGen (Spreads graph excluded) q x) ∨ x ∈ excluded.keys := by
    intro x
    simp only [excludeDependents]
    rw [IdMap.mem_keys_foldl_insert, mem_spread_iff]
  refine ⟨fun x hx => (hkeys x).mpr (Or.inr hx), fun x hx => ((hkeys x).mp hx).symm, ?_, rfl⟩
  intro x y hxy hy
  by_cases hx : x ∈ excluded.keys
  · exact (hkeys x).mpr (Or.inr hx)
  · have hnodes := h.requires_mem hxy
    have hstep : Spreads graph excluded y x := spreads_iff.mpr ⟨⟨hnodes.1, hx⟩, hxy⟩
    refine (hkeys x).mpr (Or.inl ?_)
    rcases (hkeys y).mp hy with ⟨q, hq, hpath⟩ | hy
    · exact ⟨q, hq, hpath.tail hstep⟩
    · exact ⟨y, hfailed y hnodes.2 hy, .single hstep⟩

/-! ## Cycles -/

/-- The members of a closed path are its ids up to the repeated one. -/
theorem cycleMembers_closed (a : PluginId) (mid : List PluginId) : cycleMembers (a :: mid ++ [a]) = a :: mid := by
  cases mid with
  | nil => simp [cycleMembers]
  | cons b mid =>
    have hlast : (b :: (mid ++ [a])).getLast? = some a := by
      rw [← List.cons_append]
      exact List.getLast?_concat
    have hdrop : (b :: (mid ++ [a])).dropLast = b :: mid := by
      rw [← List.cons_append]
      exact List.dropLast_concat
    simp [cycleMembers, hlast, hdrop]

theorem map_fst_rotations : ∀ (members before : List PluginId), (rotations before members).map Prod.fst = members
  | [], _ => rfl
  | m :: members, before => by
    rw [rotations, List.map_cons, map_fst_rotations members]

/-- The plugins that are excluded once a cycle was found. -/
def blameCycle (excluded : IdMap PluginError) (members : List PluginId) : IdMap PluginError :=
  (rotations [] members).foldl (fun m p => m.insert p.1 (.cycleDetected p.2)) excluded

theorem mem_keys_blameCycle {members : List PluginId} :
    x ∈ (blameCycle excluded members).keys ↔ x ∈ members ∨ x ∈ excluded.keys := by
  rw [blameCycle, IdMap.mem_keys_foldl_insert, map_fst_rotations]

/-! ## Rounds -/

/-- The round in which a cycle and what requires it are excluded. -/
def excludeCycle (graph : Graph) (excluded : IdMap PluginError) (members : List PluginId) :
    Graph × IdMap PluginError :=
  excludeDependents graph (blameCycle excluded members) members

theorem size_excludeCycle_lt {members : List PluginId} (hx : x ∈ graph.nodes) (hm : x ∈ members) :
    (excludeCycle graph excluded members).1.size < graph.size := by
  refine Graph.size_removeNodes_lt hx ?_
  rw [IdMap.mem_keys_foldl_insert, mem_keys_blameCycle]
  exact Or.inr (Or.inl hm)

theorem peel_of_acyclic (h : graph.WellFormed) (hacyclic : Acyclic graph.Requires) (n : Nat) :
    ∃ order, peel (n + 1) graph excluded = (order, graph, excluded) ∧
      Graph.LeastOrder graph.Effective graph.nodes order := by
  obtain ⟨order, ho, hleast⟩ := Graph.exists_orderOrCycle_ok h hacyclic
  exact ⟨order, by simp only [peel, ho], hleast⟩

theorem peel_of_cycle (h : graph.WellFormed) (hcycle : ¬Acyclic graph.Requires) (n : Nat)
    (excluded : IdMap PluginError) :
    ∃ a mid, graph.findCycle? = some (a :: mid ++ [a]) ∧ IsCycle graph.Requires (a :: mid ++ [a]) ∧
      peel (n + 1) graph excluded =
        peel n (excludeCycle graph excluded (a :: mid)).1 (excludeCycle graph excluded (a :: mid)).2 := by
  obtain ⟨c, hc, ho, hcyc⟩ := Graph.exists_orderOrCycle_error h hcycle
  obtain ⟨a, mid, rfl, hrest⟩ := hcyc
  refine ⟨a, mid, hc, ⟨a, mid, rfl, hrest⟩, ?_⟩
  simp only [peel, ho, cycleMembers_closed]
  rfl

/-- What every round keeps holds in the end, and there are enough rounds: what is left has no cycle and is ordered. -/
theorem peel_induction {I : Graph → IdMap PluginError → Prop}
    (hwf : ∀ graph excluded, I graph excluded → graph.WellFormed)
    (hround : ∀ graph excluded a mid, I graph excluded → graph.findCycle? = some (a :: mid ++ [a]) →
      IsCycle graph.Requires (a :: mid ++ [a]) →
      I (excludeCycle graph excluded (a :: mid)).1 (excludeCycle graph excluded (a :: mid)).2) :
    ∀ (n : Nat) {graph : Graph} {excluded : IdMap PluginError}, I graph excluded → graph.size < n →
      ∃ order graph' excluded', peel n graph excluded = (order, graph', excluded') ∧ I graph' excluded' ∧
        Acyclic graph'.Requires ∧ Graph.LeastOrder graph'.Effective graph'.nodes order
  | 0, _, _, _, hn => absurd hn (Nat.not_lt_zero _)
  | n + 1, graph, excluded, hI, hn => by
    by_cases hacyclic : Acyclic graph.Requires
    · obtain ⟨order, ho, hleast⟩ := peel_of_acyclic (hwf _ _ hI) hacyclic n
      exact ⟨order, graph, excluded, ho, hI, hacyclic, hleast⟩
    · obtain ⟨a, mid, hfound, hcyc, hpeel⟩ := peel_of_cycle (hwf _ _ hI) hacyclic n excluded
      have hsize : (excludeCycle graph excluded (a :: mid)).1.size < n := by
        obtain ⟨_, _, _, _, hchain⟩ := hcyc
        have ha : a ∈ graph.nodes := by
          obtain ⟨y, hay, _⟩ := TransGen.head'_iff.mp (transGen_self_of_closed hchain List.mem_cons_self)
          exact ((hwf _ _ hI).requires_mem hay).1
        have hlt : (excludeCycle graph excluded (a :: mid)).1.size < graph.size :=
          size_excludeCycle_lt ha List.mem_cons_self
        omega
      obtain ⟨order, graph', excluded', ho, hrest⟩ :=
        peel_induction hwf hround n (hround graph excluded a mid hI hfound hcyc) hsize
      exact ⟨order, graph', excluded', hpeel.trans ho, hrest⟩

/-! ## The invariant of the rounds -/

/-- What holds between two rounds, seen from the graph of all plugins: the graph that is left is that of the plugins
that are not excluded, who requires an excluded plugin is excluded, and an excluded plugin has not the property `P`
of the plugins that are to stay. -/
structure Peeling (P : PluginId → Prop) (base graph : Graph) (excluded : IdMap PluginError) : Prop where
  wellFormed : graph.WellFormed
  nodes : ∀ id, id ∈ graph.nodes ↔ id ∈ base.nodes ∧ id ∉ excluded.keys
  edges : ∀ e, e ∈ graph.edges ↔ e ∈ base.edges ∧ e.source ∉ excluded.keys ∧ e.target ∉ excluded.keys
  closed : ∀ x y, base.Requires x y → y ∈ excluded.keys → x ∈ excluded.keys
  within : ∀ x ∈ excluded.keys, x ∈ base.nodes
  justified : ∀ x ∈ excluded.keys, ¬P x

variable {P : PluginId → Prop} {base : Graph}

theorem peeling_base (h : base.WellFormed) : Peeling P base base .empty := by
  have hnone : ∀ x, x ∉ (IdMap.empty : IdMap PluginError).keys := fun _ => IdMap.not_mem_keys_empty
  exact ⟨h, fun x => by simp [hnone], fun e => by simp [hnone], fun x y _ hy => absurd hy (hnone y),
    fun x hx => absurd hx (hnone x), fun x hx => absurd hx (hnone x)⟩

namespace Peeling

theorem requires_iff (h : Peeling P base graph excluded) :
    graph.Requires x y ↔ base.Requires x y ∧ x ∉ excluded.keys := by
  constructor
  · intro hxy
    obtain ⟨hbase, hx, _⟩ := (h.edges _).mp hxy
    exact ⟨hbase, hx⟩
  · rintro ⟨hbase, hx⟩
    exact (h.edges _).mpr ⟨hbase, hx, fun hy => hx (h.closed x y hbase hy)⟩

/-- The round of a cycle excludes as it should, since no node that is left had a cause before. -/
theorem excluded_excludeCycle (h : Peeling P base graph excluded) (members : List PluginId) :
    Excluded graph (blameCycle excluded members) members (excludeCycle graph excluded members).1
      (excludeCycle graph excluded members).2 :=
  excluded_excludeDependents h.wellFormed fun x hx hb =>
    (mem_keys_blameCycle.mp hb).resolve_right ((h.nodes x).mp hx).2

/-- A round keeps the invariant, when those that failed are not to stay. -/
theorem round (h : Peeling P base graph excluded) (hP : ∀ x y, base.Requires x y → P x → P y)
    {blamed : IdMap PluginError} (hblamed : ∀ x, x ∈ blamed.keys ↔ x ∈ failed ∨ x ∈ excluded.keys)
    (hfailed : ∀ x ∈ failed, x ∈ base.nodes ∧ ¬P x) :
    Peeling P base (excludeDependents graph blamed failed).1 (excludeDependents graph blamed failed).2 := by
  have he : Excluded graph blamed failed _ _ := excluded_excludeDependents h.wellFormed fun x hx hb =>
    ((hblamed x).mp hb).resolve_right ((h.nodes x).mp hx).2
  generalize excludeDependents graph blamed failed = next at he
  obtain ⟨graph', excluded'⟩ := next
  have hkeeps : ∀ x ∈ excluded.keys, x ∈ excluded'.keys := fun x hx => he.keeps x ((hblamed x).mpr (Or.inr hx))
  have hreq : ∀ x y, graph.Requires x y → base.Requires x y := fun x y hxy => (h.requires_iff.mp hxy).1
  refine ⟨?_, fun x => ?_, fun e => ?_, fun x y hxy hy => ?_, fun x hx => ?_, fun x hx => ?_⟩
  · rw [he.graph_eq]
    exact h.wellFormed.removeNodes _
  · rw [he.graph_eq, Graph.mem_nodes_removeNodes, h.nodes]
    exact ⟨fun hx => ⟨hx.1.1, hx.2⟩, fun hx => ⟨⟨hx.1, fun hk => hx.2 (hkeeps x hk)⟩, hx.2⟩⟩
  · rw [he.graph_eq, Graph.mem_edges_removeNodes, h.edges]
    constructor
    · rintro ⟨⟨hb, _, _⟩, hs, ht⟩
      exact ⟨hb, hs, ht⟩
    · rintro ⟨hb, hs, ht⟩
      exact ⟨⟨hb, fun hk => hs (hkeeps _ hk), fun hk => ht (hkeeps _ hk)⟩, hs, ht⟩
  · by_cases hx : x ∈ excluded.keys
    · exact hkeeps x hx
    · exact he.closed x y (h.requires_iff.mpr ⟨hxy, hx⟩) hy
  · rcases he.reason x hx with hx | ⟨q, _, hpath⟩
    · rcases (hblamed x).mp hx with hx | hx
      · exact (hfailed x hx).1
      · exact h.within x hx
    · obtain ⟨y, _, hyx⟩ := TransGen.tail'_iff.mp hpath
      exact ((h.nodes x).mp (spreads_iff.mp hyx).1.1).1
  · rcases he.reason x hx with hx | ⟨q, hq, hpath⟩
    · rcases (hblamed x).mp hx with hx | hx
      · exact (hfailed x hx).2
      · exact h.justified x hx
    · -- Along the path from the plugin that failed nobody is to stay.
      have hstep : ∀ y z, Spreads graph blamed y z → ¬P y → ¬P z := fun y z hyz hy hz =>
        hy (hP z y (hreq z y (spreads_iff.mp hyz).2) hz)
      clear hx
      induction hpath with
      | single hqx => exact hstep _ _ hqx (hfailed q hq).2
      | tail _ hyx ih => exact hstep _ _ hyx ih

end Peeling

end PluginHost.Resolution
