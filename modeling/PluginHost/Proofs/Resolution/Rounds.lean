import Mathlib.Data.List.Dedup
import PluginHost.Proofs.Graph.Counting
import PluginHost.Proofs.Resolution.Explanation

/-!
# The rounds of a resolution

Cycles are excluded in rounds, until the graph that is left has an order. `After` tells what is left after some rounds,
with no bound on their number.

* `ofContainers_rounds`: every round takes the members of its cycle and all that leads to them out of the graph, so that
  there are no more rounds than plugins; the last graph is that of the resolution.
* `safeOrder_rounds`: no order is looked for that would not be found safely, and what a round takes for a cycle is one.
-/

open Relation (TransGen ReflTransGen)

namespace PluginHost.Resolution

variable {containers : List Container} {known : IdMap Container} {graph : Graph} {excluded : IdMap PluginError}
  {path : List PluginId} {n : Nat} {x y : PluginId} {d : Dependency}

/-- The graph that is left, and who is excluded, before the first round. -/
def beforeRounds (containers : List Container) : Graph × IdMap PluginError :=
  let s := survey (knownOf containers)
  excludeDependents s.graph s.causes s.causes.keys

/-- The graph that is left, and who is excluded, after a number of rounds, in each of which a cycle was told. -/
inductive After (containers : List Container) : Nat → Graph → IdMap PluginError → Prop
  | start : After containers 0 (beforeRounds containers).1 (beforeRounds containers).2
  | round {n : Nat} {graph : Graph} {excluded : IdMap PluginError} {path : List PluginId}
      (before : After containers n graph excluded) (told : graph.orderOrCycle = .error path) :
      After containers (n + 1) (excludeCycle graph excluded (cycleMembers path)).1
        (excludeCycle graph excluded (cycleMembers path)).2

/-- What a round does with the members of its cycle. -/
structure Advances (members : List PluginId) (graph : Graph) (excluded : IdMap PluginError) (graph' : Graph)
    (excluded' : IdMap PluginError) : Prop where
  nonempty : members ≠ []
  /-- The members are nodes, and have no cause yet. -/
  live : ∀ x ∈ members, x ∈ graph.nodes ∧ x ∉ excluded.keys
  removed : ∀ x ∈ members, x ∉ graph'.nodes
  /-- With a node, all that leads to it along required edges is taken out. -/
  closed : ∀ x y, y ∈ graph.nodes → y ∉ graph'.nodes → ReflTransGen graph.Requires x y → x ∉ graph'.nodes
  /-- Every cause that is told stays as it is. -/
  keeps : excluded.Extends excluded'
  shrinks : graph'.size + members.length ≤ graph.size

/-! ## One round -/

/-- Taking distinct nodes out makes a graph smaller by as many. -/
theorem size_removeNodes_add_le {ids members : List PluginId} (hn : members.Nodup)
    (hmembers : ∀ x ∈ members, x ∈ graph.nodes) (hids : ∀ x ∈ members, x ∈ ids) :
    (graph.removeNodes ids).size + members.length ≤ graph.size := by
  have hlength := List.length_eq_length_filter_add (l := graph.nodes) (· ∉ ids)
  have hsubperm : members.Subperm (graph.nodes.filter fun x => !decide (x ∉ ids)) :=
    List.subperm_of_subset hn fun x hx => by simpa using ⟨hmembers x hx, hids x hx⟩
  have hle := hsubperm.length_le
  rw [Graph.size, Graph.nodes_removeNodes, Graph.size]
  omega

/-- A round takes the members of its cycle out of the graph, and all that leads to them. -/
theorem Resolving.advances {a : PluginId} {mid : List PluginId} (h : Resolving known graph excluded)
    (hcyc : IsCycle graph.Requires (a :: mid ++ [a])) :
    Advances (a :: mid) graph excluded (excludeCycle graph excluded (a :: mid)).1
      (excludeCycle graph excluded (a :: mid)).2 := by
  have he := h.excluded_excludeCycle (a :: mid)
  have hmember : ∀ x ∈ a :: mid, x ∈ graph.nodes := by
    intro x hx
    obtain ⟨y, hxy, _⟩ := TransGen.head'_iff.mp (transGen_self_of_closed (isCycle_closed_iff.mp hcyc).2 hx)
    exact (h.wellFormed.requires_mem hxy).1
  have hnew : ∀ x ∈ a :: mid, x ∉ excluded.keys := fun x hx => h.left_of_cycle hcyc hx
  have hout : ∀ x ∈ a :: mid, x ∈ (excludeCycle graph excluded (a :: mid)).2.keys := fun x hx =>
    he.keeps x (mem_keys_blameCycle.mpr (Or.inl hx))
  have hleft : ∀ x, x ∈ (excludeCycle graph excluded (a :: mid)).1.nodes ↔
      x ∈ graph.nodes ∧ x ∉ (excludeCycle graph excluded (a :: mid)).2.keys := by
    intro x
    rw [he.graph_eq, Graph.mem_nodes_removeNodes]
  refine ⟨by simp, fun x hx => ⟨hmember x hx, hnew x hx⟩, fun x hx hmem => ((hleft x).mp hmem).2 (hout x hx),
    ?closed, ?keeps, ?shrinks⟩
  case closed =>
    intro x y hy hgone hxy
    have hyout : y ∈ (excludeCycle graph excluded (a :: mid)).2.keys :=
      by_contra fun hno => hgone ((hleft y).mpr ⟨hy, hno⟩)
    have hxout : x ∈ (excludeCycle graph excluded (a :: mid)).2.keys := by
      induction hxy using ReflTransGen.head_induction_on with
      | refl => exact hyout
      | head hxz _ ih => exact he.closed _ _ hxz ih
    exact fun hmem => ((hleft x).mp hmem).2 hxout
  case keeps =>
    intro x e hx
    have hblamed := extends_blameCycle hnew x e hx
    rwa [excludeCycle, find?_excludeDependents_of_mem (IdMap.mem_keys_iff.mpr ⟨e, hblamed⟩)]
  case shrinks =>
    rw [he.graph_eq]
    exact size_removeNodes_add_le (isCycle_closed_iff.mp hcyc).1 hmember hout

/-! ## All rounds -/

/-- What is told of a graph between two rounds is a cycle, whose members are the ids of the path but the last. -/
theorem Resolving.exists_cycle (h : Resolving known graph excluded) (he : graph.orderOrCycle = .error path) :
    ∃ a mid, path = a :: mid ++ [a] ∧ IsCycle graph.Requires path ∧ cycleMembers path = a :: mid := by
  obtain ⟨_, hcyc, _⟩ := h.wellFormed.safeOrder.error path he
  obtain ⟨a, mid, rfl, hrest⟩ := hcyc
  exact ⟨a, mid, rfl, ⟨a, mid, rfl, hrest⟩, cycleMembers_closed a mid⟩

theorem Resolving.advances_of_told (h : Resolving known graph excluded) (he : graph.orderOrCycle = .error path) :
    Advances (cycleMembers path) graph excluded (excludeCycle graph excluded (cycleMembers path)).1
      (excludeCycle graph excluded (cycleMembers path)).2 := by
  obtain ⟨a, mid, rfl, hcyc, hmembers⟩ := h.exists_cycle he
  rw [hmembers]
  exact h.advances hcyc

namespace After

/-- Every round keeps what holds of a resolution that is under way. -/
theorem resolving (h : After containers n graph excluded) : Resolving (knownOf containers) graph excluded := by
  induction h with
  | start => exact resolving_excludeDependents _
  | round _ told ih =>
    obtain ⟨a, mid, rfl, hcyc, hmembers⟩ := ih.exists_cycle told
    rw [hmembers]
    exact resolving_excludeCycle ih hcyc

/-- Every round costs a node at least. -/
theorem add_size_le (h : After containers n graph excluded) :
    n + graph.size ≤ (survey (knownOf containers)).graph.size := by
  induction h with
  | start =>
    rw [beforeRounds, excludeDependents, Graph.size, Graph.size, Graph.nodes_removeNodes, Nat.zero_add]
    exact List.length_filter_le _ _
  | @round n graph excluded path before told ih =>
    have hadvance := before.resolving.advances_of_told told
    have hpos := List.length_pos_iff.mpr hadvance.nonempty
    have hshrinks := hadvance.shrinks
    omega

/-- There are enough rounds for peeling: it ends with a graph that has an order, after as many rounds as it takes. -/
theorem exists_peel : ∀ (room : Nat) {n : Nat} {graph : Graph} {excluded : IdMap PluginError},
    After containers n graph excluded → graph.size < room →
      ∃ n' order graph' excluded', After containers n' graph' excluded' ∧ graph'.orderOrCycle = .ok order ∧
        peel room graph excluded = (order, graph', excluded')
  | 0, _, _, _, _, hroom => absurd hroom (Nat.not_lt_zero _)
  | room + 1, n, graph, excluded, h, hroom => by
    cases ho : graph.orderOrCycle with
    | ok order => exact ⟨n, order, graph, excluded, h, ho, by simp only [peel, ho]⟩
    | error path =>
      have hadvance := h.resolving.advances_of_told ho
      have hpos := List.length_pos_iff.mpr hadvance.nonempty
      have hshrinks := hadvance.shrinks
      obtain ⟨n', order, graph', excluded', h', ho', hpeel⟩ := exists_peel room (h.round ho) (by omega)
      refine ⟨n', order, graph', excluded', h', ho', ?_⟩
      rw [← hpeel]
      simp only [peel, ho]
      rfl

end After

/-- A survey has as many nodes as there are plugins. -/
theorem size_survey (containers : List Container) :
    (survey (knownOf containers)).graph.size = (containers.map (·.id)).dedup.length := by
  refine List.Perm.length_eq ((List.perm_ext_iff_of_nodup (surveyed_survey _).wellFormed.nodes.nodup
    (List.nodup_dedup _)).mpr fun x => ?_)
  rw [mem_nodes_survey_iff, find?_knownOf, exists_latest?_iff, List.mem_dedup, List.mem_map]

/-- In every round the members of a cycle are taken out of the graph, none of which has a cause yet, and with them all
that leads to them; no cause is replaced. So there are no more rounds than plugins. What is left after a round has all
that it requires. The rounds end, with the graph, the order and the causes of the resolution. -/
theorem ofContainers_rounds (containers : List Container) :
    (∀ n graph excluded, After containers n graph excluded →
      n + graph.size ≤ (containers.map (·.id)).dedup.length ∧
      (∀ x ∈ graph.nodes, ∀ d, Declares (latest? containers) x d → d.required = true → graph.Requires x d.id) ∧
      ∀ path, graph.orderOrCycle = .error path →
        Advances (cycleMembers path) graph excluded (excludeCycle graph excluded (cycleMembers path)).1
          (excludeCycle graph excluded (cycleMembers path)).2) ∧
    ∃ n order graph excluded, After containers n graph excluded ∧ graph.orderOrCycle = .ok order ∧
      ofContainers containers =
        { order, excluded, absentOptional := (survey (knownOf containers)).absentOptional, graph } := by
  refine ⟨fun n graph excluded h => ⟨?bound, ?complete, fun path he => h.resolving.advances_of_told he⟩, ?ends⟩
  case bound =>
    rw [← size_survey]
    exact h.add_size_le
  case complete =>
    rw [← find?_knownOf]
    exact fun x hx d hd hr => h.resolving.requires_of_declares hx hd hr
  case ends =>
    have hstart : After containers 0 (beforeRounds containers).1 (beforeRounds containers).2 := .start
    obtain ⟨n, order, graph, excluded, h, ho, hpeel⟩ := hstart.exists_peel _ (Nat.lt_succ_self _)
    refine ⟨n, order, graph, excluded, h, ho, ?_⟩
    rw [beforeRounds] at hpeel
    simp only [ofContainers, hpeel]

/-- Counting never goes wrong, in a graph that is built from nothing and in one that is left between two rounds, and an
error is a cycle of required edges that is told from end to end. So the members of a round are the ids of a cycle. -/
theorem safeOrder_rounds :
    (∀ changes : List Graph.Change, (Graph.build changes).SafeOrder) ∧
    ∀ containers n graph excluded, After containers n graph excluded → graph.SafeOrder ∧
      ∀ path, graph.orderOrCycle = .error path → IsCycle graph.Requires path ∧
        ∃ a, path = cycleMembers path ++ [a] ∧ (cycleMembers path).head? = some a := by
  refine ⟨fun changes => (Graph.wellFormed_build changes).safeOrder, fun containers n graph excluded h => ?_⟩
  refine ⟨h.resolving.wellFormed.safeOrder, fun path he => ?_⟩
  obtain ⟨a, mid, hpath, hcyc, hmembers⟩ := h.resolving.exists_cycle he
  exact ⟨hcyc, a, by rw [hmembers, ← hpath], by rw [hmembers]; rfl⟩

end PluginHost.Resolution
