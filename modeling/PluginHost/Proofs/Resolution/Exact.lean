import PluginHost.Proofs.Resolution.Exclusion
import PluginHost.Proofs.Resolution.Survey

/-!
# Resolution is exact

The plugins that a resolution orders are the resolvable ones.

* Nothing resolvable is excluded: a rejected declaration, a cycle and a requirement of an excluded plugin each keep a
  plugin from being resolvable, whichever cycle is found first (`resolving_excludeCycle`).
* Nothing else is left: without cycles the plugins that are left are accessible along what they require, so that they
  are resolvable by induction (`Resolving.resolvable`).
-/

open Relation (TransGen)

namespace PluginHost.Resolution

variable {known : IdMap Container} {graph : Graph} {excluded : IdMap PluginError} {x y : PluginId}

/-! ## The graph of all plugins -/

/-- A required edge of the graph of all plugins is a required declaration that is accepted. -/
theorem requires_survey_iff : (survey known).graph.Requires x y ↔
    ∃ d, Declares known.find? x d ∧ d.id = y ∧ Accepted known.find? d ∧ d.required = true := by
  rw [Graph.Requires, (surveyed_survey known).required]
  simp only [Has, mem_declarations, RequiredLink, Link, and_assoc]

/-- An edge of the graph of all plugins is an accepted declaration, required if one that is accepted is. -/
theorem mem_edges_survey_iff {required : Bool} : (⟨x, y, required⟩ : Edge) ∈ (survey known).graph.edges ↔
    (∃ d, Declares known.find? x d ∧ d.id = y ∧ Accepted known.find? d) ∧
    (required = true ↔ ∃ d, Declares known.find? x d ∧ d.id = y ∧ Accepted known.find? d ∧ d.required = true) := by
  cases required with
  | true =>
    have h : (survey known).graph.Requires x y ↔ _ := requires_survey_iff
    simp only [true_iff]
    constructor
    · intro he
      obtain ⟨d, hd, hid, ha, hr⟩ := h.mp he
      exact ⟨⟨d, hd, hid, ha⟩, d, hd, hid, ha, hr⟩
    · exact fun he => h.mpr he.2
  | false =>
    rw [(surveyed_survey known).optional]
    simp only [Has, mem_declarations, RequiredLink, Link, and_assoc, Bool.false_eq_true, false_iff]

theorem follows_survey : Follows known.find? (survey known).graph.Requires := by
  intro x y hxy
  obtain ⟨d, hd, hid, _, hr⟩ := requires_survey_iff.mp hxy
  exact ⟨d, hd, hr, hid⟩

theorem mem_nodes_survey_iff : x ∈ (survey known).graph.nodes ↔ ∃ c, known.find? x = some c := by
  rw [(surveyed_survey known).nodes, IdMap.mem_keys_iff]

/-- A plugin with a cause of its own is not resolvable. -/
theorem not_resolvable_of_mem_causes (hx : x ∈ (survey known).causes.keys) : ¬Resolvable known.find? x := by
  obtain ⟨d, hd, hr, hno⟩ := ((surveyed_survey known).causes x).mp hx
  exact fun h => hno (h.accepted_of_declares (mem_declarations.mp hd) hr)

/-! ## The rounds -/

/-- What holds between two rounds of a resolution. -/
structure Resolving (known : IdMap Container) (graph : Graph) (excluded : IdMap PluginError) : Prop
    extends Peeling (Resolvable known.find?) (survey known).graph graph excluded where
  causes : ∀ x ∈ (survey known).causes.keys, x ∈ excluded.keys

/-- The first round excludes the plugins with a cause of their own. -/
theorem resolving_excludeDependents (known : IdMap Container) :
    Resolving known (excludeDependents (survey known).graph (survey known).causes (survey known).causes.keys).1
      (excludeDependents (survey known).graph (survey known).causes (survey known).causes.keys).2 := by
  have hs := surveyed_survey known
  refine ⟨(peeling_base hs.wellFormed).round (fun x y hxy hx => hx.of_follows follows_survey hxy) (fun x => ?_)
    fun x hx => ⟨?_, not_resolvable_of_mem_causes hx⟩, fun x hx => subset_excludeDependents hx⟩
  · simp
  · obtain ⟨d, hd, _⟩ := (hs.causes x).mp hx
    obtain ⟨c, hc, _⟩ := mem_declarations.mp hd
    exact mem_nodes_survey_iff.mpr ⟨c, hc⟩

/-- Every further round excludes the plugins on a cycle. -/
theorem resolving_excludeCycle {a : PluginId} {mid : List PluginId} (h : Resolving known graph excluded)
    (hcyc : IsCycle graph.Requires (a :: mid ++ [a])) :
    Resolving known (excludeCycle graph excluded (a :: mid)).1 (excludeCycle graph excluded (a :: mid)).2 := by
  have hon : ∀ x ∈ a :: mid, TransGen (survey known).graph.Requires x x := by
    intro x hx
    obtain ⟨b, mid', he, _, hchain⟩ := hcyc
    exact TransGen.mono (fun _ _ hxy => (h.requires_iff.mp hxy).1) _ _ (transGen_self_of_closed hchain hx)
  refine ⟨h.round (fun x y hxy hx => hx.of_follows follows_survey hxy) (fun x => mem_keys_blameCycle)
    fun x hx => ⟨?_, not_resolvable_of_cycle follows_survey (hon x hx)⟩,
    fun x hx => subset_excludeDependents (mem_keys_blameCycle.mpr (Or.inr (h.causes x hx)))⟩
  obtain ⟨y, hxy, _⟩ := TransGen.head'_iff.mp (hon x hx)
  exact ((surveyed_survey known).wellFormed.requires_mem hxy).1

/-! ## The last round -/

/-- What a plugin that is left requires is accepted: otherwise it would have a cause of its own. -/
theorem Resolving.accepted_of_declares (h : Resolving known graph excluded) (hx : x ∈ graph.nodes)
    (hd : Declares known.find? x d) (hr : d.required = true) : Accepted known.find? d := by
  by_contra hno
  have hcause : Has (declarations known) x (Rejected known) := ⟨d, mem_declarations.mpr hd, hr, hno⟩
  exact ((h.nodes x).mp hx).2 (h.causes x (((surveyed_survey known).causes x).mpr hcause))

/-- What a plugin that is left requires is required of it in the graph that is left. -/
theorem Resolving.requires_of_declares (h : Resolving known graph excluded) (hx : x ∈ graph.nodes)
    (hd : Declares known.find? x d) (hr : d.required = true) : graph.Requires x d.id :=
  h.requires_iff.mpr
    ⟨requires_survey_iff.mpr ⟨d, hd, rfl, h.accepted_of_declares hx hd hr, hr⟩, ((h.nodes x).mp hx).2⟩

/-- Who is left when there are no cycles any more is resolvable. -/
theorem Resolving.resolvable (h : Resolving known graph excluded) (hacyclic : Acyclic graph.Requires)
    (hx : x ∈ graph.nodes) : Resolvable known.find? x := by
  have hacc := Graph.acc_of_findCycle? h.wellFormed ((Graph.findCycle?_eq_none_iff h.wellFormed).mpr hacyclic) hx
  induction hacc with
  | intro x _ ih =>
    obtain ⟨c, hc⟩ := mem_nodes_survey_iff.mp ((h.nodes x).mp hx).1
    have hdeclares : ∀ d ∈ c.manifest.requiredDependencies, Declares known.find? x d ∧ d.required = true := by
      intro d hd
      obtain ⟨hdc, hr⟩ := mem_requiredDependencies.mp hd
      exact ⟨⟨c, hc, hdc⟩, hr⟩
    refine .intro hc (fun d hd => ?_) fun d hd => ?_
    · obtain ⟨hdc, hr⟩ := hdeclares d hd
      exact h.accepted_of_declares hx hdc hr
    · obtain ⟨hdc, hr⟩ := hdeclares d hd
      have hreq := h.requires_of_declares hx hdc hr
      exact ih d.id hreq (h.wellFormed.requires_mem hreq).2

theorem Resolving.mem_nodes_iff (h : Resolving known graph excluded) (hacyclic : Acyclic graph.Requires) :
    x ∈ graph.nodes ↔ Resolvable known.find? x := by
  constructor
  · exact h.resolvable hacyclic
  · intro hx
    have hbase : x ∈ (survey known).graph.nodes := by
      cases hx with
      | intro found _ _ => exact mem_nodes_survey_iff.mpr ⟨_, found⟩
    exact (h.nodes x).mpr ⟨hbase, fun hk => h.justified x hk hx⟩

/-! ## The resolution -/

/-- A resolution of given plugins as it should be. -/
structure Resolved (given : PluginId → Option Container) (r : Resolution) : Prop where
  wellFormed : r.graph.WellFormed
  order : Graph.LeastOrder r.graph.Effective r.graph.nodes r.order
  nodes : ∀ x, x ∈ r.graph.nodes ↔ Resolvable given x
  excluded : ∀ x, x ∈ r.excluded.keys ↔ (∃ c, given x = some c) ∧ ¬Resolvable given x
  edges : ∀ x y required, (⟨x, y, required⟩ : Edge) ∈ r.graph.edges ↔
    (Resolvable given x ∧ Resolvable given y) ∧
    (∃ d, Declares given x d ∧ d.id = y ∧ Accepted given d) ∧
    (required = true ↔ ∃ d, Declares given x d ∧ d.id = y ∧ Accepted given d ∧ d.required = true)

variable {given : PluginId → Option Container} {r : Resolution}

/-- The order has each resolvable plugin once. -/
theorem Resolved.mem_order_iff (h : Resolved given r) : x ∈ r.order ↔ Resolvable given x :=
  h.order.perm.mem_iff.trans (h.nodes x)

theorem Resolved.nodup_order (h : Resolved given r) : r.order.Nodup :=
  h.order.perm.nodup_iff.mpr h.wellFormed.nodes.nodup

theorem Resolved.given_of_mem_order (h : Resolved given r) (hx : x ∈ r.order) : ∃ c, given x = some c := by
  cases h.mem_order_iff.mp hx with
  | intro found _ _ => exact ⟨_, found⟩

/-- All that a resolvable plugin requires is required of it in the graph. -/
theorem Resolved.requires_iff (h : Resolved given r) : r.graph.Requires x y ↔
    Resolvable given x ∧ ∃ d, Declares given x d ∧ d.required = true ∧ d.id = y := by
  rw [Graph.Requires, h.edges]
  constructor
  · rintro ⟨⟨hx, _⟩, _, hreq⟩
    obtain ⟨d, hd, hid, _, hr⟩ := hreq.mp rfl
    exact ⟨hx, d, hd, hr, hid⟩
  · rintro ⟨hx, d, hd, hr, rfl⟩
    have ha : Accepted given d := hx.accepted_of_declares hd hr
    exact ⟨⟨hx, hx.of_declares hd hr⟩, ⟨d, hd, rfl, ha⟩, fun _ => ⟨d, hd, rfl, ha, hr⟩, fun _ => rfl⟩

/-- The containers of a resolution under their ids. -/
abbrev knownOf (containers : List Container) : IdMap Container := IdMap.ofList (containers.map fun c => (c.id, c))

theorem find?_knownOf (containers : List Container) : (knownOf containers).find? = latest? containers :=
  funext (find?_ofList_containers containers)

/-- What holds after the first round and is kept by every further one holds of a resolution, and what is left has no
cycle and is ordered. -/
theorem ofContainers_induction {I : Graph → IdMap PluginError → Prop} (containers : List Container)
    (hwf : ∀ graph excluded, I graph excluded → graph.WellFormed)
    (hfirst : let s := survey (knownOf containers)
      I (excludeDependents s.graph s.causes s.causes.keys).1 (excludeDependents s.graph s.causes s.causes.keys).2)
    (hround : ∀ graph excluded a mid, I graph excluded → graph.findCycle? = some (a :: mid ++ [a]) →
      IsCycle graph.Requires (a :: mid ++ [a]) →
      I (excludeCycle graph excluded (a :: mid)).1 (excludeCycle graph excluded (a :: mid)).2) :
    let r := ofContainers containers
    I r.graph r.excluded ∧ Acyclic r.graph.Requires ∧ Graph.LeastOrder r.graph.Effective r.graph.nodes r.order := by
  simp only [ofContainers]
  simp only [knownOf] at hfirst
  generalize IdMap.ofList (containers.map fun c => (c.id, c)) = known at hfirst
  generalize excludeDependents (survey known).graph (survey known).causes (survey known).causes.keys = first at hfirst
  obtain ⟨order, graph, excluded, hpeel, h⟩ :=
    peel_induction hwf hround (first.1.size + 1) hfirst (Nat.lt_succ_self _)
  rw [hpeel]
  exact h

theorem resolving_ofContainers (containers : List Container) :
    let r := ofContainers containers
    Resolving (knownOf containers) r.graph r.excluded ∧ Acyclic r.graph.Requires ∧
      Graph.LeastOrder r.graph.Effective r.graph.nodes r.order :=
  ofContainers_induction containers (fun _ _ h => h.wellFormed) (resolving_excludeDependents _)
    fun _ _ _ _ h _ hcyc => resolving_excludeCycle h hcyc

theorem resolved_ofContainers (containers : List Container) :
    Resolved (latest? containers) (ofContainers containers) := by
  obtain ⟨h, hacyclic, hleast⟩ := resolving_ofContainers containers
  rw [← find?_knownOf]
  generalize ofContainers containers = r at h hacyclic hleast
  generalize knownOf containers = known at h
  have hnodes : ∀ x, x ∈ r.graph.nodes ↔ Resolvable known.find? x := fun x => h.mem_nodes_iff hacyclic
  refine ⟨h.wellFormed, hleast, hnodes, fun x => ?_, fun x y required => ?_⟩
  · rw [← mem_nodes_survey_iff, ← hnodes, h.nodes]
    constructor
    · exact fun hx => ⟨h.within x hx, fun hno => hno.2 hx⟩
    · rintro ⟨hbase, hno⟩
      by_contra hx
      exact hno ⟨hbase, hx⟩
  · rw [h.edges, ← mem_edges_survey_iff, ← hnodes, ← hnodes, h.nodes, h.nodes]
    constructor
    · rintro ⟨he, hx, hy⟩
      have hwf := (surveyed_survey known).wellFormed
      exact ⟨⟨⟨hwf.source_mem _ he, hx⟩, hwf.target_mem _ he, hy⟩, he⟩
    · rintro ⟨⟨⟨_, hx⟩, _, hy⟩, he⟩
      exact ⟨he, hx, hy⟩

/-- The order of a resolution has each resolvable plugin once, the other given plugins are excluded, and the graph of
the resolution has the resolvable plugins as nodes and their accepted declarations among each other as edges, required
where one of them is. -/
theorem ofContainers_exact (containers : List Container) :
    let given := latest? containers
    let r := ofContainers containers
    r.order.Nodup ∧ (∀ x, x ∈ r.order ↔ Resolvable given x) ∧
    (∀ x, x ∈ r.excluded.keys ↔ (∃ c, given x = some c) ∧ ¬Resolvable given x) ∧
    (∀ x, x ∈ r.graph.nodes ↔ Resolvable given x) ∧ r.graph.edges.Nodup ∧
    ∀ x y required, (⟨x, y, required⟩ : Edge) ∈ r.graph.edges ↔
      (Resolvable given x ∧ Resolvable given y) ∧
      (∃ d, Declares given x d ∧ d.id = y ∧ Accepted given d) ∧
      (required = true ↔ ∃ d, Declares given x d ∧ d.id = y ∧ Accepted given d ∧ d.required = true) := by
  have h := resolved_ofContainers containers
  exact ⟨h.nodup_order, fun x => h.mem_order_iff, h.excluded, h.nodes, h.wellFormed.edges.nodup, h.edges⟩

end PluginHost.Resolution
