import PluginHost.Proofs.Graph.Removal
import PluginHost.Proofs.Resolution.Strict

/-!
# Leaving plugins out

Plugins that are kept with all that they require are resolved as they were: the graph of the kept plugins is the part
of the graph that is between them (`Resolved.mem_edges_of_keeps`). The plugins of an order are kept in this way, so that
strict resolution of them succeeds, with the order and the graph that they came from (`strict_survivors`).
-/

namespace PluginHost.Resolution

variable {given given' : PluginId → Option Container} {P : PluginId → Prop} {r r' : Resolution} {x y : PluginId}
  {d : Dependency}

/-! ## Kept plugins -/

/-- Those of the given plugins that are kept, with all that they require. -/
structure Keeps (given : PluginId → Option Container) (P : PluginId → Prop) (given' : PluginId → Option Container) :
    Prop where
  given_iff : ∀ x c, given' x = some c ↔ P x ∧ given x = some c
  closed : ∀ x d, P x → Declares given x d → d.required = true → P d.id

namespace Keeps

theorem declares_iff (h : Keeps given P given') : Declares given' x d ↔ P x ∧ Declares given x d := by
  simp only [Declares, h.given_iff, and_assoc, exists_and_left]

theorem accepted_iff (h : Keeps given P given') : Accepted given' d ↔ P d.id ∧ Accepted given d := by
  simp only [Accepted, h.given_iff, and_assoc, exists_and_left]

/-- What kept plugins declare of each other is the same. -/
theorem exists_link_iff (h : Keeps given P given') (hx : P x) (hy : P y) (Q : Dependency → Prop) :
    (∃ d, Declares given' x d ∧ d.id = y ∧ Accepted given' d ∧ Q d) ↔
      ∃ d, Declares given x d ∧ d.id = y ∧ Accepted given d ∧ Q d := by
  refine exists_congr fun d => and_congr (h.declares_iff.trans (and_iff_right hx)) (and_congr_right fun hd => ?_)
  exact and_congr_left' (h.accepted_iff.trans (and_iff_right (hd ▸ hy)))

/-- Whether a kept plugin is resolvable does not depend on those that are left out. -/
theorem resolvable_iff (h : Keeps given P given') : Resolvable given' x ↔ P x ∧ Resolvable given x := by
  constructor
  · intro hr
    induction hr with
    | @intro x c found accepted _ ih =>
      obtain ⟨hx, hc⟩ := (h.given_iff x c).mp found
      exact ⟨hx, .intro hc (fun d hd => (h.accepted_iff.mp (accepted d hd)).2) fun d hd => (ih d hd).2⟩
  · rintro ⟨hx, hr⟩
    -- What a kept plugin requires is kept, so the induction stays among the kept ones.
    induction hr with
    | @intro x c found accepted _ ih =>
      have hkept : ∀ d ∈ c.manifest.requiredDependencies, P d.id := fun d hd =>
        h.closed x d hx ⟨c, found, (mem_requiredDependencies.mp hd).1⟩ (mem_requiredDependencies.mp hd).2
      exact .intro ((h.given_iff x c).mpr ⟨hx, found⟩)
        (fun d hd => h.accepted_iff.mpr ⟨hkept d hd, accepted d hd⟩) fun d hd => ih d hd (hkept d hd)

end Keeps

theorem Resolved.mem_nodes_of_keeps (h : Resolved given r) (h' : Resolved given' r') (hk : Keeps given P given') :
    x ∈ r'.graph.nodes ↔ P x ∧ x ∈ r.graph.nodes := by
  rw [h'.nodes, h.nodes, hk.resolvable_iff]

/-- The edges of the kept plugins are those between them. -/
theorem Resolved.mem_edges_of_keeps {required : Bool} (h : Resolved given r) (h' : Resolved given' r')
    (hk : Keeps given P given') :
    (⟨x, y, required⟩ : Edge) ∈ r'.graph.edges ↔ (P x ∧ P y) ∧ (⟨x, y, required⟩ : Edge) ∈ r.graph.edges := by
  rw [h'.edges, h.edges, hk.resolvable_iff, hk.resolvable_iff]
  by_cases hxy : P x ∧ P y
  · have hlink := hk.exists_link_iff hxy.1 hxy.2 fun _ => True
    have hrequired := hk.exists_link_iff hxy.1 hxy.2 fun d => d.required = true
    simp only [and_true] at hlink
    rw [hlink, hrequired]
    simp only [hxy, true_and, and_self]
  · -- An edge at a plugin that is left out is on neither side.
    exact iff_of_false (fun he => hxy ⟨he.1.1.1, he.1.2.1⟩) fun he => hxy he.1

/-! ## The plugins of an order -/

theorem latest?_filter (containers : List Container) (P : PluginId → Prop) [DecidablePred P] (x : PluginId)
    (c : Container) : latest? (containers.filter (P ·.id)) x = some c ↔ P x ∧ latest? containers x = some c := by
  have hsame : ∀ c : Container, P c.id ∧ c.id = x ↔ P x ∧ c.id = x := fun c => and_congr_left fun hc => by rw [hc]
  simp only [latest?, ← List.filter_reverse, List.find?_filter, decide_eq_true_eq, hsame]
  by_cases hx : P x
  · simp only [hx, true_and]
  · have hnone : containers.reverse.find? (fun _ => false) = none := List.find?_eq_none.mpr (by simp)
    simp [hx, hnone]

/-- The plugins of an order are kept with all that they require. -/
theorem keeps_order (containers : List Container) : Keeps (latest? containers) (· ∈ (ofContainers containers).order)
    (latest? (containers.filter (·.id ∈ (ofContainers containers).order))) where
  given_iff := latest?_filter containers (· ∈ (ofContainers containers).order)
  closed x d hx hd hr := by
    have h := resolved_ofContainers containers
    exact h.mem_order_iff.mpr ((h.mem_order_iff.mp hx).of_declares hd hr)

/-- Strict resolution of the plugins that a resolution orders succeeds, with the same order and the same graph. -/
theorem strict_survivors (containers : List Container) :
    let r := ofContainers containers
    ∃ r', strict (containers.filter (·.id ∈ r.order)) = .ok r' ∧ r'.order = r.order ∧ r'.graph = r.graph := by
  intro r
  have h : Resolved (latest? containers) r := resolved_ofContainers containers
  have hk := keeps_order containers
  set survivors := containers.filter (·.id ∈ r.order)
  have h' : Resolved (latest? survivors) (ofContainers survivors) := resolved_ofContainers survivors
  have hgraph : (ofContainers survivors).graph = r.graph := by
    refine h'.wellFormed.eq_of_mem_iff h.wellFormed (fun x => ?_) fun ⟨x, y, required⟩ => ?_
    · rw [h.mem_nodes_of_keeps h' hk, and_iff_right_of_imp]
      exact h.order.perm.mem_iff.mpr
    · rw [h.mem_edges_of_keeps h' hk, and_iff_right_of_imp]
      exact fun he => ⟨h.order.perm.mem_iff.mpr (h.wellFormed.source_mem _ he),
        h.order.perm.mem_iff.mpr (h.wellFormed.target_mem _ he)⟩
  have horder : (ofContainers survivors).order = r.order := by
    have hleast := h'.order
    rw [hgraph] at hleast
    exact hleast.unique h.order
  have hcomplete : (ofContainers survivors).excluded.keys = [] := by
    refine List.eq_nil_iff_forall_not_mem.mpr fun x hx => ?_
    obtain ⟨⟨c, hc⟩, hno⟩ := (h'.excluded x).mp hx
    have hx : x ∈ r.order := ((hk.given_iff x c).mp hc).1
    exact hno (hk.resolvable_iff.mpr ⟨hx, h.mem_order_iff.mp hx⟩)
  have hok : strict survivors = .ok (ofContainers survivors) :=
    strict_eq_ok_iff.mpr ⟨rfl, (firstCause?_eq_none_iff (explains_ofContainers _)).mpr hcomplete⟩
  exact ⟨_, hok, horder, hgraph⟩

end PluginHost.Resolution
