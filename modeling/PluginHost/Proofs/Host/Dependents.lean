import PluginHost.Proofs.Graph.Dependents
import PluginHost.Proofs.Host.Dependencies

/-!
# Dependents of plugins

A manager tells the dependents of a plugin from what all its plugins declare, its graph from the edges that are left
when the resolution is done. Once the pipeline ran the two agree on the nodes of the graph, and for a plugin whose
activation was tried the graph misses nothing that it requires (`run_dependents`).

* `Fresh.dependentsOf_loadAll`: no required edge between two plugins that are left is ever lost.
* `Fresh.resolvable_of_tried`, `Called`: only plugins of the graph are tried, and no code of other ones is called.
-/

namespace PluginHost

/-- The activation of a plugin was tried, whatever came of it. -/
def Container.Tried (c : Container) : Prop :=
  c.isLoaded = true ∨ ∃ plugin fault, c.failure? = some (.activationError plugin fault)

namespace Manager

open Resolution (Resolvable)

variable {m : Manager} {root : FileTree} {id x : PluginId} {c : Container}

/-! ## Dependents by what plugins declare -/

theorem mem_dependentsOf (h : Keyed m.containers) :
    x ∈ m.dependentsOf id ↔ ∃ c, m.find? x = some c ∧ ∃ d ∈ c.manifest.requiredDependencies, d.id = id := by
  simp only [dependentsOf, plugins, find?, List.mem_map, List.mem_filter, List.any_eq_true, decide_eq_true_eq]
  constructor
  · rintro ⟨c, ⟨hc, hd⟩, rfl⟩
    obtain ⟨k, hk⟩ := IdMap.mem_values_iff.mp hc
    obtain rfl := h k c hk
    exact ⟨c, hk, hd⟩
  · rintro ⟨c, hc, hd⟩
    exact ⟨c, ⟨IdMap.mem_values_iff.mpr ⟨x, hc⟩, hd⟩, h x c hc⟩

theorem ascending_dependentsOf (h : Keyed m.containers) (id : PluginId) : Ascending (m.dependentsOf id) := by
  have hsub : (m.dependentsOf id).Sublist m.containers.keys := by
    rw [← h.map_id_values]
    exact List.filter_sublist.map _
  exact List.Pairwise.sublist hsub m.containers.ascending

/-! ## After the pipeline -/

theorem Fresh.graph_loadAll (h : m.Fresh) (root : FileTree) :
    (m.loadAll root).result.1.graph = m.resolution.graph := by
  rw [h.loadAll_eq root]

/-- Whoever is a node of the graph has an edge there to all that it requires. -/
theorem Fresh.requires_iff (h : m.Fresh) (root : FileTree) {y : PluginId} : m.resolution.graph.Requires x y ↔
    x ∈ m.resolution.graph.nodes ∧ ∃ c, (m.loadAll root).result.1.find? x = some c ∧
      ∃ d ∈ c.manifest.requiredDependencies, d.id = y := by
  obtain ⟨p, hp⟩ := h.find?_loadAll root
  rw [h.resolved.requires_iff, h.resolved.nodes]
  refine and_congr_right fun _ => ?_
  simp only [hp, Option.map_eq_some_iff]
  constructor
  · rintro ⟨d, ⟨c, hc, hdc⟩, hr, rfl⟩
    exact ⟨_, ⟨c, hc, rfl⟩, d, Resolution.mem_requiredDependencies.mpr ⟨hdc, hr⟩, rfl⟩
  · rintro ⟨_, ⟨c, hc, rfl⟩, d, hd, rfl⟩
    obtain ⟨hdc, hr⟩ := Resolution.mem_requiredDependencies.mp hd
    exact ⟨d, ⟨c, hc, hdc⟩, hr, rfl⟩

/-- The dependents of a plugin in the graph are those among its nodes. -/
theorem Fresh.dependentsOf_loadAll (h : m.Fresh) (root : FileTree) (id : PluginId) :
    let m' := (m.loadAll root).result.1
    m'.graph.dependentsOf id = (m'.dependentsOf id).filter m'.graph.contains := by
  intro m'
  have hkeyed : Keyed m'.containers := (h.sound_loadAll root).keyed
  have hgraph : m'.graph = m.resolution.graph := h.graph_loadAll root
  rw [hgraph]
  refine Ascending.ext (h.resolved.wellFormed.ascending_dependentsOf id)
    ((ascending_dependentsOf hkeyed id).filter _) fun x => ?_
  rw [Graph.mem_dependentsOf, h.requires_iff root, List.mem_filter, mem_dependentsOf hkeyed, Graph.contains,
    decide_eq_true_eq, and_comm]

/-- All that a plugin requires whose activation was tried is present. -/
theorem Agrees.present_of_tried (h : m.Agrees c) (ht : c.Tried) :
    ∀ d ∈ c.manifest.requiredDependencies, m.dependencyState d = .present := by
  rcases ht with hl | ⟨plugin, fault, hf⟩
  · exact h.loaded hl
  · have hfailed : c.isFailed = true := Container.isSome_failure?_iff.mp (by rw [hf]; rfl)
    exact (h.activation hfailed).mp ⟨plugin, fault, hf⟩

theorem Fresh.resolvable_of_tried (h : m.Fresh) (hc : (m.loadAll root).result.1.find? id = some c) (ht : c.Tried) :
    Resolvable m.containers.find? id := by
  have hagrees := h.agrees root hc
  have hpresent := hagrees.present_of_tried ht
  obtain ⟨c₀, h₀, hmanifest⟩ := h.manifest_eq root hc
  rw [hmanifest] at hpresent
  refine .intro h₀ (fun d hd => ?_) fun d hd => ?_
  · exact h.accepted_loadAll_iff.mp (dependencyState_eq_present_iff.mp (hpresent d hd)).1
  · -- What is present is loaded, and only plugins of the order are.
    have hdc : d ∈ c.dependencies := by
      rw [← hmanifest] at hd
      exact (Resolution.mem_requiredDependencies.mp hd).1
    have hloaded := ((h.completed root).loadOrder d.id).mpr (hagrees.present d hdc (hpresent d hd))
    exact h.resolved.mem_order_iff.mp ((h.loadOrder_sublist root).subset hloaded)

/-- The graph has all that a plugin requires whose activation was tried. -/
theorem Fresh.requires_of_tried (h : m.Fresh) (hc : (m.loadAll root).result.1.find? id = some c) (ht : c.Tried)
    {d : Dependency} (hd : d ∈ c.manifest.requiredDependencies) : m.resolution.graph.Requires id d.id :=
  (h.requires_iff root).mpr ⟨(h.resolved.nodes id).mpr (h.resolvable_of_tried hc ht), c, hc, d, hd, rfl⟩

/-! ## Whose code is called -/

/-- The activation of a plugin of a manager was tried. -/
def Tried (m : Manager) (id : PluginId) : Prop := ∃ c, m.find? id = some c ∧ c.Tried

theorem Fresh.tried_of_mem_calls (h : m.Fresh) {call : Call} (hcall : call ∈ (m.loadAll root).calls) :
    (m.loadAll root).result.1.Tried call.plugin := by
  obtain ⟨answer, ha, _⟩ := h.asked_of_mem_calls hcall
  obtain ⟨c, _, hfound, _, ⟨plugin, hok⟩ | ⟨fault, hfault⟩⟩ := h.answered ha
  · rw [hok] at hfound
    exact ⟨_, hfound, Or.inl rfl⟩
  · rw [hfault] at hfound
    exact ⟨_, hfound, Or.inr ⟨_, fault, rfl⟩⟩

/-- An operation on a fresh manager calls only plugins whose activation was tried then. -/
theorem Fresh.tried_apply (h : m.Fresh) (op : Op) {call : Call} (hcall : call ∈ (m.apply op).calls) :
    (m.apply op).result.Tried call.plugin := by
  rcases h.apply_cases op with ⟨hcalls, _⟩ | ⟨m', root, hfresh, hloads⟩
  · rw [hcalls] at hcall
    cases hcall
  · rw [hloads] at hcall ⊢
    exact hfresh.tried_of_mem_calls hcall

variable {l : Loader} {calls : List Call}

/-- What was called are plugins whose activation was tried. -/
structure Called (l : Loader) (calls : List Call) (m : Manager) : Prop extends Sound l calls m where
  tried : ∀ call ∈ calls, m.Tried call.plugin

theorem called_new (l : Loader) (disabled : List PluginId) : Called l [] (new l disabled) where
  toSound := (fresh_new l disabled).sound rfl
  tried _ hcall := absurd hcall List.not_mem_nil

namespace Called

theorem proceeds (h : Called l calls m) {op : Op} (hop : op.isShutdown = false) :
    Called l (calls ++ (m.apply op).calls) (m.apply op).result := by
  refine ⟨(h.toSound.proceeds hop).sound, ?_⟩
  -- Once the pipeline ran nothing is called any more, and before it nothing was.
  cases hran : m.pipelineRan with
  | true =>
    rw [apply_eq_pure hran hop]
    simpa [Traced.pure] using h.tried
  | false =>
    obtain ⟨hfresh, rfl⟩ := h.fresh hran
    exact fun call hcall => hfresh.tried_apply op hcall

/-- A shutdown calls the plugins that are loaded. -/
theorem shutdown (h : Called l calls m) : Called l (calls ++ m.shutdown.calls) m.shutdown.result.1 := by
  refine ⟨h.toSound.shutdown, fun call hcall => ?_⟩
  unfold Manager.shutdown at hcall ⊢
  split at hcall
  · rename_i hs
    rw [if_pos hs]
    exact h.tried call (by simpa [Traced.pure] using hcall)
  · rename_i hs
    rw [if_neg hs]
    rcases List.mem_append.mp hcall with hcall | hcall
    · exact h.tried call hcall
    · obtain ⟨id, hid, c, hc, rfl⟩ := exists_of_mem_calls_stopAll hcall
      obtain rfl : c.id = id := h.keyed id c hc
      exact ⟨c, hc, Or.inl ((h.loaded c.id c hc).mpr (List.mem_reverse.mp hid))⟩

theorem apply (h : Called l calls m) (op : Op) : Called l (calls ++ (m.apply op).calls) (m.apply op).result :=
  apply_keeps h.proceeds h.shutdown op

theorem run (ops : List Op) (h : Called l calls m) :
    Called l (calls ++ (Manager.run ops m).calls) (Manager.run ops m).result :=
  run_keeps apply ops h

end Called

/-! ## Runs -/

/-- Once the pipeline ran in a run, the dependents of every id in the graph are those that the manager tells, in the
same order, as far as they are nodes of the graph. A plugin whose activation was tried requires nothing that is missing
from the graph, and code of other plugins was not called. -/
theorem run_dependents {l : Loader} {disabled : List PluginId} {ops : List Op}
    (h : (run ops (new l disabled)).result.pipelineRan = true) :
    let t := run ops (new l disabled)
    let m := t.result
    (∀ id, m.graph.dependentsOf id = (m.dependentsOf id).filter m.graph.contains) ∧
    (∀ id c, m.find? id = some c → c.Tried → ∀ d ∈ c.manifest.requiredDependencies,
      d.id ∈ m.graph.nodes ∧ m.graph.Requires id d.id) ∧
    ∀ call ∈ t.calls, m.Tried call.plugin := by
  intro t m
  obtain ⟨m₀, root, shutDown, hfresh, hm⟩ := (fresh_new l disabled).exists_loadAll_of_pipelineRan ops h
  have hcalled : Called l t.calls m := (called_new l disabled).run ops
  refine ⟨fun id => ?_, fun id c hc ht d hd => ?_, hcalled.tried⟩
  · simp only [m, t, hm]
    exact hfresh.dependentsOf_loadAll root id
  · simp only [m, t, hm] at hc ⊢
    have hreq : m₀.resolution.graph.Requires id d.id := hfresh.requires_of_tried hc ht hd
    rw [hfresh.graph_loadAll root]
    exact ⟨(hfresh.resolved.wellFormed.requires_mem hreq).2, hreq⟩

/-- Two plugins require a third one, but only that of them is its dependent in the graph which has all it requires. -/
theorem run_dependents_behind_exclusion :
    let add := fun (id : PluginId) (required : List PluginId) =>
      Op.add { id, version := "1.0.0", entryPoint := idleEntryPoint, dependencies := required.map fun y => { id := y } }
        none
    let adds := [add "c" ["a", "x"], add "b" ["a"], add "a" []]
    let host := new { registry := .builtin, api := { major := 1, minor := 0, patch := 0 } } []
    let m := (run (adds ++ [.loadAll .empty]) host).result
    m.pipelineRan = true ∧ m.dependentsOf "a" = ["b", "c"] ∧ m.graph.nodes = ["a", "b"] ∧
    m.graph.dependentsOf "a" = ["b"] := by
  intro add adds host m
  have hfresh : (run adds host).result.Fresh := ((sound_run _ [] adds).fresh (by simp only [adds, add]; cbv)).1
  have hm : m = ((run adds host).result.loadAll .empty).result.1 := rfl
  have hran : m.pipelineRan = true := by rw [hm, hfresh.loadAll_eq]
  have hdeclared : m.dependentsOf "a" = ["b", "c"] := by
    rw [hm, dependentsOf, plugins, hfresh.containers_loadAll]
    simp only [host, adds, add]
    cbv
  have hnodes : m.graph.nodes = ["a", "b"] := by
    rw [hm, hfresh.graph_loadAll]
    simp only [host, adds, add]
    cbv
  obtain ⟨hdependents, _, _⟩ := run_dependents hran
  have hleft : ∀ id, m.graph.contains id = decide (id ∈ ["a", "b"]) := fun id => by rw [Graph.contains, hnodes]
  refine ⟨hran, hdeclared, hnodes, (hdependents "a").trans ?_⟩
  rw [hdeclared, funext hleft]
  decide

end Manager
end PluginHost
