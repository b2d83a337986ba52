import PluginHost.Proofs.Host.Discovery
import PluginHost.Proofs.Host.Loading
import PluginHost.Proofs.Resolution.Exact

/-!
# The pipeline of a manager

A manager whose containers are as discovery leaves them loads them without being refused anything (`Fresh.loadAll`, and
`Fresh.underway` for a part of the order): the resolution names only given plugins, each of them either in the order or
excluded, and its order has every plugin behind what it requires (`before_order`).
-/

namespace PluginHost.Manager

open Resolution (Resolved Resolvable)

variable {m : Manager} {base : Containers} {r : Resolution} {id : PluginId} {c : Container}

/-- Of the containers of a manager the one that counts for an id is the one that stands under it. -/
theorem latest?_values (h : Keyed base) : latest? base.values id = base.find? id := by
  have hn : (base.values.map Container.id).Nodup := by
    rw [h.map_id_values]
    exact base.nodup_keys
  refine Option.ext fun c => ?_
  rw [latest?_eq_some_iff hn, IdMap.mem_values_iff]
  constructor
  · rintro ⟨⟨k, hk⟩, rfl⟩
    rwa [h k c hk]
  · exact fun hc => ⟨⟨id, hc⟩, h id c hc⟩

/-- How far plugins are when the first one is activated. -/
def startOf (r : Resolution) (id : PluginId) : Progress :=
  if id ∈ r.order then .resolving else ((r.excluded.find? id).map Progress.failed).getD .discovered

theorem startOf_ne_loaded (r : Resolution) (id : PluginId) : (startOf r id).state ≠ .loaded := by
  unfold startOf
  split
  · simp [Progress.state]
  · cases r.excluded.find? id <;> simp [Progress.state]

/-- The order has every plugin behind what it requires. -/
theorem before_order (h : Resolved base.find? r) (hid : id ∈ r.order) : Before base r.order id := by
  intro c hc d hd
  obtain ⟨hdc, hr⟩ := Resolution.mem_requiredDependencies.mp hd
  have hreq : r.graph.Requires id d.id :=
    h.requires_iff.mpr ⟨h.mem_order_iff.mp hid, d, ⟨c, hc, hdc⟩, hr, rfl⟩
  obtain ⟨hx, hy⟩ := h.wellFormed.requires_mem hreq
  exact h.order.respects id hx d.id hy (Graph.effective_of_requires hreq)

/-- What the pipeline of a manager resolves. -/
abbrev resolution (m : Manager) : Resolution := Resolution.ofContainers m.containers.values

/-- How far loading got when the first plugin is activated. -/
def begun (m : Manager) : Loading :=
  let r := m.resolution
  { containers := (beginAll r.order (failExcluded r.excluded.entries m.containers).1).1, loadOrder := m.loadOrder }

/-- What the pipeline does before the first plugin is activated. -/
theorem Fresh.begin (h : m.Fresh) (hr : Resolved m.containers.find? r) :
    failExcluded r.excluded.entries m.containers =
      (progressed m.containers fun id => ((r.excluded.find? id).map Progress.failed).getD .discovered, .ok ()) ∧
    beginAll r.order (progressed m.containers fun id => ((r.excluded.find? id).map Progress.failed).getD .discovered) =
      (progressed m.containers (startOf r), .ok ()) := by
  have hbase : m.containers = progressed m.containers fun _ => .discovered := by
    refine IdMap.ext_find? fun id => ?_
    rw [find?_progressed]
    cases hc : m.containers.find? id with
    | none => rfl
    | some c =>
      obtain ⟨manifest, source, progress⟩ := c
      obtain rfl := h.discovered id _ hc
      rfl
  constructor
  · conv_lhs => rw [hbase]
    exact failExcluded_progressed r.excluded.entries r.excluded.nodup_keys
      (fun id hid => ((hr.excluded id).mp hid).1) (fun _ _ => rfl)
  · refine beginAll_progressed r.order hr.nodup_order (fun id hid => hr.given_of_mem_order hid) (fun id hid => ?_)
    cases he : r.excluded.find? id with
    | none => rfl
    | some cause =>
      have hkey : id ∈ r.excluded.keys := IdMap.mem_keys_iff.mpr ⟨cause, he⟩
      exact absurd (hr.mem_order_iff.mp hid) ((hr.excluded id).mp hkey).2

theorem Fresh.resolved (h : m.Fresh) : Resolved m.containers.find? m.resolution := by
  have hlatest : latest? m.containers.values = m.containers.find? := funext fun id => latest?_values h.keyed
  rw [← hlatest]
  exact Resolution.resolved_ofContainers _

theorem Fresh.begun_eq (h : m.Fresh) : m.begun =
    { containers := progressed m.containers (startOf m.resolution), loadOrder := [] } := by
  obtain ⟨hfail, hbegin⟩ := h.begin h.resolved
  simp only [Manager.begun, hfail, hbegin, h.loadOrder]

/-- What holds after a first part of the order. -/
theorem Fresh.underway (h : m.Fresh) (root : FileTree) {done rest : List PluginId}
    (horder : m.resolution.order = done ++ rest) :
    ∃ calls p s, activateAll m.loader root done m.begun = { calls, result := (s, .ok ()) } ∧
      Underway m.loader m.containers (startOf m.resolution) done calls p s := by
  have hr : Resolved m.containers.find? m.resolution := h.resolved
  have hmem : ∀ id ∈ done, id ∈ m.resolution.order := fun id hid => by
    rw [horder]
    exact List.mem_append_left _ hid
  have hn : (done ++ rest).Nodup := horder ▸ hr.nodup_order
  rw [h.begun_eq]
  exact (underway_start m.loader m.containers (startOf_ne_loaded _)).run root h.keyed done
    (List.nodup_append.mp hn).1 (fun id hid => hr.given_of_mem_order (hmem id hid)) (fun id hid => if_pos (hmem id hid))
    fun id hid c hc d hd => (horder ▸ before_order hr (hmem id hid) c hc d hd).of_append hn hid

/-- The pipeline activates the plugins of the order. -/
theorem Fresh.loadAll_eq (h : m.Fresh) (root : FileTree) :
    let r := m.resolution
    let t := activateAll m.loader root r.order m.begun
    let m' : Manager := { m with
      pipelineRan := true, containers := t.result.1.containers, loadOrder := t.result.1.loadOrder, graph := r.graph }
    m.loadAll root = { calls := t.calls, result := (m', .ok m'.report) } := by
  intro r t m'
  obtain ⟨hfail, hbegin⟩ := h.begin h.resolved
  obtain ⟨calls, p, s, ha, _⟩ := h.underway root (List.append_nil _).symm
  have hok : t.result.2 = .ok () := by simp only [t, r, ha]
  have hbegun := h.begun_eq
  simp only [Manager.loadAll, h.pending, Bool.false_eq_true, if_false, hfail, hbegin, h.loadOrder, ← hbegun]
  simp only [t, r] at hok
  simp only [hok]
  rfl

theorem Fresh.containers_loadAll (h : m.Fresh) (root : FileTree) : (m.loadAll root).result.1.containers =
    (activateAll m.loader root m.resolution.order m.begun).result.1.containers := by
  rw [h.loadAll_eq root]

theorem Fresh.loadOrder_loadAll (h : m.Fresh) (root : FileTree) : (m.loadAll root).result.1.loadOrder =
    (activateAll m.loader root m.resolution.order m.begun).result.1.loadOrder := by
  rw [h.loadAll_eq root]

/-- The pipeline of a manager that is fresh is not refused anything. -/
theorem Fresh.loadAll (h : m.Fresh) (root : FileTree) :
    let r := m.resolution
    ∃ calls p s, Underway m.loader m.containers (startOf r) r.order calls p s ∧
      let m' : Manager := { m with
        pipelineRan := true, containers := s.containers, loadOrder := s.loadOrder, graph := r.graph }
      m.loadAll root = { calls, result := (m', .ok m'.report) } := by
  intro r
  obtain ⟨calls, p, s, ha, hs⟩ := h.underway root (List.append_nil r.order).symm
  refine ⟨calls, p, s, hs, ?_⟩
  rw [h.loadAll_eq root, ha]

end PluginHost.Manager
