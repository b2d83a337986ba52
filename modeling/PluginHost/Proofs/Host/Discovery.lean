import PluginHost.Proofs.Host.Progress
import PluginHost.Proofs.Plugin.Artifact

/-!
# Discovery

A manager is fresh until its pipeline runs. Discovery takes in containers that got nowhere yet, each under its id, so
that a fresh manager stays fresh (`Fresh.discover`).
-/

namespace PluginHost.Manager

/-- The pipeline of a manager has not run. -/
structure Fresh (m : Manager) : Prop where
  keyed : Keyed m.containers
  discovered : ∀ id c, m.containers.find? id = some c → c.progress = .discovered
  loadOrder : m.loadOrder = []
  pending : m.pipelineRan = false

variable {m : Manager}

/-! ## Reading artifacts -/

/-- Containers as discovery leaves them. -/
def Discovered (cs : List Container) : Prop := ∀ c ∈ cs, c.progress = .discovered

theorem discovered_containersIn (root : FileTree) (dir : Path) : Discovered (Loader.containersIn root dir) := by
  intro c hc
  obtain ⟨path, _, hc⟩ := List.mem_flatMap.mp hc
  rcases Loader.gives_cases root path with ⟨_, _, d, _, hreads⟩ | ⟨hnil, _⟩
  · exact (hreads.source_of_mem hc).2
  · rw [hnil] at hc
    cases hc

/-! ## Taking in containers -/

/-- Containers were taken in, and nothing else that matters happened. -/
structure TookIn (m m' : Manager) : Prop where
  fresh : m'.Fresh
  loader : m'.loader = m.loader
  shutDown : m'.shutDown = m.shutDown

theorem TookIn.trans {m₁ m₂ m₃ : Manager} (h : TookIn m₁ m₂) (h' : TookIn m₂ m₃) : TookIn m₁ m₃ :=
  ⟨h'.fresh, h'.loader.trans h.loader, h'.shutDown.trans h.shutDown⟩

theorem Fresh.insert (h : m.Fresh) {c : Container} (hc : c.progress = .discovered) :
    Fresh { m with containers := m.containers.insert c.id c } := by
  refine ⟨h.keyed.insert rfl, fun id c' hc' => ?_, h.loadOrder, h.pending⟩
  rw [IdMap.find?_insert] at hc'
  split at hc'
  · obtain rfl := Option.some.inj hc'
    exact hc
  · exact h.discovered id c' hc'

theorem Fresh.addContainer (h : m.Fresh) {c : Container} (hc : c.progress = .discovered) {m' : Manager}
    (ha : m.addContainer c = .ok m') : TookIn m m' := by
  unfold Manager.addContainer at ha
  rw [if_neg (by simp [h.pending])] at ha
  split at ha
  · obtain rfl := Except.ok.inj ha
    exact ⟨h, rfl, rfl⟩
  · split at ha
    · cases ha
    · obtain rfl := Except.ok.inj ha
      exact ⟨h.insert hc, rfl, rfl⟩

theorem Fresh.addOrRecord (h : m.Fresh) {c : Container} (hc : c.progress = .discovered) :
    TookIn m (m.addOrRecord c) := by
  unfold Manager.addOrRecord
  cases ha : m.addContainer c with
  | ok m' => exact h.addContainer hc ha
  | error e => exact ⟨⟨h.keyed, h.discovered, h.loadOrder, h.pending⟩, rfl, rfl⟩

theorem Fresh.foldl_addOrRecord : ∀ (cs : List Container) {m : Manager}, m.Fresh → Discovered cs →
    TookIn m (cs.foldl Manager.addOrRecord m)
  | [], m, h, _ => ⟨h, rfl, rfl⟩
  | c :: cs, m, h, hcs => by
    have hstep : TookIn m (m.addOrRecord c) := h.addOrRecord (hcs c List.mem_cons_self)
    exact hstep.trans (foldl_addOrRecord cs hstep.fresh fun c hc => hcs c (List.mem_cons_of_mem _ hc))

/-- Discovery takes in containers. -/
theorem Fresh.discover (h : m.Fresh) (root : FileTree) (dir : Path) : TookIn m (m.discover root dir).1 := by
  unfold Manager.discover
  rw [if_neg (by simp [h.pending])]
  rcases Loader.scanDirectory_cases root dir with hs | ⟨⟨fault, hs⟩, _⟩
  · rw [hs]
    have hrecord : TookIn m { m with discoveryErrors := m.discoveryErrors ++ Loader.errorsIn root dir } :=
      ⟨⟨h.keyed, h.discovered, h.loadOrder, h.pending⟩, rfl, rfl⟩
    exact hrecord.trans (foldl_addOrRecord _ hrecord.fresh (discovered_containersIn root dir))
  · rw [hs]
    exact ⟨h, rfl, rfl⟩

/-- A discovery that fails takes in nothing. -/
theorem discover_of_error {root : FileTree} {dir : Path} {e : PluginError} (h : (m.discover root dir).2 = .error e) :
    m.discover root dir = (m, .error e) := by
  refine Prod.ext ?_ h
  unfold discover at h ⊢
  split
  · rfl
  · rename_i hran
    rw [if_neg hran] at h
    split at h
    · rfl
    · cases h

/-- Loading a directory is discovery and, unless this fails, the pipeline. -/
theorem loadDirectory_eq (m : Manager) (root : FileTree) (dir : Path) : m.loadDirectory root dir =
    match (m.discover root dir).2 with
    | .error e => .pure (m, .error e)
    | .ok _ => (m.discover root dir).1.loadAll root := by
  unfold loadDirectory
  split
  · rename_i hran
    rw [discover, if_pos hran]
  · cases hd : (m.discover root dir).2 with
    | error e => rw [discover_of_error hd]
    | ok n =>
      have hfound : m.discover root dir = ((m.discover root dir).1, .ok n) := Prod.ext rfl hd
      rw [hfound]

end PluginHost.Manager
