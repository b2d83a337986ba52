import PluginHost.Proofs.Host.Pipeline

/-!
# Runs of a manager

What is done to a manager are operations (`Op`), one after the other (`run`). `Sound` says what holds of the manager and
of the calls that were made; every operation keeps it (`Sound.apply`), so it holds in every run (`sound_run`).

* Discovery only takes in containers, and only before the pipeline runs (`Fresh.discover`).
* The pipeline runs once, on a manager that is fresh (`Sound.loadAll`).
* Stopping calls plugins and changes nothing that matters (`Sound.shutdown`).
* What each operation keeps holds in every run that starts with it (`run_keeps`).
-/

namespace PluginHost

namespace Traced

variable {σ ω : Type}

/-- Steps from one state to the next, one after the other. -/
def steps (step : σ → ω → Traced σ) : List ω → σ → Traced σ
  | [], s => .pure s
  | o :: os, s => (step s o).bind (steps step os)

theorem steps_append (step : σ → ω → Traced σ) : ∀ (os more : List ω) (s : σ),
    steps step (os ++ more) s = (steps step os s).bind (steps step more)
  | [], more, s => rfl
  | o :: os, more, s => by
    simp only [List.cons_append, steps, bind, steps_append step os more]
    simp

theorem fst_map {α β : Type} (t : Traced (α × β)) : Prod.fst <$> t = { calls := t.calls, result := t.result.1 } := by
  simp [Functor.map, bind, pure]

end Traced

namespace Manager

/-- What is done to a manager. -/
inductive Op where
  | add (manifest : Manifest) (source : Option Path)
  | discover (root : FileTree) (dir : Path)
  | loadAll (root : FileTree)
  | loadDirectory (root : FileTree) (dir : Path)
  | shutdown

/-- Whether an operation stops the manager. -/
def Op.isShutdown : Op → Bool
  | shutdown => true
  | _ => false

/-- A manager without plugins. -/
def new (loader : Loader) (disabled : List PluginId) : Manager := { loader, disabled }

theorem ofConfig_eq_new {config : Config} {registry : Registry} {m : Manager} (h : ofConfig config registry = .ok m) :
    ∃ l, m = new l config.disabled := by
  unfold ofConfig at h
  split at h
  · cases h
  · exact ⟨_, (Except.ok.inj h).symm⟩

/-- What an operation makes of a manager, whether it is an error or not. -/
def apply (m : Manager) : Op → Traced Manager
  | .add manifest source => .pure ((m.addContainer { manifest, source }).toOption.getD m)
  | .discover root dir => .pure (m.discover root dir).1
  | .loadAll root => Prod.fst <$> m.loadAll root
  | .loadDirectory root dir => Prod.fst <$> m.loadDirectory root dir
  | .shutdown => Prod.fst <$> m.shutdown

/-- Once its pipeline ran, a manager does nothing more but stop. -/
theorem apply_eq_pure {m : Manager} (h : m.pipelineRan = true) {op : Op} (hop : op.isShutdown = false) :
    m.apply op = .pure m := by
  cases op with
  | add manifest source => rw [apply, addContainer, if_pos h]; rfl
  | discover root dir => rw [apply, discover, if_pos h]
  | loadAll root => rw [apply, loadAll, if_pos h]; rfl
  | loadDirectory root dir => rw [apply, loadDirectory, if_pos h]; rfl
  | shutdown => cases hop

/-- What operations make of a manager, one after the other. -/
def run (ops : List Op) (m : Manager) : Traced Manager := Traced.steps apply ops m

theorem calls_run_cons (op : Op) (ops : List Op) (m : Manager) :
    (run (op :: ops) m).calls = (m.apply op).calls ++ (run ops (m.apply op).result).calls := rfl

variable {l : Loader} {calls : List Call} {m : Manager}

/-! ## What holds in every run -/

/-- What holds of a manager and the calls that were made since it had no plugins. -/
structure Sound (l : Loader) (calls : List Call) (m : Manager) : Prop where
  loader : m.loader = l
  fresh : m.pipelineRan = false → m.Fresh ∧ calls = []
  keyed : Keyed m.containers
  loaded : ∀ id c, m.containers.find? id = some c → (c.isLoaded = true ↔ id ∈ m.loadOrder)
  present : ∀ id ∈ m.loadOrder, ∃ c, m.containers.find? id = some c
  nodup : m.loadOrder.Nodup
  order : m.loadOrder = l.activated calls
  orderly : l.Orderly calls
  /-- What a loaded plugin requires is there with a version that will do, and came before. -/
  safe : ∀ id c, m.containers.find? id = some c → id ∈ m.loadOrder → ∀ d ∈ c.manifest.requiredDependencies,
    Resolution.Accepted m.containers.find? d ∧ Precedes m.loadOrder d.id id
  /-- Before it is stopped, no plugin is. -/
  running : m.shutDown = false → stopped calls = []

/-- A fresh manager is sound when no plugin was called. -/
theorem Fresh.sound (h : m.Fresh) (loader : m.loader = l) : Sound l [] m where
  loader := loader
  fresh _ := ⟨h, rfl⟩
  keyed := h.keyed
  loaded id c hc := by
    simp [h.loadOrder, Container.isLoaded, Container.state, h.discovered id c hc, Progress.state]
  present id hid := by
    rw [h.loadOrder] at hid
    cases hid
  nodup := by
    rw [h.loadOrder]
    exact List.nodup_nil
  order := h.loadOrder
  orderly := l.orderly_nil
  safe id c hc hid := by
    rw [h.loadOrder] at hid
    cases hid
  running _ := rfl

theorem fresh_new (l : Loader) (disabled : List PluginId) : (new l disabled).Fresh where
  keyed _ _ h := by cases h
  discovered _ _ h := by cases h
  loadOrder := rfl
  pending := rfl

theorem accepted_progressed {base : Containers} {p : PluginId → Progress} {d : Dependency}
    (h : Resolution.Accepted base.find? d) : Resolution.Accepted (progressed base p).find? d := by
  obtain ⟨target, ht, ha⟩ := h
  exact ⟨{ target with progress := p d.id }, find?_progressed_of ht, ha⟩

/-- A manager is sound after its pipeline ran. -/
theorem Underway.sound {base : Containers} {start p : PluginId → Progress} {r : Resolution} {s : Loading}
    (h : Underway l base start r.order calls p s) (hr : Resolution.Resolved base.find? r) (hkeyed : Keyed base)
    (loader : m.loader = l) (pipelineRan : m.pipelineRan = true) (containers : m.containers = s.containers)
    (loadOrder : m.loadOrder = s.loadOrder) : Sound l calls m := by
  rw [h.containers] at containers
  refine ⟨loader, fun hp => ?_, ?_, ?_, ?_, ?_, ?_, h.orderly, ?_, fun _ => h.running⟩
  · simp [pipelineRan] at hp
  · rw [containers]
    exact hkeyed.progressed p
  · intro id c hc
    obtain ⟨c₀, _, rfl⟩ := find?_eq_of_progressed (containers ▸ hc)
    rw [loadOrder, ← h.loaded, isLoaded_progressed]
  · intro id hid
    rw [loadOrder] at hid
    obtain ⟨c₀, h₀⟩ := hr.given_of_mem_order (h.within.subset hid)
    exact ⟨_, by rw [containers, find?_progressed_of h₀]⟩
  · rw [loadOrder]
    exact h.within.nodup hr.nodup_order
  · rw [loadOrder, h.order]
  · intro id c hc hid d hd
    obtain ⟨c₀, h₀, rfl⟩ := find?_eq_of_progressed (containers ▸ hc)
    rw [loadOrder] at hid ⊢
    have hx : Resolution.Resolvable base.find? id := hr.mem_order_iff.mp (h.within.subset hid)
    rw [containers]
    exact ⟨accepted_progressed (hx.accepted_of_mem h₀ hd), h.before id hid c₀ h₀ d hd⟩

/-- An operation that does not stop the manager keeps what holds, and no plugin is stopped. -/
structure Proceeds (l : Loader) (calls : List Call) (m : Manager) (more : List Call) (m' : Manager) : Prop where
  sound : Sound l (calls ++ more) m'
  shutDown : m'.shutDown = m.shutDown
  stopped : stopped more = []

namespace Sound

theorem idle (h : Sound l calls m) : Proceeds l calls m [] m :=
  ⟨by simpa using h, rfl, rfl⟩

/-- Containers are taken in before the pipeline runs. -/
theorem tookIn (h : Sound l calls m) {m' : Manager} (hm : m.Fresh → TookIn m m')
    (hran : m.pipelineRan = true → m' = m) : Proceeds l calls m [] m' := by
  cases hp : m.pipelineRan with
  | true =>
    rw [hran hp]
    exact h.idle
  | false =>
    obtain ⟨hfresh, rfl⟩ := h.fresh hp
    exact ⟨(hm hfresh).fresh.sound ((hm hfresh).loader.trans h.loader), (hm hfresh).shutDown, rfl⟩

theorem add (h : Sound l calls m) (manifest : Manifest) (source : Option Path) :
    Proceeds l calls m [] ((m.addContainer { manifest, source }).toOption.getD m) := by
  refine h.tookIn (fun hfresh => ?_) (fun hran => ?_)
  · cases ha : m.addContainer { manifest, source } with
    | ok m' => exact hfresh.addContainer rfl ha
    | error e => exact ⟨hfresh, rfl, rfl⟩
  · unfold Manager.addContainer
    rw [if_pos hran]
    rfl

theorem discover (h : Sound l calls m) (root : FileTree) (dir : Path) :
    Proceeds l calls m [] (m.discover root dir).1 := by
  refine h.tookIn (fun hfresh => hfresh.discover root dir) (fun hran => ?_)
  unfold Manager.discover
  rw [if_pos hran]

/-- The pipeline runs once, and what it loads is safe. -/
theorem loadAll (h : Sound l calls m) (root : FileTree) :
    Proceeds l calls m (m.loadAll root).calls (m.loadAll root).result.1 := by
  cases hp : m.pipelineRan with
  | true =>
    unfold Manager.loadAll
    rw [if_pos hp]
    exact h.idle
  | false =>
    -- No plugin was called before the pipeline, so the calls of the run are those of the pipeline.
    obtain ⟨hfresh, rfl⟩ := h.fresh hp
    obtain ⟨calls, p, s, hs, hl⟩ := hfresh.loadAll root
    rw [hl]
    refine ⟨?_, rfl, hs.running⟩
    rw [h.loader] at hs
    refine hs.sound hfresh.resolved hfresh.keyed ?_ ?_ ?_ ?_
    · exact h.loader
    · rfl
    · rfl
    · rfl

/-- The pipeline runs after discovery, if at all. -/
theorem loadDirectory (h : Sound l calls m) (root : FileTree) (dir : Path) :
    Proceeds l calls m (m.loadDirectory root dir).calls (m.loadDirectory root dir).result.1 := by
  rw [loadDirectory_eq]
  cases (m.discover root dir).2 with
  | error e => exact h.idle
  | ok _ =>
    have hd := h.discover root dir
    have hsound : Sound l calls (m.discover root dir).1 := by simpa using hd.sound
    have hl := hsound.loadAll root
    exact ⟨hl.sound, hl.shutDown.trans hd.shutDown, hl.stopped⟩

end Sound

theorem Fresh.sound_loadAll (h : m.Fresh) (root : FileTree) :
    Sound m.loader (m.loadAll root).calls (m.loadAll root).result.1 := by
  simpa using ((h.sound rfl).loadAll root).sound

/-! ## Stopping -/

/-- Stopping calls the plugins of given containers and nothing else. -/
theorem exists_of_mem_calls_stopAll {cs : Containers} {call : Call} : ∀ {ids : List PluginId},
    call ∈ (stopAll cs ids).calls → ∃ id ∈ ids, ∃ c, cs.find? id = some c ∧ call = .deactivate c.manifest
  | id :: ids, h => by
    rcases List.mem_append.mp h with h | h
    · unfold stop at h
      split at h
      · cases h
      · rename_i c hc
        split at h
        · cases h
        · exact ⟨id, List.mem_cons_self, c, hc, List.mem_singleton.mp h⟩
    · obtain ⟨id', hid', hcall⟩ := exists_of_mem_calls_stopAll h
      exact ⟨id', List.mem_cons_of_mem _ hid', hcall⟩

theorem quiet_stopAll (cs : Containers) (ids : List PluginId) : Loader.Quiet (stopAll cs ids).calls := by
  intro call hcall context he
  obtain ⟨_, _, c, _, rfl⟩ := exists_of_mem_calls_stopAll hcall
  cases he

/-- Loaded plugins are stopped one after the other. -/
theorem stopped_stopAll {cs : Containers} : ∀ ids : List PluginId,
    (∀ id ∈ ids, ∃ c, cs.find? id = some c ∧ c.id = id ∧ c.isLoaded = true) → stopped (stopAll cs ids).calls = ids
  | [], _ => rfl
  | id :: ids, h => by
    obtain ⟨c, hc, hid, hl⟩ := h id List.mem_cons_self
    obtain ⟨manifest, source, progress⟩ := c
    have ih := stopped_stopAll ids fun id h' => h id (List.mem_cons_of_mem _ h')
    cases progress with
    | loaded plugin =>
      have hfirst : stopped (stop cs id).calls = [id] := by
        simp only [stop, hc, Container.plugin?]
        exact congrArg (fun x => [x]) hid
      rw [stopAll, stopped_append, hfirst, ih]
      rfl
    | discovered => cases hl
    | resolving => cases hl
    | failed cause => cases hl

/-- Stopping a manager for the first time stops the loaded plugins in reverse order of their activation. -/
theorem Sound.stopped_shutdown (h : Sound l calls m) (hs : m.shutDown = false) :
    stopped m.shutdown.calls = m.loadOrder.reverse := by
  unfold Manager.shutdown
  rw [if_neg (by simp [hs])]
  refine stopped_stopAll _ fun id hid => ?_
  have hl : id ∈ m.loadOrder := List.mem_reverse.mp hid
  obtain ⟨c, hc⟩ := h.present id hl
  exact ⟨c, hc, h.keyed id c hc, (h.loaded id c hc).mpr hl⟩

theorem Sound.shutdown (h : Sound l calls m) : Sound l (calls ++ m.shutdown.calls) m.shutdown.result.1 := by
  cases hs : m.shutDown with
  | true =>
    rw [shutdown_again hs]
    simpa [Traced.pure] using h
  | false =>
    unfold Manager.shutdown
    rw [if_neg (by simp [hs])]
    have hquiet := quiet_stopAll m.containers m.loadOrder.reverse
    refine ⟨h.loader, fun hp => ?_, h.keyed, h.loaded, h.present, h.nodup, ?_, h.orderly.quiet hquiet, h.safe, ?_⟩
    · obtain ⟨hfresh, rfl⟩ := h.fresh hp
      refine ⟨⟨hfresh.keyed, hfresh.discovered, hfresh.loadOrder, hfresh.pending⟩, ?_⟩
      simp [hfresh.loadOrder, stopAll, Traced.pure]
    · rw [Loader.activated_append, Loader.activated_of_quiet hquiet, List.append_nil]
      exact h.order
    · exact fun hno => absurd hno (by simp)

/-! ## All operations -/

theorem Op.eq_shutdown : ∀ {op : Op}, op.isShutdown = true → op = .shutdown
  | .shutdown, _ => rfl

/-- An operation on a fresh manager calls nothing and leaves it fresh, or it loads a manager that is fresh. -/
theorem Fresh.apply_cases (h : m.Fresh) (op : Op) :
    ((m.apply op).calls = [] ∧ (m.apply op).result.Fresh) ∨
    ∃ (m' : Manager) (root : FileTree), m'.Fresh ∧
      m.apply op = { calls := (m'.loadAll root).calls, result := (m'.loadAll root).result.1 } := by
  cases op with
  | add manifest source =>
    refine Or.inl ⟨rfl, ?_⟩
    rw [apply]
    cases ha : m.addContainer { manifest, source } with
    | ok m' => exact (h.addContainer rfl ha).fresh
    | error e => exact h
  | discover root dir => exact Or.inl ⟨rfl, (h.discover root dir).fresh⟩
  | loadAll root => exact Or.inr ⟨m, root, h, by rw [apply, Traced.fst_map]⟩
  | loadDirectory root dir =>
    rw [apply, Traced.fst_map, loadDirectory_eq]
    cases (m.discover root dir).2 with
    | error e => exact Or.inl ⟨rfl, h⟩
    | ok _ => exact Or.inr ⟨_, root, (h.discover root dir).fresh, rfl⟩
  | shutdown =>
    rw [apply, Traced.fst_map, Manager.shutdown]
    split
    · exact Or.inl ⟨rfl, h⟩
    · -- There is nothing loaded to be stopped.
      refine Or.inl ⟨?_, h.keyed, h.discovered, h.loadOrder, h.pending⟩
      simp only [h.loadOrder]
      rfl

/-- What a shutdown keeps and every other operation, too, is kept by each. -/
theorem apply_keeps {I : List Call → Manager → Prop}
    (proceeds : ∀ {op : Op}, op.isShutdown = false → I (calls ++ (m.apply op).calls) (m.apply op).result)
    (shutdown : I (calls ++ m.shutdown.calls) m.shutdown.result.1) (op : Op) :
    I (calls ++ (m.apply op).calls) (m.apply op).result := by
  cases hop : op.isShutdown with
  | true =>
    obtain rfl := Op.eq_shutdown hop
    rw [apply, Traced.fst_map]
    exact shutdown
  | false => exact proceeds hop

/-- What each operation keeps, with the calls that it adds, is kept by a run. -/
theorem run_keeps {I : List Call → Manager → Prop} (keeps : ∀ {calls : List Call} {m : Manager}, I calls m →
    ∀ op : Op, I (calls ++ (m.apply op).calls) (m.apply op).result) :
    ∀ (ops : List Op) {calls : List Call} {m : Manager}, I calls m →
      I (calls ++ (run ops m).calls) (run ops m).result
  | [], calls, m, h => by simpa [run, Traced.steps, Traced.pure] using h
  | op :: ops, calls, m, h => by
    have hrest := run_keeps keeps ops (keeps h op)
    rwa [List.append_assoc, ← calls_run_cons] at hrest

/-- An operation that is no shutdown stops no plugin. -/
theorem Sound.proceeds (h : Sound l calls m) {op : Op} (hop : op.isShutdown = false) :
    Proceeds l calls m (m.apply op).calls (m.apply op).result := by
  cases op with
  | add manifest source => exact h.add manifest source
  | discover root dir => exact h.discover root dir
  | loadAll root =>
    rw [Manager.apply, Traced.fst_map]
    exact h.loadAll root
  | loadDirectory root dir =>
    rw [Manager.apply, Traced.fst_map]
    exact h.loadDirectory root dir
  | shutdown => cases hop

theorem Sound.apply (h : Sound l calls m) (op : Op) :
    Sound l (calls ++ (m.apply op).calls) (m.apply op).result :=
  apply_keeps (fun hop => (h.proceeds hop).sound) h.shutdown op

theorem Sound.run (ops : List Op) (h : Sound l calls m) :
    Sound l (calls ++ (run ops m).calls) (run ops m).result :=
  run_keeps Sound.apply ops h

theorem sound_run (l : Loader) (disabled : List PluginId) (ops : List Op) :
    Sound l (run ops (new l disabled)).calls (run ops (new l disabled)).result := by
  have hnew : Sound l [] (new l disabled) := (fresh_new l disabled).sound rfl
  simpa using hnew.run ops

/-- In every run what a loaded plugin requires is there with a version that will do, is loaded, and came before; the
load order is that of the activations, and a plugin that is activated sees what was activated before, among it all that
it requires. -/
theorem run_safe (l : Loader) (disabled : List PluginId) (ops : List Op) :
    let t := run ops (new l disabled)
    let m := t.result
    (∀ id c, m.containers.find? id = some c → c.isLoaded = true → ∀ d ∈ c.manifest.requiredDependencies,
      (∃ target, m.containers.find? d.id = some target ∧ d.accepts target.version = true ∧ target.isLoaded = true) ∧
      Precedes m.loadOrder d.id id) ∧
    m.loadOrder.Nodup ∧ m.loadOrder = l.activated t.calls ∧
    ∀ before context after, t.calls = before ++ .activate context :: after →
      l.activated before <+: m.loadOrder ∧ (∀ id, id ∈ context.loaded ↔ id ∈ l.activated before) ∧
      ∀ d ∈ context.manifest.requiredDependencies, d.id ∈ context.loaded := by
  intro t m
  have h : Sound l t.calls m := sound_run l disabled ops
  clear_value t
  refine ⟨fun id c hc hl d hd => ?_, h.nodup, h.order, fun before context after he => ⟨?_, h.orderly _ _ _ he⟩⟩
  · obtain ⟨⟨target, ht, ha⟩, hbefore⟩ := h.safe id c hc ((h.loaded id c hc).mp hl) d hd
    exact ⟨⟨target, ht, ha, (h.loaded d.id target ht).mpr hbefore.left_mem⟩, hbefore⟩
  · rw [h.order, he, Loader.activated_append]
    exact List.prefix_append _ _

end Manager
end PluginHost
