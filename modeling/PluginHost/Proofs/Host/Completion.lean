import Mathlib
import PluginHost.Plugin.Builtin
import PluginHost.Proofs.Host.Run
import PluginHost.Proofs.Host.Turn

/-!
# The pipeline completes

Once the pipeline ran, every plugin is loaded or failed, and what the manager tells of its plugins agrees with that
(`Completed`).

* `Fresh.completed`: this is so whatever plugins do.
* `apply_of_pipelineRan`: an operation on a manager whose pipeline ran changes at most whether it was stopped, so that
  nothing of this changes any more (`run_of_pipelineRan`).
-/

namespace PluginHost

theorem Container.isSome_plugin?_iff {c : Container} : c.plugin?.isSome = true ↔ c.isLoaded = true := by
  obtain ⟨manifest, source, progress⟩ := c
  cases progress <;> simp [Container.plugin?, Container.isLoaded, Container.state, Progress.state]

theorem Container.isSome_failure?_iff {c : Container} : c.failure?.isSome = true ↔ c.isFailed = true := by
  obtain ⟨manifest, source, progress⟩ := c
  cases progress <;> simp [Container.failure?, Container.isFailed, Container.state, Progress.state]

theorem Container.not_isFailed_of_isLoaded {c : Container} (h : c.isLoaded = true) : c.isFailed = false := by
  simp only [Container.isLoaded, Container.isFailed, decide_eq_true_eq, decide_eq_false_iff_not] at h ⊢
  rw [h]
  decide

namespace Manager

variable {m : Manager} {root : FileTree} {id : PluginId} {c : Container}

/-! ## What the manager tells -/

theorem isLoaded_iff : m.isLoaded id = true ↔ ∃ c, m.containers.find? id = some c ∧ c.isLoaded = true := by
  simp [isLoaded, find?, Option.any_eq_true]

theorem findFailed?_iff : (m.findFailed? id).isSome = true ↔ ∃ c, m.find? id = some c ∧ c.isFailed = true := by
  simp [findFailed?, Option.isSome_filter, Option.any_eq_true]

/-- A report names the plugins that failed. -/
theorem mem_failed_report_iff (h : Keyed m.containers) :
    id ∈ m.report.failed.map Prod.fst ↔ (m.findFailed? id).isSome = true := by
  rw [findFailed?_iff, report, List.map_map, List.mem_map]
  constructor
  · rintro ⟨c, hc, rfl⟩
    obtain ⟨hmem, hfailed⟩ := List.mem_filter.mp hc
    obtain ⟨k, hk⟩ := IdMap.mem_values_iff.mp hmem
    obtain rfl := h k c hk
    exact ⟨c, hk, hfailed⟩
  · rintro ⟨c, hc, hfailed⟩
    exact ⟨c, List.mem_filter.mpr ⟨IdMap.mem_values_iff.mpr ⟨id, hc⟩, hfailed⟩, h id c hc⟩

/-- Every plugin is loaded or failed, and what the manager tells of its plugins agrees with that. -/
structure Completed (m : Manager) : Prop where
  settled : ∀ id c, m.containers.find? id = some c → c.isLoaded = true ∨ c.isFailed = true
  plugin : ∀ id c, m.containers.find? id = some c → (c.plugin?.isSome = true ↔ c.isLoaded = true)
  failure : ∀ id c, m.containers.find? id = some c → (c.failure?.isSome = true ↔ c.isFailed = true)
  nodup : m.loadOrder.Nodup
  loadOrder : ∀ id, id ∈ m.loadOrder ↔ m.isLoaded id = true
  disjoint : ∀ id ∈ m.report.loaded, id ∉ m.report.failed.map Prod.fst
  covered : ∀ id, id ∈ m.containers.keys ↔ id ∈ m.report.loaded ∨ id ∈ m.report.failed.map Prod.fst

theorem Sound.mem_loadOrder_iff {l : Loader} {calls : List Call} (h : Sound l calls m) :
    id ∈ m.loadOrder ↔ m.isLoaded id = true := by
  rw [isLoaded_iff]
  constructor
  · intro hid
    obtain ⟨c, hc⟩ := h.present id hid
    exact ⟨c, hc, (h.loaded id c hc).mpr hid⟩
  · rintro ⟨c, hc, hl⟩
    exact (h.loaded id c hc).mp hl

/-- A plugin of the order is loaded or failed after its turn, any other one is excluded and failed before. -/
theorem Fresh.isLoaded_or_isFailed (h : m.Fresh) (root : FileTree)
    (hc : (m.loadAll root).result.1.containers.find? id = some c) : c.isLoaded = true ∨ c.isFailed = true := by
  obtain ⟨p, hp, hsettled⟩ := h.settled root
  obtain ⟨c₀, h₀, rfl⟩ := find?_eq_of_progressed (hp ▸ hc)
  rcases h.mem_order_or_excluded h₀ with hid | ⟨cause, he⟩
  · exact (hsettled.settled id hid).imp isLoaded_progressed.mpr isFailed_progressed.mpr
  · obtain ⟨c, _, hfailed⟩ := h.find?_of_excluded root he
    rw [← Option.some.inj (hfailed.symm.trans hc)]
    exact Or.inr rfl

/-- Loading names no other plugins. -/
theorem Fresh.keys_loadAll (h : m.Fresh) (root : FileTree) :
    (m.loadAll root).result.1.containers.keys = m.containers.keys := by
  obtain ⟨p, hp, _⟩ := h.settled root
  simp [hp, progressed, IdMap.keys, IdMap.mapValues]

theorem Fresh.completed (h : m.Fresh) (root : FileTree) : (m.loadAll root).result.1.Completed := by
  have hs := h.sound_loadAll root
  have hlast : ∀ id c, (m.loadAll root).result.1.containers.find? id = some c → c.isLoaded = true ∨ c.isFailed = true :=
    fun id c hc => h.isLoaded_or_isFailed root hc
  generalize (m.loadAll root).result.1 = m' at hs hlast
  refine ⟨hlast, fun _ _ _ => Container.isSome_plugin?_iff, fun _ _ _ => Container.isSome_failure?_iff, hs.nodup,
    fun id => hs.mem_loadOrder_iff, fun id hid hfailed => ?_, fun id => ?_⟩
  · obtain ⟨c, hc, hl⟩ := isLoaded_iff.mp (hs.mem_loadOrder_iff.mp hid)
    obtain ⟨c', hc', hf⟩ := findFailed?_iff.mp ((mem_failed_report_iff hs.keyed).mp hfailed)
    obtain rfl := Option.some.inj (hc.symm.trans hc')
    rw [Container.not_isFailed_of_isLoaded hl] at hf
    cases hf
  · rw [mem_failed_report_iff hs.keyed, findFailed?_iff, report, hs.mem_loadOrder_iff, isLoaded_iff,
      IdMap.mem_keys_iff, ← exists_or]
    refine exists_congr fun c => ?_
    rw [find?, ← and_or_left, iff_self_and]
    exact hlast id c

theorem Completed.isLoaded_iff_isNone (h : m.Completed) (hc : m.containers.find? id = some c) :
    m.isLoaded id = true ↔ (m.findFailed? id).isNone = true := by
  have hfailed : c.isLoaded = true ↔ c.isFailed = false := by
    refine ⟨Container.not_isFailed_of_isLoaded, fun hf => (h.settled id c hc).resolve_right ?_⟩
    rw [hf]
    exact Bool.false_ne_true
  simp [isLoaded, findFailed?, find?, hc, hfailed]

/-! ## After the pipeline -/

/-- An operation on a manager whose pipeline ran changes at most whether it was stopped. -/
theorem apply_of_pipelineRan (h : m.pipelineRan = true) (op : Op) :
    ∃ shutDown, (m.apply op).result = { m with shutDown } := by
  cases hop : op.isShutdown with
  | false => exact ⟨m.shutDown, by rw [apply_eq_pure h hop]; rfl⟩
  | true =>
    obtain rfl := Op.eq_shutdown hop
    rw [apply, Traced.fst_map, shutdown]
    split
    · exact ⟨m.shutDown, rfl⟩
    · exact ⟨true, rfl⟩

theorem run_of_pipelineRan : ∀ (ops : List Op) {m : Manager}, m.pipelineRan = true →
    ∃ shutDown, (run ops m).result = { m with shutDown }
  | [], m, _ => ⟨m.shutDown, rfl⟩
  | op :: ops, m, h => by
    obtain ⟨stopped, hop⟩ := apply_of_pipelineRan h op
    have hrest : (run (op :: ops) m).result = (run ops (m.apply op).result).result := rfl
    rw [hrest, hop]
    exact run_of_pipelineRan ops (m := { m with shutDown := stopped }) h

/-- The pipeline always completes. On a fresh manager, as every one is until its pipeline runs (`sound_run`), it answers
with its report, and no container refuses a state to the loader, whatever plugins do; afterwards every plugin that was
taken in is loaded or failed and the manager tells so, and no later operation changes any of this. -/
theorem loadAll_completes {m : Manager} (h : m.Fresh) (root : FileTree) :
    let m' := (m.loadAll root).result.1
    (m.loadAll root).result.2 = .ok m'.report ∧
    (∀ id answer e, m.Asked root id answer → answer.result.2 = .error e → ∃ fault, e = .activationError id fault) ∧
    m'.containers.keys = m.containers.keys ∧ m'.Completed ∧
    ∀ ops : List Op, let later := (run ops m').result
      later.containers = m'.containers ∧ later.loadOrder = m'.loadOrder ∧ later.report = m'.report ∧
      ∀ c, later.addContainer c = .error .pipelineAlreadyRun := by
  intro m'
  refine ⟨?_, fun id answer e ha he => ?_, h.keys_loadAll root, h.completed root, fun ops => ?_⟩
  · simp only [m', h.loadAll_eq root]
  · obtain ⟨c, _, _, _, ⟨plugin, hok⟩ | ⟨fault, hfault⟩⟩ := h.answered ha
    · rw [hok] at he
      cases he
    · rw [hfault] at he
      exact ⟨fault, (Except.error.inj he).symm⟩
  · have hran : m'.pipelineRan = true := by simp only [m', h.loadAll_eq root]
    obtain ⟨stopped, hrun⟩ := run_of_pipelineRan ops hran
    intro later
    simp only [later, hrun]
    exact ⟨trivial, trivial, rfl, fun c => by simp [addContainer, hran]⟩

/-- A manager with four plugins: one does nothing, one refuses to start, one requires the latter, and one requires a
plugin that is not there. -/
def partlyFailing : Manager :=
  let add := fun (id : PluginId) (entryPoint : String) (dependencies : List Dependency) =>
    Op.add { id, version := "1.0.0", entryPoint, dependencies } none
  (run [add "a" idleEntryPoint [], add "b" failingEntryPoint [], add "c" idleEntryPoint [{ id := "b" }],
    add "d" idleEntryPoint [{ id := "x" }]]
    (new { registry := .builtin, api := { major := 1, minor := 0, patch := 0 } } [])).result

theorem fresh_partlyFailing : partlyFailing.Fresh :=
  ((sound_run _ [] _).fresh (by cbv)).1

/-- The first plugin is loaded, the others fail, and a shutdown changes nothing of it. -/
theorem partlyFailing_completes :
    let m := (partlyFailing.loadAll .empty).result.1
    (partlyFailing.loadAll .empty).result.2 = .ok m.report ∧ m.Completed ∧
    m.loadOrder = ["a"] ∧ m.failedPlugins.map Container.id = ["b", "c", "d"] ∧
    (run [.shutdown] m).result.report = m.report := by
  intro m
  obtain ⟨hok, _, _, hcompleted, hlater⟩ := loadAll_completes fresh_partlyFailing .empty
  refine ⟨hok, hcompleted, ?_, ?_, (hlater [.shutdown]).2.2.1⟩
  · rw [fresh_partlyFailing.loadOrder_loadAll]
    cbv
  · rw [failedPlugins, fresh_partlyFailing.containers_loadAll]
    cbv

end Manager
end PluginHost
