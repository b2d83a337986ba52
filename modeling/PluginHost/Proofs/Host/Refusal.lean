import PluginHost.Proofs.Host.Run

/-!
# Refused operations

An operation is refused when it is answered with an error (`refusal?`). A manager refuses an operation before it changes
anything (`Sound.refused`): all that could be refused later, the container of a plugin refuses, and no container does so
in a run. So loading a directory is refused just when its discovery is (`Sound.refusal?_loadDirectory`).
-/

namespace PluginHost

/-- The error of an answer, if it is one. -/
def error? {ε α : Type} : Except ε α → Option ε
  | .ok _ => none
  | .error e => some e

theorem error?_eq_some_iff {ε α : Type} {x : Except ε α} {e : ε} : error? x = some e ↔ x = .error e := by
  cases x <;> simp [error?]

namespace Manager

variable {l : Loader} {calls : List Call} {m : Manager} {op : Op} {e : PluginError}

/-- The error that an operation is answered with, if it is one. Stopping answers with the errors of plugins, and is not
refused. -/
def refusal? (m : Manager) : Op → Option PluginError
  | .add manifest source => error? (m.addContainer { manifest, source })
  | .discover root dir => error? (m.discover root dir).2
  | .loadAll root => error? (m.loadAll root).result.2
  | .loadDirectory root dir => error? (m.loadDirectory root dir).result.2
  | .shutdown => none

/-- The pipeline of a manager is refused when it ran before, and for no other reason. -/
theorem Sound.refusal?_loadAll (h : Sound l calls m) (root : FileTree) :
    m.refusal? (.loadAll root) = if m.pipelineRan then some .pipelineAlreadyRun else none := by
  cases hp : m.pipelineRan with
  | true =>
    rw [refusal?, Manager.loadAll, if_pos hp]
    rfl
  | false =>
    obtain ⟨hfresh, _⟩ := h.fresh hp
    rw [refusal?, hfresh.loadAll_eq root]
    rfl

/-- The pipeline is not refused after a discovery that was not. -/
theorem Sound.refusal?_loadDirectory (h : Sound l calls m) (root : FileTree) (dir : Path) :
    m.refusal? (.loadDirectory root dir) = m.refusal? (.discover root dir) := by
  simp only [refusal?, loadDirectory_eq]
  cases hd : (m.discover root dir).2 with
  | error e => rfl
  | ok n =>
    have hp : m.pipelineRan = false := by
      by_contra hp
      rw [Bool.not_eq_false] at hp
      rw [Manager.discover, if_pos hp] at hd
      cases hd
    have hafter := (h.discover root dir).sound.refusal?_loadAll root
    have hpending := ((h.fresh hp).1.discover root dir).fresh.pending
    rwa [hpending] at hafter

/-- A refused operation changes nothing and calls no plugin. -/
theorem Sound.refused (h : Sound l calls m) (hop : m.refusal? op = some e) : m.apply op = .pure m := by
  cases op with
  | add manifest source =>
    rw [Manager.apply, error?_eq_some_iff.mp hop]
    rfl
  | discover root dir => rw [Manager.apply, discover_of_error (error?_eq_some_iff.mp hop)]
  | loadAll root =>
    rw [h.refusal?_loadAll] at hop
    cases hp : m.pipelineRan with
    | true => exact apply_eq_pure hp rfl
    | false =>
      rw [hp] at hop
      cases hop
  | loadDirectory root dir =>
    rw [h.refusal?_loadDirectory] at hop
    rw [Manager.apply, loadDirectory_eq, error?_eq_some_iff.mp hop]
    rfl
  | shutdown => cases hop

/-- In every run an operation that is answered with an error changes nothing and calls no plugin. The pipeline is
refused when it ran before and for no other reason, and loading a directory is refused just when its discovery is. -/
theorem run_refused (l : Loader) (disabled : List PluginId) (ops : List Op) :
    let m := (run ops (new l disabled)).result
    (∀ op e, m.refusal? op = some e → m.apply op = .pure m) ∧
    (∀ root, m.refusal? (.loadAll root) = if m.pipelineRan then some .pipelineAlreadyRun else none) ∧
    ∀ root dir, m.refusal? (.loadDirectory root dir) = m.refusal? (.discover root dir) := by
  intro m
  have h := sound_run l disabled ops
  exact ⟨fun op e hop => h.refused hop, h.refusal?_loadAll, h.refusal?_loadDirectory⟩

end Manager
end PluginHost
