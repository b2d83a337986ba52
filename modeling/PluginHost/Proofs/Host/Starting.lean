import PluginHost.Proofs.Host.Lifecycle

/-!
# Hosts that were started

A host takes note of its start before it looks for plugins. So it counts as started from the first start on, whatever
comes of it, while the pipeline of its manager runs only if the directory of plugins can be scanned then (`Tracks`,
kept by every operation). The two part when the first start finds something that is no directory: such a start leaves
the plugins alone and cannot be made up for (`run_started`).
-/

namespace PluginHost

/-- What a path leads to can be scanned for plugins: it is a directory, or there is nothing. -/
def Loader.Scannable (root : FileTree) (dir : Path) : Prop :=
  root.find dir = .error .notFound ∨ root.isDirectory dir = true

theorem Loader.scanDirectory_of_scannable {root : FileTree} {dir : Path} (h : Scannable root dir) :
    ∃ found, scanDirectory root dir = .ok found := by
  rcases h with hnone | hdir
  · exact ⟨{}, by simp only [scanDirectory, hnone]⟩
  · unfold FileTree.isDirectory at hdir
    split at hdir
    · rename_i entries hfind
      simp only [scanDirectory, hfind, FileTree.artifacts, FileTree.entries, bind, Except.bind, pure, Except.pure]
      exact ⟨_, rfl⟩
    · cases hdir

theorem Loader.scanDirectory_of_not_scannable {root : FileTree} {dir : Path} (h : ¬Scannable root dir) :
    ∃ fault, scanDirectory root dir = .error (.unreadableArtifact dir fault) := by
  obtain ⟨hfound, hdir⟩ := not_or.mp h
  cases hfind : root.find dir with
  | error fault =>
    have hfault : fault ≠ .notFound := fun he => hfound (he ▸ hfind)
    exact ⟨fault, by simp [scanDirectory, hfind]⟩
  | ok tree =>
    refine ⟨.notADirectory, ?_⟩
    have hentries : root.entries dir = .error .notADirectory := by
      cases tree with
      | directory entries => exact absurd (by simp [FileTree.isDirectory, hfind]) hdir
      | file bytes => simp only [FileTree.entries, hfind]
      | link target => simp only [FileTree.entries, hfind]
    simp [scanDirectory, hfind, FileTree.artifacts, hentries, bind, Except.bind]

namespace Manager

variable {m : Manager} {root : FileTree} {dir : Path}

/-- The pipeline of a fresh manager runs when the directory can be scanned. -/
theorem Fresh.loadDirectory_of_scannable (h : m.Fresh) (hs : Loader.Scannable root dir) :
    ∃ report, (m.loadDirectory root dir).result.2 = .ok report ∧
      (m.loadDirectory root dir).result.1.pipelineRan = true := by
  obtain ⟨found, hfound⟩ := Loader.scanDirectory_of_scannable hs
  obtain ⟨n, hn⟩ : ∃ n, (m.discover root dir).2 = .ok n := by simp [Manager.discover, h.pending, hfound]
  rw [loadDirectory_eq, hn, (h.discover root dir).fresh.loadAll_eq root]
  exact ⟨_, rfl, rfl⟩

/-- Otherwise nothing happens. -/
theorem Fresh.loadDirectory_of_not_scannable (h : m.Fresh) (hs : ¬Loader.Scannable root dir) :
    ∃ fault, m.loadDirectory root dir = .pure (m, .error (.unreadableArtifact dir fault)) := by
  obtain ⟨fault, hfault⟩ := Loader.scanDirectory_of_not_scannable hs
  have hd : (m.discover root dir).2 = .error (.unreadableArtifact dir fault) := by
    simp [Manager.discover, h.pending, hfault]
  exact ⟨fault, by rw [loadDirectory_eq, hd]⟩

end Manager

namespace Host

open Loader (Scannable)

/-- The files that a start finds. -/
def Op.start? : Op → Option FileTree
  | start root => some root
  | shutdown => none

/-- The files that the first of the starts finds. -/
def firstStart? (ops : List Op) : Option FileTree := ops.findSome? Op.start?

variable {l : Loader} {config : Config} {first : Option FileTree} {h : Host}

/-- What a host and its manager know of the first start. -/
structure Tracks (l : Loader) (config : Config) (first : Option FileTree) (h : Host) : Prop where
  settings : h.config = config
  sound : ∃ calls, Manager.Sound l calls h.manager
  started : h.started = first.isSome
  ran : h.manager.pipelineRan = true ↔ ∃ root, first = some root ∧ Scannable root config.pluginsDir

theorem tracks_new (config : Config) (l : Loader) (disabled : List PluginId) :
    Tracks l config none (new config l disabled) where
  settings := rfl
  sound := ⟨[], (Manager.fresh_new l disabled).sound rfl⟩
  started := rfl
  ran := by simp [new, Manager.new]

namespace Tracks

theorem pending (t : Tracks l config none h) : h.manager.Fresh := by
  obtain ⟨calls, hs⟩ := t.sound
  have hran : ¬h.manager.pipelineRan = true := fun hran => by
    obtain ⟨root, hroot, _⟩ := t.ran.mp hran
    cases hroot
  exact (hs.fresh (Bool.eq_false_of_not_eq_true hran)).1

/-- The first start. -/
theorem start (t : Tracks l config none h) (root : FileTree) :
    Tracks l config (some root) (h.apply (.start root)).result := by
  rw [apply_start t.started]
  obtain ⟨calls, hs⟩ := t.sound
  refine ⟨t.settings, ⟨_, (hs.loadDirectory root h.config.pluginsDir).sound⟩, rfl, ?_⟩
  rw [t.settings]
  by_cases hscan : Scannable root config.pluginsDir
  · obtain ⟨report, _, hran⟩ := t.pending.loadDirectory_of_scannable hscan
    simp [hran, hscan]
  · obtain ⟨fault, hl⟩ := t.pending.loadDirectory_of_not_scannable hscan
    simp [hl, hscan, Traced.pure, t.pending.pending]

theorem shutdown (t : Tracks l config first h) : Tracks l config first (h.apply .shutdown).result := by
  cases hstopped : h.stopped with
  | true =>
    have hsame : h.apply .shutdown = .pure h := by
      rw [apply, Host.shutdown, if_pos hstopped]
      rfl
    rw [hsame]
    exact t
  | false =>
    obtain ⟨calls, hs⟩ := t.sound
    have hran : h.manager.shutdown.result.1.pipelineRan = h.manager.pipelineRan := by
      unfold Manager.shutdown
      split <;> rfl
    rw [apply_shutdown hstopped]
    exact ⟨t.settings, ⟨_, hs.shutdown⟩, t.started, by rw [hran]; exact t.ran⟩

theorem apply (t : Tracks l config first h) (op : Op) : Tracks l config (first.or op.start?) (h.apply op).result := by
  cases op with
  | start root =>
    cases first with
    | none => exact t.start root
    | some given =>
      have hsame : h.apply (.start root) = .pure h := by
        rw [Host.apply, start_again t.started]
        rfl
      rw [hsame]
      exact t
  | shutdown => simpa [Op.start?] using t.shutdown

theorem run : ∀ (ops : List Op) {first : Option FileTree} {h : Host}, Tracks l config first h →
    Tracks l config (first.or (firstStart? ops)) (Host.run ops h).result
  | [], first, h, t => by simpa [firstStart?, Host.run, Traced.steps, Traced.pure] using t
  | op :: ops, first, h, t => by
    have hrest := run ops (t.apply op)
    have hfirst : firstStart? (op :: ops) = op.start?.or (firstStart? ops) := by
      cases op <;> rfl
    rw [Option.or_assoc, ← hfirst] at hrest
    exact hrest

end Tracks

theorem exists_firstStart?_iff {ops : List Op} :
    (∃ root, firstStart? ops = some root) ↔ ∃ root, .start root ∈ ops := by
  rw [← Option.isSome_iff_exists, firstStart?, List.findSome?_isSome_iff]
  constructor
  · rintro ⟨op, hop, hstart⟩
    cases op with
    | start root => exact ⟨root, hop⟩
    | shutdown => cases hstart
  · rintro ⟨root, hroot⟩
    exact ⟨.start root, hroot, rfl⟩

/-- Hosts and managers on having started. In every run a host counts as started once it was asked to start, and its
pipeline ran just when the first start could scan the directory; so the two agree if and only if no first start was
unable to. A start that is unable to leaves the manager as it was, but not the host: whatever is done to it afterwards,
the pipeline does not run, and every further start is refused. -/
theorem run_started (config : Config) (l : Loader) (disabled : List PluginId) (ops : List Op) :
    let h := (run ops (new config l disabled)).result
    (h.started = true ↔ ∃ root, .start root ∈ ops) ∧
    (h.manager.pipelineRan = true ↔ ∃ root, firstStart? ops = some root ∧ Scannable root config.pluginsDir) ∧
    ((h.started = true ↔ h.manager.pipelineRan = true) ↔
      ∀ root, firstStart? ops = some root → Scannable root config.pluginsDir) ∧
    ∀ root, h.started = false → ¬Scannable root config.pluginsDir →
      (∃ fault, h.start root =
        .pure ({ h with started := true }, .error (.plugins (.unreadableArtifact config.pluginsDir fault)))) ∧
      ∀ more, let later := (run more { h with started := true }).result
        later.manager.pipelineRan = false ∧ ∀ root, later.start root = .pure (later, .error .alreadyStarted) := by
  intro h
  have t : Tracks l config (firstStart? ops) h := by
    simpa using (tracks_new config l disabled).run ops
  have hstarted : h.started = true ↔ ∃ root, firstStart? ops = some root := by
    rw [t.started, Option.isSome_iff_exists]
  refine ⟨hstarted.trans exists_firstStart?_iff, t.ran, ?_, fun root hno hscan => ?_⟩
  · rw [hstarted, t.ran]
    constructor
    · intro hagree root hroot
      obtain ⟨root', hroot', hscan⟩ := hagree.mp ⟨root, hroot⟩
      rw [hroot] at hroot'
      exact Option.some.inj hroot' ▸ hscan
    · intro hscan
      exact ⟨fun ⟨root, hroot⟩ => ⟨root, hroot, hscan root hroot⟩, fun ⟨root, hroot, _⟩ => ⟨root, hroot⟩⟩
  · have hnone : firstStart? ops = none := by
      rw [← Option.not_isSome_iff_eq_none, ← t.started, hno]
      exact Bool.false_ne_true
    rw [hnone] at t
    obtain ⟨fault, hl⟩ := t.pending.loadDirectory_of_not_scannable hscan
    have hstart : h.start root =
        .pure ({ h with started := true }, .error (.plugins (.unreadableArtifact config.pluginsDir fault))) := by
      simp only [start, hno, Bool.false_eq_true, if_false, t.settings, hl]
      rfl
    refine ⟨⟨fault, hstart⟩, fun more => ?_⟩
    have hafter : Tracks l config (some root) { h with started := true } := by
      have hstep := t.start root
      rwa [Host.apply, hstart] at hstep
    have hmore := hafter.run more
    rw [Option.some_or] at hmore
    refine ⟨Bool.eq_false_of_not_eq_true fun hran => ?_, fun root' => start_again hmore.started root'⟩
    obtain ⟨given, hgiven, hgood⟩ := hmore.ran.mp hran
    exact hscan (Option.some.inj hgiven ▸ hgood)

end Host
end PluginHost
