import PluginHost.Host.Basic
import PluginHost.Plugin.Builtin
import PluginHost.Proofs.Host.Run

/-!
# Which plugins are stopped

The first shutdown of a manager stops the plugins that were activated until then, each once, and no later shutdown stops
any (`stopped_run`). So a run that ends with a shutdown stops each plugin it activated if and only if it activated none
after its first shutdown.

A host starts at most once and hands the rest on to its manager, so that its runs are runs of the manager
(`Host.calls_run`).
-/

namespace PluginHost

/-- Every plugin that was activated was stopped once. -/
def Loader.Balanced (l : Loader) (calls : List Call) : Prop :=
  ∀ id ∈ l.activated calls, (stopped calls).count id = 1

variable {l : Loader} {calls first : List Call}

/-- Calls that stop what the first of them activated are balanced when nothing else was activated. -/
theorem Loader.balanced_iff (hn : (l.activated calls).Nodup) (hfirst : l.activated first <+: l.activated calls)
    (hstopped : stopped calls = (l.activated first).reverse) :
    l.Balanced calls ↔ l.activated calls = l.activated first := by
  obtain ⟨later, hlater⟩ := hfirst
  constructor
  · intro hb
    cases later with
    | nil => rw [← hlater, List.append_nil]
    | cons id later =>
      -- The first plugin that was activated later is not among those that were stopped.
      rw [← hlater] at hn
      have hno : id ∉ l.activated first := fun h =>
        (List.nodup_append.mp hn).2.2 id h id List.mem_cons_self rfl
      have hone : (stopped calls).count id = 1 := hb id (by rw [← hlater]; simp)
      rw [hstopped, List.count_reverse, List.count_eq_zero_of_not_mem hno] at hone
      cases hone
  · intro he id hid
    rw [hstopped, List.count_reverse, ← he]
    exact List.count_eq_one_of_mem hn hid

namespace Manager

variable {m : Manager}

theorem exists_first_shutdown : ∀ ops : List Op,
    ∃ rest, ops ++ [.shutdown] = ops.takeWhile (!·.isShutdown) ++ .shutdown :: rest
  | [] => ⟨[], rfl⟩
  | op :: ops => by
    cases hop : op.isShutdown with
    | true =>
      obtain rfl := Op.eq_shutdown hop
      exact ⟨ops ++ [.shutdown], by simp [hop]⟩
    | false =>
      obtain ⟨rest, hrest⟩ := exists_first_shutdown ops
      exact ⟨rest, by simp [hop, hrest]⟩

/-- Without a shutdown no plugin is stopped. -/
theorem Sound.proceeds_run : ∀ (ops : List Op) {calls : List Call} {m : Manager}, Sound l calls m →
    (∀ op ∈ ops, op.isShutdown = false) → Proceeds l calls m (Manager.run ops m).calls (Manager.run ops m).result
  | [], calls, m, h, _ => h.idle
  | op :: ops, calls, m, h, hops => by
    have hfirst := h.proceeds (hops op List.mem_cons_self)
    have hrest := Sound.proceeds_run ops hfirst.sound fun op h => hops op (List.mem_cons_of_mem _ h)
    refine ⟨h.run (op :: ops), hrest.shutDown.trans hfirst.shutDown, ?_⟩
    rw [calls_run_cons, stopped_append, hfirst.stopped, hrest.stopped]
    rfl

/-- A manager that was stopped stops no plugin any more. -/
theorem Sound.stopped_run_of_shutDown : ∀ (ops : List Op) {calls : List Call} {m : Manager}, Sound l calls m →
    m.shutDown = true → stopped (Manager.run ops m).calls = []
  | [], _, _, _, _ => rfl
  | op :: ops, calls, m, h, hs => by
    have hop : stopped (m.apply op).calls = [] ∧ (m.apply op).result.shutDown = true := by
      cases ho : op.isShutdown with
      | true =>
        obtain rfl := Op.eq_shutdown ho
        rw [Manager.apply, Traced.fst_map, shutdown_again hs]
        exact ⟨rfl, hs⟩
      | false =>
        have hp := h.proceeds ho
        exact ⟨hp.stopped, hp.shutDown.trans hs⟩
    rw [calls_run_cons, stopped_append, hop.1, Sound.stopped_run_of_shutDown ops (h.apply op) hop.2]
    rfl

theorem shutDown_shutdown (m : Manager) : m.shutdown.result.1.shutDown = true := by
  unfold shutdown
  split
  · assumption
  · rfl

/-- A run that ends with a shutdown stops the plugins that were activated before its first one, in reverse order. -/
theorem stopped_run (l : Loader) (disabled : List PluginId) (ops : List Op) :
    let all := run (ops ++ [.shutdown]) (new l disabled)
    let first := run (ops.takeWhile (!·.isShutdown)) (new l disabled)
    stopped all.calls = (l.activated first.calls).reverse ∧ l.activated first.calls <+: l.activated all.calls ∧
    (l.activated all.calls).Nodup := by
  intro all first
  have hnew : Sound l [] (new l disabled) := (fresh_new l disabled).sound rfl
  have hfirst : Proceeds l [] (new l disabled) first.calls first.result :=
    hnew.proceeds_run _ fun op hop => by simpa using List.all_eq_true.mp List.all_takeWhile op hop
  have hs : Sound l first.calls first.result := hfirst.sound
  obtain ⟨rest, hrest⟩ := exists_first_shutdown ops
  have hall : all.calls =
      first.calls ++ (first.result.shutdown.calls ++ (run rest first.result.shutdown.result.1).calls) := by
    simp only [all, hrest, run, Traced.steps_append, Traced.bind, Traced.steps, Manager.apply, Traced.fst_map]
    rfl
  refine ⟨?_, ?_, ?_⟩
  · rw [hall, stopped_append, stopped_append, hfirst.stopped, hs.stopped_shutdown hfirst.shutDown,
      hs.shutdown.stopped_run_of_shutDown rest (shutDown_shutdown _), hs.order]
    simp
  · rw [hall, Loader.activated_append]
    exact List.prefix_append _ _
  · have hsound := sound_run l disabled (ops ++ [.shutdown])
    rw [← hsound.order]
    exact hsound.nodup

end Manager

/-! ## Hosts -/

namespace Host

/-- What is done to a host. -/
inductive Op where
  | start (root : FileTree)
  | shutdown

/-- Whether an operation stops the host. -/
def Op.isShutdown : Op → Bool
  | shutdown => true
  | _ => false

/-- A host without plugins. -/
def new (config : Config) (l : Loader) (disabled : List PluginId) : Host := { config, manager := .new l disabled }

/-- What an operation makes of a host, whether it is an error or not. -/
def apply (h : Host) : Op → Traced Host
  | .start root => Prod.fst <$> h.start root
  | .shutdown => Prod.fst <$> h.shutdown

/-- What operations make of a host, one after the other. -/
def run (ops : List Op) (h : Host) : Traced Host := Traced.steps apply ops h

theorem create_eq_new {config : Config} {registry : Registry} {h : Host} (hc : create config registry = .ok h) :
    ∃ l, h = new config l config.disabled := by
  unfold create at hc
  split at hc
  · rename_i m hm
    obtain rfl := Except.ok.inj hc
    obtain ⟨l, rfl⟩ := Manager.ofConfig_eq_new hm
    exact ⟨l, rfl⟩
  · cases hc

/-- What the operations of a host do to its manager: only the first start counts. -/
def managerOps (dir : Path) : Bool → List Op → List Manager.Op
  | _, [] => []
  | true, .start _ :: ops => managerOps dir true ops
  | false, .start root :: ops => .loadDirectory root dir :: managerOps dir true ops
  | started, .shutdown :: ops => .shutdown :: managerOps dir started ops

theorem managerOps_concat (dir : Path) : ∀ (started : Bool) (ops : List Op),
    managerOps dir started (ops ++ [.shutdown]) = managerOps dir started ops ++ [.shutdown]
  | started, [] => by cases started <;> rfl
  | started, .start root :: ops => by cases started <;> simp [managerOps, managerOps_concat dir true ops]
  | started, .shutdown :: ops => by simp [managerOps, managerOps_concat dir started ops]

/-- What is done to a host before its first shutdown is done to its manager before the first shutdown. -/
theorem managerOps_takeWhile (dir : Path) : ∀ (started : Bool) (ops : List Op),
    managerOps dir started (ops.takeWhile (!·.isShutdown)) = (managerOps dir started ops).takeWhile (!·.isShutdown)
  | started, [] => by cases started <;> rfl
  | started, .start root :: ops => by
    have hstart : (Op.start root).isShutdown = false := rfl
    have hload : (Manager.Op.loadDirectory root dir).isShutdown = false := rfl
    cases started <;> simp [managerOps, hstart, hload, managerOps_takeWhile dir true ops]
  | started, .shutdown :: ops => by
    have hshutdown : Op.shutdown.isShutdown = true := rfl
    have hstop : Manager.Op.shutdown.isShutdown = true := rfl
    simp [managerOps, hshutdown, hstop]

variable {h : Host}

theorem apply_start (hs : h.started = false) (root : FileTree) :
    h.apply (.start root) =
      { calls := (h.manager.loadDirectory root h.config.pluginsDir).calls
        result := { h with
          started := true, manager := (h.manager.loadDirectory root h.config.pluginsDir).result.1 } } := by
  rw [apply, Traced.fst_map, start, if_neg (by simp [hs])]

theorem apply_shutdown (hs : h.stopped = false) : h.apply .shutdown =
    { calls := h.manager.shutdown.calls
      result := { h with stopped := true, manager := h.manager.shutdown.result.1 } } := by
  rw [apply, Traced.fst_map, shutdown, if_neg (by simp [hs])]

/-- A run of a host is a run of its manager. -/
theorem calls_run : ∀ (ops : List Op) {calls : List Call} {h : Host}, Manager.Sound l calls h.manager →
    (h.stopped = true → h.manager.shutDown = true) →
    (run ops h).calls = (Manager.run (managerOps h.config.pluginsDir h.started ops) h.manager).calls
  | [], _, h, _, _ => by
    simp [run, Manager.run, managerOps, Traced.steps, Traced.pure]
  | .start root :: ops, calls, h, hs, hstop => by
    show (h.apply (.start root)).calls ++ (run ops (h.apply (.start root)).result).calls = _
    cases hstarted : h.started with
    | true =>
      have hsame : h.apply (.start root) = .pure h := by
        rw [apply, start_again hstarted]
        rfl
      rw [hsame, managerOps, ← hstarted]
      exact calls_run ops hs hstop
    | false =>
      have hp := hs.loadDirectory root h.config.pluginsDir
      rw [apply_start hstarted, managerOps, Manager.run, Traced.steps, Manager.apply, Traced.fst_map]
      refine congrArg (h.manager.loadDirectory root h.config.pluginsDir).calls.append ?_
      exact calls_run ops hp.sound fun hstopped => hp.shutDown.trans (hstop hstopped)
  | .shutdown :: ops, calls, h, hs, hstop => by
    show (h.apply .shutdown).calls ++ (run ops (h.apply .shutdown).result).calls = _
    rw [managerOps, Manager.run, Traced.steps, Manager.apply, Traced.fst_map]
    cases hstopped : h.stopped with
    | true =>
      have hsame : h.apply .shutdown = .pure h := by
        rw [apply, shutdown, if_pos hstopped]
        rfl
      rw [hsame, Manager.shutdown_again (hstop hstopped)]
      exact calls_run ops hs hstop
    | false =>
      rw [apply_shutdown hstopped]
      refine congrArg h.manager.shutdown.calls.append ?_
      exact calls_run ops hs.shutdown fun _ => Manager.shutDown_shutdown h.manager

/-- A run that ends with a shutdown stops the plugins that were activated before its first one, in reverse order. -/
theorem stopped_run (config : Config) (l : Loader) (disabled : List PluginId) (ops : List Op) :
    let all := run (ops ++ [.shutdown]) (new config l disabled)
    let first := run (ops.takeWhile (!·.isShutdown)) (new config l disabled)
    PluginHost.stopped all.calls = (l.activated first.calls).reverse ∧
    l.activated first.calls <+: l.activated all.calls ∧ (l.activated all.calls).Nodup := by
  have hnew : Manager.Sound l [] (new config l disabled).manager := (Manager.fresh_new l disabled).sound rfl
  have hcalls : ∀ ops : List Op, (run ops (new config l disabled)).calls =
      (Manager.run (managerOps config.pluginsDir false ops) (.new l disabled)).calls :=
    fun ops => calls_run ops hnew fun h => by cases h
  have hops := Manager.stopped_run l disabled (managerOps config.pluginsDir false ops)
  rw [← managerOps_concat, ← managerOps_takeWhile] at hops
  simp only [hcalls]
  exact hops

end Host

/-- Who stops what. In a run that ends with a shutdown, of a manager as well as of a host, exactly the plugins that were
activated before the first shutdown are stopped, in reverse order; so each plugin that was activated is stopped once if
and only if none was activated later. -/
theorem balanced_run_iff (l : Loader) (disabled : List PluginId) :
    (∀ ops : List Manager.Op,
      let all := Manager.run (ops ++ [.shutdown]) (.new l disabled)
      let first := Manager.run (ops.takeWhile (!·.isShutdown)) (.new l disabled)
      stopped all.calls = (l.activated first.calls).reverse ∧
      (l.Balanced all.calls ↔ l.activated all.calls = l.activated first.calls)) ∧
    ∀ (config : Config) (ops : List Host.Op),
      let all := Host.run (ops ++ [.shutdown]) (.new config l disabled)
      let first := Host.run (ops.takeWhile (!·.isShutdown)) (.new config l disabled)
      stopped all.calls = (l.activated first.calls).reverse ∧
      (l.Balanced all.calls ↔ l.activated all.calls = l.activated first.calls) := by
  constructor
  · intro ops all first
    obtain ⟨hstopped, hprefix, hn⟩ := Manager.stopped_run l disabled ops
    exact ⟨hstopped, Loader.balanced_iff hn hprefix hstopped⟩
  · intro config ops all first
    obtain ⟨hstopped, hprefix, hn⟩ := Host.stopped_run config l disabled ops
    exact ⟨hstopped, Loader.balanced_iff hn hprefix hstopped⟩

-- A plugin that is loaded after a shutdown is stopped by none.
example :
    let l : Loader := { registry := .builtin, api := { major := 1, minor := 0, patch := 0 } }
    let manifest : Manifest := { id := "a", version := "1.0.0", entryPoint := idleEntryPoint }
    let t := Manager.run [.add manifest none, .shutdown, .loadAll .empty, .shutdown] (.new l [])
    l.activated t.calls = ["a"] ∧ stopped t.calls = [] := by
  constructor
  · cbv
  · cbv

end PluginHost
