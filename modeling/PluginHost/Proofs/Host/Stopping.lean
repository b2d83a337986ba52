import PluginHost.Proofs.Host.Lifecycle

/-!
# One activation and one stop

In every run a plugin is activated at most once and stopped at most once, which is after it was activated (`OnceOnly`,
which every operation keeps: `OnceOnly.apply`). The first shutdown stops the loaded plugins in reverse order, whatever
becomes of each, and those after it do nothing (`run_stops_once`).

* The pipeline asks each plugin of its order at most once (`attempted_activateAll`), and it runs at most once.
* What is stopped is what the load order has, and that is what was activated.
-/

namespace PluginHost

/-- The plugin that a call asks to be activated, whatever comes of it. -/
def Call.attempts? : Call → Option PluginId
  | .activate attempt => some attempt.manifest.id
  | _ => none

/-- The plugins that calls ask to be activated, in this order. -/
def attempted (calls : List Call) : List PluginId := calls.filterMap Call.attempts?

/-- Why a plugin could not be stopped, from how its code ended. -/
def Outcome.fault? : Outcome → Option DeactivationFault
  | .done => none
  | .refused message => some (.refused message)
  | .panicked payload => some (.panicked payload)

/-- Only plugins are stopped that were activated before. -/
def Loader.Warranted (l : Loader) (calls : List Call) : Prop :=
  ∀ before manifest after, calls = before ++ .deactivate manifest :: after → manifest.id ∈ l.activated before

variable {l : Loader} {root : FileTree} {calls more : List Call} {c c' : Container} {id : PluginId}

@[simp] theorem attempted_append : attempted (calls ++ more) = attempted calls ++ attempted more :=
  List.filterMap_append

theorem attempted_of_quiet (h : Loader.Quiet calls) : attempted calls = [] := by
  refine List.filterMap_eq_nil_iff.mpr fun call hcall => ?_
  cases call with
  | activate attempt => exact absurd rfl (h _ hcall attempt)
  | create manifest => rfl
  | deactivate manifest => rfl

theorem mem_stopped {manifest : Manifest} (h : .deactivate manifest ∈ calls) : manifest.id ∈ stopped calls :=
  List.mem_filterMap.mpr ⟨_, h, rfl⟩

theorem Loader.warranted_nil (l : Loader) : l.Warranted [] := by
  intro before manifest after h
  simp at h

/-- Calls that stop plugins that were activated before may follow. -/
theorem Loader.Warranted.append (h : l.Warranted calls) (hmore : ∀ id ∈ stopped more, id ∈ l.activated calls) :
    l.Warranted (calls ++ more) := by
  intro before manifest after he
  -- The plugin is stopped by one of the calls that follow, or by one of the first.
  rcases List.append_eq_append_iff.mp he with ⟨mid, rfl, hmid⟩ | ⟨mid, hcalls, hmid⟩
  · rw [Loader.activated_append]
    refine List.mem_append_left _ (hmore manifest.id (mem_stopped ?_))
    simp [hmid]
  · cases mid with
    | nil =>
      obtain rfl : more = .deactivate manifest :: after := hmid.symm
      rw [List.append_nil] at hcalls
      exact hcalls ▸ hmore manifest.id (mem_stopped List.mem_cons_self)
    | cons call mid =>
      obtain ⟨rfl, rfl⟩ := List.cons.inj hmid
      exact h before manifest mid hcalls

/-! ## Activations -/

theorem Container.id_advance {next : Progress} (h : c.advance next = .ok c') : c'.id = c.id := by
  unfold advance at h
  split at h
  · obtain rfl := Except.ok.inj h
    rfl
  · cases h

/-- A loader leaves a container with its id. -/
theorem Loader.id_load (l : Loader) (root : FileTree) (c : Container) (loaded : List PluginId) :
    (l.load root c loaded).result.1.id = c.id := by
  by_cases hstate : c.state = .resolving
  · rw [load_of_resolving root hstate]
    cases (l.activate root c loaded).result <;> rfl
  · rw [load_of_not_resolving hstate]
    rfl

/-- A loader asks the plugin of a container at most once, and no other one. -/
theorem Loader.attempted_load (l : Loader) (root : FileTree) (c : Container) (loaded : List PluginId) :
    (attempted (l.load root c loaded).calls).Sublist [c.id] := by
  by_cases hstate : c.state = .resolving
  · rw [calls_load root hstate]
    rcases l.activate_cases root c loaded with ⟨plugin, _, ha⟩ | ⟨calls, cause, hv, ha⟩
    · rw [ha]
      exact .refl _
    · rw [ha]
      cases hv with
      | none => exact List.nil_sublist _
      | create => exact List.nil_sublist _
      | activate _ => exact .refl _
  · rw [load_of_not_resolving hstate]
    exact List.nil_sublist _

namespace Manager

variable {s : Loading} {m : Manager}

/-- At its turn a plugin is asked at most once, and no other one; containers stay under their ids. -/
theorem attempted_activateNext (l : Loader) (root : FileTree) (id : PluginId) (h : Keyed s.containers) :
    (attempted (activateNext l root id s).calls).Sublist [id] ∧
    Keyed (activateNext l root id s).result.1.containers := by
  unfold activateNext
  split
  · exact ⟨List.nil_sublist _, h⟩
  · rename_i c hc
    have hid : c.id = id := h id c hc
    split
    · split
      · exact ⟨List.nil_sublist _, h.insert ((Container.id_advance ‹_›).trans hid)⟩
      · exact ⟨List.nil_sublist _, h⟩
    · refine ⟨hid ▸ l.attempted_load root c _, ?_⟩
      have hload : (l.load root c s.active.keys).result.1.id = id := (l.id_load root c _).trans hid
      simp only [Loading.finish]
      split <;> exact h.insert hload

/-- The plugins of an order are asked at most once, in this order. -/
theorem attempted_activateAll (l : Loader) (root : FileTree) : ∀ (order : List PluginId) {s : Loading},
    Keyed s.containers → (attempted (activateAll l root order s).calls).Sublist order
  | [], _, _ => .slnil
  | id :: order, s, h => by
    obtain ⟨hfirst, hkeyed⟩ := attempted_activateNext l root id h
    rw [activateAll]
    dsimp only
    split
    · -- A container that refuses ends the order here.
      simpa using hfirst.append (List.nil_sublist order)
    · rw [attempted_append]
      exact hfirst.append (attempted_activateAll l root order hkeyed)

theorem Fresh.attempted_loadAll (h : m.Fresh) (root : FileTree) : (attempted (m.loadAll root).calls).Nodup := by
  have hkeyed : Keyed m.begun.containers := by
    rw [h.begun_eq]
    exact h.keyed.progressed _
  rw [h.loadAll_eq root]
  exact (attempted_activateAll _ root _ hkeyed).nodup h.resolved.nodup_order

/-- An operation on a fresh manager asks each plugin at most once. -/
theorem Fresh.attempted_apply (h : m.Fresh) (op : Op) : (attempted (m.apply op).calls).Nodup := by
  rcases h.apply_cases op with ⟨hcalls, _⟩ | ⟨m', root, hfresh, hloads⟩
  · rw [hcalls]
    exact List.nodup_nil
  · rw [hloads]
    exact hfresh.attempted_loadAll root

/-! ## What holds in every run -/

/-- Each plugin was asked at most once to be activated, and stopped at most once, after it was activated. -/
structure OnceOnly (l : Loader) (calls : List Call) (m : Manager) : Prop extends Sound l calls m where
  attempted : (attempted calls).Nodup
  stopped : (stopped calls).Nodup
  warranted : l.Warranted calls

theorem onceOnly_new (l : Loader) (disabled : List PluginId) : OnceOnly l [] (new l disabled) where
  toSound := (fresh_new l disabled).sound rfl
  attempted := List.nodup_nil
  stopped := List.nodup_nil
  warranted := l.warranted_nil

namespace OnceOnly

/-- Plugins are asked by the pipeline only, and before it no plugin was. -/
theorem proceeds (h : OnceOnly l calls m) {op : Op} (hop : op.isShutdown = false) :
    OnceOnly l (calls ++ (m.apply op).calls) (m.apply op).result := by
  have hp := h.toSound.proceeds hop
  refine ⟨hp.sound, ?_, ?_, h.warranted.append ?_⟩
  · -- Once the pipeline ran nothing is called any more, and before it nothing was.
    cases hran : m.pipelineRan with
    | true =>
      rw [apply_eq_pure hran hop]
      simpa [Traced.pure] using h.attempted
    | false =>
      obtain ⟨hfresh, rfl⟩ := h.fresh hran
      exact hfresh.attempted_apply op
  · rw [stopped_append, hp.stopped, List.append_nil]
    exact h.stopped
  · simp [hp.stopped]

/-- The first shutdown stops what was activated, and before it no plugin was stopped. -/
theorem shutdown (h : OnceOnly l calls m) : OnceOnly l (calls ++ m.shutdown.calls) m.shutdown.result.1 := by
  cases hs : m.shutDown with
  | true =>
    rw [shutdown_again hs]
    simpa [Traced.pure] using h
  | false =>
    have hstopped : PluginHost.stopped m.shutdown.calls = (l.activated calls).reverse := by
      rw [h.toSound.stopped_shutdown hs, h.order]
    have hquiet : Loader.Quiet m.shutdown.calls := by
      rw [Manager.shutdown, if_neg (by simp [hs])]
      exact quiet_stopAll _ _
    refine ⟨h.toSound.shutdown, ?_, ?_, h.warranted.append fun id hid => ?_⟩
    · rw [attempted_append, attempted_of_quiet hquiet, List.append_nil]
      exact h.attempted
    · rw [stopped_append, h.running hs, hstopped, List.nil_append, List.nodup_reverse, ← h.order]
      exact h.nodup
    · rw [hstopped] at hid
      exact List.mem_reverse.mp hid

theorem apply (h : OnceOnly l calls m) (op : Op) : OnceOnly l (calls ++ (m.apply op).calls) (m.apply op).result :=
  apply_keeps h.proceeds h.shutdown op

theorem run (ops : List Op) (h : OnceOnly l calls m) :
    OnceOnly l (calls ++ (Manager.run ops m).calls) (Manager.run ops m).result :=
  run_keeps apply ops h

end OnceOnly

theorem Sound.shutDown_apply (h : Sound l calls m) (op : Op) :
    (m.apply op).result.shutDown = (m.shutDown || op.isShutdown) := by
  cases hop : op.isShutdown with
  | true =>
    obtain rfl := Op.eq_shutdown hop
    rw [Manager.apply, Traced.fst_map, Bool.or_true]
    exact shutDown_shutdown m
  | false => rw [(h.proceeds hop).shutDown, Bool.or_false]

/-- A manager is stopped after a run when it was before, or the run has a shutdown. -/
theorem Sound.shutDown_run : ∀ (ops : List Op) {calls : List Call} {m : Manager}, Sound l calls m →
    (Manager.run ops m).result.shutDown = (m.shutDown || ops.any Op.isShutdown)
  | [], _, m, _ => (Bool.or_false _).symm
  | op :: ops, calls, m, h => by
    rw [List.any_cons, ← Bool.or_assoc, ← h.shutDown_apply op]
    exact Sound.shutDown_run ops (h.apply op)

/-! ## The first shutdown -/

/-- What is told of a plugin that could not be stopped. -/
def stopError? (cs : Containers) (id : PluginId) : Option PluginError :=
  ((cs.find? id).bind Container.plugin?).bind fun plugin => plugin.deactivate.fault?.map (.deactivationError id)

theorem result_stop (cs : Containers) (id : PluginId) : (stop cs id).result = stopError? cs id := by
  unfold stop stopError?
  cases cs.find? id with
  | none => rfl
  | some c =>
    dsimp only [Option.bind_some]
    cases c.plugin? with
    | none => rfl
    | some plugin =>
      dsimp only [Option.bind_some]
      cases plugin.deactivate <;> rfl

theorem result_stopAll (cs : Containers) :
    ∀ ids : List PluginId, (stopAll cs ids).result = ids.filterMap (stopError? cs)
  | [] => rfl
  | id :: ids => by
    rw [stopAll, result_stopAll cs ids, result_stop, List.filterMap_cons]
    cases stopError? cs id <;> rfl

/-- What stopping a manager for the first time should come to. -/
structure OrderlyStop (m : Manager) (t : Traced (Manager × List PluginError)) : Prop where
  /-- No plugin code is called but what stops the plugins of the load order. -/
  calls : ∀ call ∈ t.calls, ∃ id ∈ m.loadOrder, ∃ c, m.containers.find? id = some c ∧ call = .deactivate c.manifest
  /-- Each of them is stopped, the last one first, whatever becomes of those before. -/
  stopped : stopped t.calls = m.loadOrder.reverse
  /-- A plugin is stopped before all that it requires. -/
  dependents : ∀ id c, m.containers.find? id = some c → c.isLoaded = true → ∀ d ∈ c.manifest.requiredDependencies,
    Precedes (PluginHost.stopped t.calls) id d.id
  /-- Every failure is told, in the order of the calls. -/
  errors : t.result.2 = m.loadOrder.reverse.filterMap (stopError? m.containers)
  unchanged : t.result.1 = { m with shutDown := true }
  report : t.result.1.report = m.report

theorem Sound.orderlyStop (h : Sound l calls m) (hs : m.shutDown = false) : m.OrderlyStop m.shutdown := by
  have hstopped := h.stopped_shutdown hs
  have heq : m.shutdown =
      let t := stopAll m.containers m.loadOrder.reverse
      { calls := t.calls, result := ({ m with shutDown := true }, t.result) } := by
    rw [Manager.shutdown, if_neg (by simp [hs])]
  refine ⟨fun call hcall => ?_, hstopped, fun id c hc hl d hd => ?_, ?_, ?_, ?_⟩
  · rw [heq] at hcall
    obtain ⟨id, hid, hc⟩ := exists_of_mem_calls_stopAll hcall
    exact ⟨id, List.mem_reverse.mp hid, hc⟩
  · rw [hstopped]
    exact (h.safe id c hc ((h.loaded id c hc).mp hl) d hd).2.reverse
  · rw [heq]
    exact result_stopAll _ _
  · rw [heq]
  · rw [heq]
    rfl

/-- Once only. In every run each plugin is asked at most once to be activated and is stopped at most once, after it was
activated. The first shutdown stops the loaded plugins in reverse order, goes on after every failure and tells it, and
changes nothing else; every later one calls nothing, tells nothing and changes nothing. -/
theorem run_stops_once (l : Loader) (disabled : List PluginId) (ops : List Op) :
    let t := run ops (new l disabled)
    ((attempted t.calls).Nodup ∧ (stopped t.calls).Nodup ∧ l.Warranted t.calls) ∧
    (ops.any Op.isShutdown = false → t.result.OrderlyStop t.result.shutdown) ∧
    (ops.any Op.isShutdown = true → t.result.shutdown = .pure (t.result, [])) := by
  intro t
  have h : OnceOnly l t.calls t.result := (onceOnly_new l disabled).run ops
  have hs : t.result.shutDown = ops.any Op.isShutdown := (onceOnly_new l disabled).toSound.shutDown_run ops
  refine ⟨⟨h.attempted, h.stopped, h.warranted⟩, fun hno => ?_, fun hany => ?_⟩
  · exact h.toSound.orderlyStop (hs.trans hno)
  · exact shutdown_again (hs.trans hany)

-- One plugin that requires another one, neither of which lets itself be stopped.
example :
    let stubborn : Factory := fun manifest =>
      .ok { activate := fun _ => { outcome := .done }, deactivate := .refused manifest.name }
    let l : Loader :=
      { registry := { factories := .ofList [("stubborn", stubborn)] }, api := { major := 1, minor := 0, patch := 0 } }
    let a : Manifest := { id := "a", name := "A", version := "1.0.0", entryPoint := "stubborn" }
    let b : Manifest :=
      { id := "b", name := "B", version := "1.0.0", entryPoint := "stubborn", dependencies := [{ id := "a" }] }
    let m := (run [.add b none, .add a none, .loadAll .empty] (new l [])).result
    m.loadOrder = ["a", "b"] ∧
      m.shutdown.result.2 = [.deactivationError "b" (.refused "B"), .deactivationError "a" (.refused "A")] := by
  constructor
  · cbv
  · cbv

end Manager
end PluginHost
