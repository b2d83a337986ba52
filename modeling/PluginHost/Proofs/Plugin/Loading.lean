import PluginHost.Plugin.Loader
import PluginHost.Proofs.Ordered.IdMap
import PluginHost.Proofs.Plugin.Building

/-!
# Loading one container

What comes of loading a container, told without the loader: the plugin comes up (`Loader.ComesUp`), or there is one
cause for which it does not (`Loader.Fails`). The registry has its part in this, and so has the plugin with the time it
takes (`Loader.Thwarts`).

* `Loader.load_settles`: the container ends up loaded with the plugin that came up, or failed with the cause that is
  answered; a plugin is asked only when it was built, and its factory only when the host is one it works with. A factory
  that panics takes the loader down with it (`Loader.Panics`), and nothing else does.
-/

namespace PluginHost

variable {root : FileTree} {c : Container} {plugin : Plugin} {cause : ActivationFault}

namespace Loader

variable {l : Loader} {loaded : List PluginId}

/-! ## Activating -/

/-- An activation ends within a limit, if there is one. -/
def InTime (limit : Option Nat) (a : Activation) : Prop := ∀ n, limit = some n → a.duration ≤ n

/-- Why an activation comes to nothing. -/
inductive Thwarts (limit : Option Nat) (a : Activation) : ActivationFault → Prop
  | late {n : Nat} : limit = some n → n < a.duration → Thwarts limit a (.timedOut n)
  | refused {message : String} : InTime limit a → a.outcome = .refused message → Thwarts limit a (.refused message)
  | panicked {payload : Payload} : InTime limit a → a.outcome = .panicked payload →
      Thwarts limit a (.panicked payload)

variable {limit : Option Nat} {a : Activation}

theorem judge_of_inTime (h : InTime limit a) : judge limit a = judge none a := by
  cases limit with
  | none => rfl
  | some n => simp only [judge, if_neg (Nat.not_lt.mpr (h n rfl))]

theorem judge_of_done (hdone : a.outcome = .done) (htime : InTime limit a) : judge limit a = .ok () := by
  rw [judge_of_inTime htime]
  simp only [judge, judge.finish, hdone]

theorem judge_of_thwarts (h : Thwarts limit a cause) : judge limit a = .error cause := by
  cases h with
  | late hlimit hlate =>
    subst hlimit
    simp only [judge, if_pos hlate]
  | refused htime hrefused =>
    rw [judge_of_inTime htime]
    simp only [judge, judge.finish, hrefused]
  | panicked htime hpanicked =>
    rw [judge_of_inTime htime]
    simp only [judge, judge.finish, hpanicked]

theorem done_or_thwarts (limit : Option Nat) (a : Activation) :
    (a.outcome = .done ∧ InTime limit a) ∨ ∃ cause, Thwarts limit a cause := by
  by_cases htime : InTime limit a
  · cases houtcome : a.outcome with
    | done => exact Or.inl ⟨rfl, htime⟩
    | refused message => exact Or.inr ⟨_, .refused htime houtcome⟩
    | panicked payload => exact Or.inr ⟨_, .panicked htime houtcome⟩
  · obtain ⟨n, hlimit, hlate⟩ : ∃ n, limit = some n ∧ n < a.duration := by simpa [InTime] using htime
    exact Or.inr ⟨_, .late hlimit hlate⟩

/-- The host is one that the container works with, its plugin is built, and it is activated in time. -/
structure ComesUp (l : Loader) (root : FileTree) (c : Container) (loaded : List PluginId) (plugin : Plugin) : Prop where
  supported : c.manifest.supportsApi l.api = true
  built : l.registry.Builds root c plugin
  done : (plugin.activate (l.contextOf c loaded)).outcome = .done
  inTime : InTime l.limit (plugin.activate (l.contextOf c loaded))

/-- Why the plugin of a container does not come up. -/
inductive Fails (l : Loader) (root : FileTree) (c : Container) (loaded : List PluginId) : ActivationFault → Prop
  | unsupported : c.manifest.supportsApi l.api = false →
      Fails l root c loaded (.apiUnsupported l.api (c.manifest.apiVersions.map (·.text)))
  | unbuilt {cause : ActivationFault} : c.manifest.supportsApi l.api = true → l.registry.Refuses root c cause →
      Fails l root c loaded cause
  | thwarted {plugin : Plugin} {cause : ActivationFault} : c.manifest.supportsApi l.api = true →
      l.registry.Builds root c plugin → Thwarts l.limit (plugin.activate (l.contextOf c loaded)) cause →
      Fails l root c loaded cause

theorem comesUp_or_fails (l : Loader) (root : FileTree) (c : Container) (loaded : List PluginId) :
    (∃ plugin, l.ComesUp root c loaded plugin) ∨ ∃ cause, l.Fails root c loaded cause := by
  cases hsupported : c.manifest.supportsApi l.api with
  | false => exact Or.inr ⟨_, .unsupported hsupported⟩
  | true =>
    rcases l.registry.builds_or_refuses root c with ⟨plugin, hbuilt⟩ | ⟨cause, hrefused⟩
    · rcases done_or_thwarts l.limit (plugin.activate (l.contextOf c loaded)) with ⟨hdone, htime⟩ | ⟨cause, hcause⟩
      · exact Or.inl ⟨plugin, hsupported, hbuilt, hdone, htime⟩
      · exact Or.inr ⟨cause, .thwarted hsupported hbuilt hcause⟩
    · exact Or.inr ⟨cause, .unbuilt hsupported hrefused⟩

theorem activate_of_unsupported (h : c.manifest.supportsApi l.api = false) : l.activate root c loaded =
    .pure (.error (.apiUnsupported l.api (c.manifest.apiVersions.map (·.text)))) := by
  simp only [activate, activateWith, h, Bool.not_false, if_true]
  rfl

theorem activate_of_supported (h : c.manifest.supportsApi l.api = true) : l.activate root c loaded =
    l.registry.instantiate root c >>= fun
      | .error e => pure (.error (causeOf e))
      | .ok plugin => { calls := [.activate ⟨l.contextOf c loaded, plugin⟩]
                        result := (judge l.limit (plugin.activate (l.contextOf c loaded))).map fun _ => plugin } := by
  simp only [activate, activateWith, h, Bool.not_true, Bool.false_eq_true, if_false]
  rfl

theorem activate_of_builds (hsupported : c.manifest.supportsApi l.api = true)
    (hbuilt : l.registry.Builds root c plugin) : l.activate root c loaded =
      { calls := [.create c.manifest, .activate ⟨l.contextOf c loaded, plugin⟩]
        result := (judge l.limit (plugin.activate (l.contextOf c loaded))).map fun _ => plugin } := by
  rw [activate_of_supported hsupported, Registry.instantiate_eq, Registry.build_of_builds hbuilt]
  rfl

/-- The cause of the registry is told as it is, and not as the message of its error. -/
theorem activate_of_refuses (hsupported : c.manifest.supportsApi l.api = true)
    (hrefused : l.registry.Refuses root c cause) :
    l.activate root c loaded = { calls := (l.registry.build root c).calls, result := .error cause } := by
  rw [activate_of_supported hsupported, Registry.instantiate_eq, Registry.result_build_of_refuses hrefused]
  simp [Except.mapError, causeOf]

theorem activate_of_comesUp (h : l.ComesUp root c loaded plugin) : l.activate root c loaded =
    { calls := [.create c.manifest, .activate ⟨l.contextOf c loaded, plugin⟩], result := .ok plugin } := by
  rw [activate_of_builds h.supported h.built, judge_of_done h.done h.inTime]
  rfl

theorem activate_of_fails (h : l.Fails root c loaded cause) : (l.activate root c loaded).result = .error cause := by
  cases h with
  | unsupported hno =>
    rw [activate_of_unsupported hno]
    rfl
  | unbuilt hsupported hrefused => rw [activate_of_refuses hsupported hrefused]
  | thwarted hsupported hbuilt hcause =>
    rw [activate_of_builds hsupported hbuilt, judge_of_thwarts hcause]
    rfl

theorem ComesUp.unique {other : Plugin} (h : l.ComesUp root c loaded plugin) (h' : l.ComesUp root c loaded other) :
    plugin = other :=
  Except.ok.inj (congrArg Traced.result ((activate_of_comesUp h).symm.trans (activate_of_comesUp h')))

theorem ComesUp.not_fails (h : l.ComesUp root c loaded plugin) : ¬l.Fails root c loaded cause := by
  intro hfails
  have hresult := activate_of_fails hfails
  rw [activate_of_comesUp h] at hresult
  cases hresult

theorem Fails.unique {other : ActivationFault} (h : l.Fails root c loaded cause) (h' : l.Fails root c loaded other) :
    cause = other :=
  Except.error.inj ((activate_of_fails h).symm.trans (activate_of_fails h'))

/-- What is called: the factory when the host is supported, and the plugin that was built. -/
theorem calls_activate (l : Loader) (root : FileTree) (c : Container) (loaded : List PluginId) :
    (c.manifest.supportsApi l.api = false → (l.activate root c loaded).calls = []) ∧
    ((l.activate root c loaded).calls <+: [.create c.manifest] ∨ ∃ plugin, l.registry.Builds root c plugin ∧
      (l.activate root c loaded).calls = [.create c.manifest, .activate ⟨l.contextOf c loaded, plugin⟩]) := by
  cases hsupported : c.manifest.supportsApi l.api with
  | false =>
    rw [activate_of_unsupported hsupported]
    exact ⟨fun _ => rfl, Or.inl List.nil_prefix⟩
  | true =>
    refine ⟨nofun, ?_⟩
    rcases l.registry.builds_or_refuses root c with ⟨plugin, hbuilt⟩ | ⟨cause, hrefused⟩
    · exact Or.inr ⟨plugin, hbuilt, by rw [activate_of_builds hsupported hbuilt]⟩
    · rw [activate_of_refuses hsupported hrefused]
      exact Or.inl (l.registry.calls_build_prefix root c)

/-! ## Loading -/

theorem load_of_resolving (root : FileTree) (hstate : c.state = .resolving) (loaded : List PluginId) :
    l.load root c loaded = { calls := (l.activate root c loaded).calls
                             result := match (l.activate root c loaded).result with
                               | .ok plugin => ({ c with progress := .loaded plugin }, .ok ())
                               | .error cause => ({ c with progress := .failed (.activationError c.id cause) },
                                   .error (.activationError c.id cause)) } := by
  have hgo : ¬c.state ≠ .resolving := fun h => h hstate
  rw [load, loadWith, if_neg hgo, ← activate, Traced.bind_eq]
  cases hresult : (l.activate root c loaded).result <;>
    simp [Container.markLoaded, Container.markFailed, Container.advance, hstate, Progress.state,
      PluginState.canBecome]

theorem load_of_comesUp (hstate : c.state = .resolving) (h : l.ComesUp root c loaded plugin) :
    (l.load root c loaded).result = ({ c with progress := .loaded plugin }, .ok ()) := by
  rw [load_of_resolving root hstate, activate_of_comesUp h]

theorem load_of_fails (hstate : c.state = .resolving) (h : l.Fails root c loaded cause) :
    (l.load root c loaded).result =
      ({ c with progress := .failed (.activationError c.id cause) }, .error (.activationError c.id cause)) := by
  simp only [load_of_resolving root hstate, activate_of_fails h]

/-- What comes of a container that is about to be resolved. -/
structure Settles (l : Loader) (root : FileTree) (c : Container) (loaded : List PluginId)
    (t : Traced (Container × Except PluginError Unit)) : Prop where
  succeeds : t.result.2 = .ok () ↔ ∃ plugin, l.ComesUp root c loaded plugin
  isLoaded : t.result.1.isLoaded = true ↔ t.result.2 = .ok ()
  /-- A loaded container has the very plugin that came up. -/
  plugin : ∀ plugin, t.result.1.plugin? = some plugin ↔ l.ComesUp root c loaded plugin
  /-- A container that is not loaded failed for what is answered, and has no plugin. -/
  failure : ∀ e, t.result.2 = .error e →
    t.result.1.isFailed = true ∧ t.result.1.failure? = some e ∧ t.result.1.plugin? = none
  cause : ∀ e, t.result.2 = .error e ↔ ∃ cause, e = .activationError c.id cause ∧ l.Fails root c loaded cause
  /-- The error of the registry is passed on as it is. -/
  passed : ∀ e, c.manifest.supportsApi l.api = true → (l.registry.instantiate root c).result = .error e →
    t.result.2 = .error e
  /-- No cause is the message of another error. -/
  unrendered : ∀ message, t.result.2 ≠ .error (.activationError c.id (.other message))
  kept : t.result.1.manifest = c.manifest ∧ t.result.1.source = c.source
  /-- The factory is called at most, and then the plugin that was built. -/
  calls : t.calls <+: [.create c.manifest] ∨ ∃ plugin, l.registry.Builds root c plugin ∧
    t.calls = [.create c.manifest, .activate ⟨l.contextOf c loaded, plugin⟩]
  /-- No factory is called when the container does not work with the host. -/
  uncalled : c.manifest.supportsApi l.api = false → t.calls = []

theorem Fails.ne_other (h : l.Fails root c loaded cause) (message : String) : cause ≠ .other message := by
  rintro rfl
  cases h with
  | unbuilt _ hrefused => cases hrefused
  | thwarted _ _ hcause => cases hcause

/-- Loading calls what activating does. -/
theorem calls_load (root : FileTree) (hstate : c.state = .resolving) (loaded : List PluginId) :
    (l.load root c loaded).calls = (l.activate root c loaded).calls := by
  rw [load_of_resolving root hstate]

theorem ComesUp.settles (hstate : c.state = .resolving) (h : l.ComesUp root c loaded plugin) :
    l.Settles root c loaded (l.load root c loaded) := by
  obtain ⟨huncalled, hcalls⟩ := calls_activate l root c loaded
  rw [← calls_load root hstate loaded] at huncalled hcalls
  have hresult := load_of_comesUp hstate h
  refine ⟨?succeeds, ?isLoaded, ?plugin, ?failure, ?cause, ?passed, ?unrendered, ?kept, hcalls, huncalled⟩
  case succeeds =>
    rw [hresult]
    exact iff_of_true rfl ⟨plugin, h⟩
  case isLoaded =>
    rw [hresult]
    exact iff_of_true rfl rfl
  case plugin =>
    intro other
    rw [hresult]
    exact ⟨fun hother => Option.some.inj hother ▸ h, fun hother => congrArg some (h.unique hother)⟩
  case failure =>
    rw [hresult]
    exact nofun
  case cause =>
    intro e
    rw [hresult]
    exact iff_of_false nofun fun ⟨_, _, hfails⟩ => h.not_fails hfails
  case passed =>
    intro e hsupported he
    obtain ⟨_, _, hrefused⟩ := Registry.refuses_of_instantiate he
    exact absurd (.unbuilt hsupported hrefused) h.not_fails
  case unrendered =>
    rw [hresult]
    exact nofun
  case kept =>
    rw [hresult]
    exact ⟨rfl, rfl⟩

theorem Fails.settles (hstate : c.state = .resolving) (h : l.Fails root c loaded cause) :
    l.Settles root c loaded (l.load root c loaded) := by
  obtain ⟨huncalled, hcalls⟩ := calls_activate l root c loaded
  rw [← calls_load root hstate loaded] at huncalled hcalls
  have hresult := load_of_fails hstate h
  refine ⟨?succeeds, ?isLoaded, ?plugin, ?failure, ?cause, ?passed, ?unrendered, ?kept, hcalls, huncalled⟩
  case succeeds =>
    rw [hresult]
    exact iff_of_false nofun fun ⟨_, hplugin⟩ => hplugin.not_fails h
  case isLoaded =>
    rw [hresult]
    exact iff_of_false nofun nofun
  case plugin =>
    intro plugin
    rw [hresult]
    exact iff_of_false nofun fun hplugin => hplugin.not_fails h
  case failure =>
    intro e he
    rw [hresult] at he ⊢
    obtain rfl := Except.error.inj he
    exact ⟨rfl, rfl, rfl⟩
  case cause =>
    intro e
    rw [hresult]
    constructor
    · intro he
      exact ⟨cause, (Except.error.inj he).symm, h⟩
    · rintro ⟨other, rfl, hother⟩
      rw [h.unique hother]
  case passed =>
    intro e hsupported he
    obtain ⟨other, rfl, hrefused⟩ := Registry.refuses_of_instantiate he
    rw [hresult, h.unique (.unbuilt hsupported hrefused)]
  case unrendered =>
    intro message he
    rw [hresult] at he
    exact h.ne_other message (PluginError.activationError.inj (Except.error.inj he)).2
  case kept =>
    rw [hresult]
    exact ⟨rfl, rfl⟩

end Loader

/-! ## Factories that panic -/

theorem Registry.buildWith_liftM (answer? : Option (Traced (Except String Plugin))) (linker : Linker)
    (root : FileTree) (c : Container) :
    (buildWith (answer?.map liftM) linker root c : Fragile _) = liftM (buildWith answer? linker root c) := by
  unfold buildWith
  cases answer? with
  | some answer => simp only [Option.map_some, liftM_bind]; rfl
  | none =>
    simp only [Option.map_none]
    split
    · rfl
    · rfl

theorem Registry.instantiateWith_liftM (built : Traced (Except ActivationFault Plugin)) (c : Container) :
    (instantiateWith (liftM built) c : Fragile _) = liftM (instantiateWith built c) := by
  unfold instantiateWith
  rw [liftM_bind]
  rfl

namespace Loader

variable {l : Loader} {loaded : List PluginId} {factories : IdMap FragileFactory} {payload : Payload}

theorem activateWith_liftM (instantiated : Traced (Except PluginError Plugin)) :
    (l.activateWith (liftM instantiated) c loaded : Fragile _) = liftM (l.activateWith instantiated c loaded) := by
  unfold activateWith
  split
  · rfl
  · rw [liftM_bind]
    refine congrArg _ (funext fun made => ?_)
    cases made <;> rfl

theorem loadWith_liftM (instantiated : Traced (Except PluginError Plugin)) :
    (l.loadWith (liftM instantiated) c loaded : Fragile _) = liftM (l.loadWith instantiated c loaded) := by
  unfold loadWith
  split
  · rfl
  · rw [activateWith_liftM, liftM_bind]
    refine congrArg _ (funext fun made => ?_)
    cases made with
    | ok plugin => simp only; split <;> rfl
    | error cause => simp only; split <;> rfl

/-- A factory panics that is called to load a container: the container is about to be resolved, and works with the
host. -/
structure Panics (l : Loader) (factories : IdMap FragileFactory) (c : Container) (payload : Payload) : Prop where
  resolving : c.state = .resolving
  supported : c.manifest.supportsApi l.api = true
  panics : ∃ factory, factories.find? c.manifest.entryPoint = some factory ∧ factory c.manifest = .error payload

/-- A factory whose panics are taken for errors. -/
def guard (factory : FragileFactory) : Factory := fun manifest =>
  match factory manifest with
  | .ok answer => answer
  | .error payload => .error payload.text

/-- A loader with such factories in place of its own. -/
def guarded (l : Loader) (factories : IdMap FragileFactory) : Loader :=
  { l with registry := { l.registry with factories := factories.mapValues fun _ factory => guard factory } }

/-- A panic of the factory is all that comes of loading. -/
theorem Panics.loadFragile (h : l.Panics factories c payload) (root : FileTree) (loaded : List PluginId) :
    (l.loadFragile factories root c loaded).run = { calls := [.create c.manifest], result := .error payload } := by
  obtain ⟨factory, hfind, hpanics⟩ := h.panics
  have hgo : ¬c.state ≠ .resolving := fun hne => hne h.resolving
  simp only [Loader.loadFragile, loadWith, if_neg hgo, activateWith, h.supported, hfind, hpanics, Option.map_some,
    Bool.not_true, Bool.false_eq_true, if_false]
  rfl

/-- The registry is not asked for a container that is not about to be resolved, or does not work with the host. -/
theorem loadWith_of_unasked (h : ¬(c.state = .resolving ∧ c.manifest.supportsApi l.api = true))
    (made made' : Fragile (Except PluginError Plugin)) : l.loadWith made c loaded = l.loadWith made' c loaded := by
  by_cases hstate : c.state = .resolving
  · have hno : c.manifest.supportsApi l.api = false := Bool.eq_false_iff.mpr fun hyes => h ⟨hstate, hyes⟩
    simp only [loadWith, activateWith, hno, Bool.not_false, if_true]
  · simp only [loadWith, if_pos hstate]

/-- When no factory panics that is called, loading comes to its end. -/
theorem loadFragile_of_not_panics (h : ∀ payload, ¬l.Panics factories c payload) (root : FileTree)
    (loaded : List PluginId) :
    l.loadFragile factories root c loaded = liftM ((l.guarded factories).load root c loaded) := by
  have hload : liftM ((l.guarded factories).load root c loaded) =
      l.loadWith (liftM ((l.guarded factories).registry.instantiate root c) : Fragile _) c loaded :=
    (loadWith_liftM (l := l.guarded factories) _).symm
  rw [hload]
  by_cases hasked : c.state = .resolving ∧ c.manifest.supportsApi l.api = true
  · rw [Loader.loadFragile, Registry.instantiate, Registry.build, ← Registry.instantiateWith_liftM,
      ← Registry.buildWith_liftM]
    congr 3
    simp only [guarded, IdMap.find?_mapValues, Option.map_map]
    cases hfind : factories.find? c.manifest.entryPoint with
    | none => rfl
    | some factory =>
      cases hanswer : factory c.manifest with
      | ok answer =>
        simp only [Option.map_some, hanswer, guard, Function.comp_apply]
        rfl
      | error payload => exact absurd ⟨hasked.1, hasked.2, factory, hfind, hanswer⟩ (h payload)
  · exact loadWith_of_unasked hasked _ _

/-- A loader settles a container that is about to be resolved, and leaves any other alone without calling a plugin. Only
a factory that panics keeps it from that: nothing but the factory has been called then, and there is no answer. -/
theorem load_settles (l : Loader) (root : FileTree) (c : Container) (loaded : List PluginId) :
    (c.state ≠ .resolving →
      l.load root c loaded = .pure (c, .error (.invalidStateTransition c.id c.state .loaded))) ∧
    (c.state = .resolving → l.Settles root c loaded (l.load root c loaded)) ∧
    ∀ factories : IdMap FragileFactory,
      (∀ payload, l.Panics factories c payload →
        (l.loadFragile factories root c loaded).run = { calls := [.create c.manifest], result := .error payload }) ∧
      ((∀ payload, ¬l.Panics factories c payload) →
        l.loadFragile factories root c loaded = liftM ((l.guarded factories).load root c loaded)) := by
  refine ⟨load_of_not_resolving, fun hstate => ?_, fun factories =>
    ⟨fun payload h => h.loadFragile root loaded, fun h => loadFragile_of_not_panics h root loaded⟩⟩
  rcases comesUp_or_fails l root c loaded with ⟨plugin, h⟩ | ⟨cause, h⟩
  · exact h.settles hstate
  · exact h.settles hstate

end Loader
end PluginHost
