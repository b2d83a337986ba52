import PluginHost.Proofs.Host.Propagation
import PluginHost.Proofs.Resolution.Explanation

/-!
# Dependency states and causes of failures

A manager works out the state of a dependency from its containers, and knows nothing of why the pipeline let a plugin
fail. Once the pipeline ran the two agree: every cause of a failure tells the state of a dependency (`Fresh.caused`), a
plugin that is loaded has all it requires, and what is present is loaded (`run_agrees`).

* `exists_loadAll_of_pipelineRan`: a manager whose pipeline ran is what loading made of a fresh one.
-/

namespace PluginHost.Manager

open Resolution (Accepted Declares Resolvable Explains Explained)

variable {m : Manager} {root : FileTree} {id : PluginId} {c : Container} {d : Dependency} {e : PluginError}

/-! ## What a state says -/

theorem dependencyState_of_find? {target : Container} (h : m.find? d.id = some target) : m.dependencyState d =
    if d.accepts target.version then if target.isFailed then .failed else .present else .incompatible := by
  rw [dependencyState, h]
  cases ha : d.accepts target.version <;> simp [ha]

theorem dependencyState_eq_missing_iff : m.dependencyState d = .missing ↔ m.find? d.id = none := by
  cases h : m.find? d.id with
  | none => simp [dependencyState, h]
  | some target =>
    rw [dependencyState_of_find? h]
    cases d.accepts target.version <;> cases target.isFailed <;> simp

theorem dependencyState_eq_incompatible_iff : m.dependencyState d = .incompatible ↔
    ∃ target, m.find? d.id = some target ∧ d.accepts target.version = false := by
  cases h : m.find? d.id with
  | none => simp [dependencyState, h]
  | some target =>
    rw [dependencyState_of_find? h]
    cases ha : d.accepts target.version <;> cases target.isFailed <;> simp [ha]

theorem dependencyState_eq_failed_iff : m.dependencyState d = .failed ↔
    Accepted m.find? d ∧ (m.findFailed? d.id).isSome = true := by
  cases h : m.find? d.id with
  | none => simp [dependencyState, Accepted, h]
  | some target =>
    rw [dependencyState_of_find? h, findFailed?, Accepted, h]
    cases ha : d.accepts target.version <;> cases hf : target.isFailed <;> simp [ha, hf]

theorem dependencyState_eq_present_iff : m.dependencyState d = .present ↔
    Accepted m.find? d ∧ m.findFailed? d.id = none := by
  cases h : m.find? d.id with
  | none => simp [dependencyState, Accepted, h]
  | some target =>
    rw [dependencyState_of_find? h, findFailed?, Accepted, h]
    cases ha : d.accepts target.version <;> cases hf : target.isFailed <;> simp [ha, hf]

/-- The cause of a failure tells the state of a dependency that the plugin requires; an activation fails when all of
them are present. -/
inductive Caused (m : Manager) (manifest : Manifest) : PluginError → Prop
  | missing {d : Dependency} (required : d ∈ manifest.requiredDependencies)
      (state : m.dependencyState d = .missing) : Caused m manifest (.missingDependency manifest.id d.id)
  | incompatible {d : Dependency} {requirement found : String} (required : d ∈ manifest.requiredDependencies)
      (state : m.dependencyState d = .incompatible) :
      Caused m manifest (.incompatibleDependency manifest.id d.id requirement found)
  | failed {d : Dependency} (required : d ∈ manifest.requiredDependencies)
      (state : m.dependencyState d = .failed) : Caused m manifest (.dependencyFailed manifest.id d.id)
  | cycle {d : Dependency} {rest : List PluginId} (required : d ∈ manifest.requiredDependencies)
      (state : m.dependencyState d = .failed) : Caused m manifest (.cycleDetected (manifest.id :: d.id :: rest))
  | activation {fault : ActivationFault}
      (present : ∀ d ∈ manifest.requiredDependencies, m.dependencyState d = .present) :
      Caused m manifest (.activationError manifest.id fault)

/-! ## Excluded plugins -/

theorem Fresh.accepted_loadAll_iff (h : m.Fresh) :
    Accepted (m.loadAll root).result.1.find? d ↔ Accepted m.containers.find? d := by
  obtain ⟨p, hp⟩ := h.find?_loadAll root
  simp only [Accepted, hp, Option.map_eq_some_iff]
  constructor
  · rintro ⟨_, ⟨target, ht, rfl⟩, ha⟩
    exact ⟨target, ht, ha⟩
  · rintro ⟨target, ht, ha⟩
    exact ⟨_, ⟨target, ht, rfl⟩, ha⟩

theorem Fresh.dependencyState_failed (h : m.Fresh) (ha : Accepted m.containers.find? d)
    (hfailed : ((m.loadAll root).result.1.findFailed? d.id).isSome = true) :
    (m.loadAll root).result.1.dependencyState d = .failed :=
  dependencyState_eq_failed_iff.mpr ⟨h.accepted_loadAll_iff.mpr ha, hfailed⟩

theorem Fresh.explains (h : m.Fresh) : Explains m.containers m.resolution.excluded := by
  have hknown : Resolution.knownOf m.containers.values = m.containers := by
    refine IdMap.ext_find? fun id => ?_
    rw [Resolution.find?_knownOf, latest?_values h.keyed]
  have hexplains := Resolution.explains_ofContainers m.containers.values
  rwa [hknown] at hexplains

/-- An excluded plugin that another one relies on is a failed dependency of it. -/
theorem Fresh.failed_of_relies (h : m.Fresh) (root : FileTree) (hc : m.containers.find? id = some c) {y : PluginId}
    (hrelies : (Resolution.survey m.containers).graph.Requires id y) (hy : y ∈ m.resolution.excluded.keys) :
    ∃ d ∈ c.manifest.requiredDependencies, d.id = y ∧ (m.loadAll root).result.1.dependencyState d = .failed := by
  obtain ⟨d, ⟨c', hc', hdc⟩, rfl, ha, hr⟩ := Resolution.requires_survey_iff.mp hrelies
  obtain rfl := Option.some.inj (hc.symm.trans hc')
  obtain ⟨cause, he⟩ := IdMap.mem_keys_iff.mp hy
  obtain ⟨target, _, ht⟩ := h.find?_of_excluded root he
  have hfailed := Manager.findFailed?_iff.mpr ⟨_, ht, rfl⟩
  exact ⟨d, Resolution.mem_requiredDependencies.mpr ⟨hdc, hr⟩, rfl, h.dependencyState_failed ha hfailed⟩

/-- The cause of an exclusion tells the state of a dependency. -/
theorem Fresh.caused_of_excluded (h : m.Fresh) (root : FileTree) (hc : m.containers.find? id = some c)
    (he : m.resolution.excluded.find? id = some e) : Caused (m.loadAll root).result.1 c.manifest e := by
  obtain rfl : c.manifest.id = id := h.keyed id c hc
  have hexplains := h.explains
  cases hexplains.explained _ _ he with
  | rejected found =>
    obtain ⟨d, ⟨c', before, after, hc', hdc, ⟨hr, _⟩, _⟩, hrej⟩ := Resolution.firstRejected_of_find?_causes found
    obtain rfl := Option.some.inj (hc.symm.trans hc')
    have hd : d ∈ c.manifest.requiredDependencies := Resolution.mem_requiredDependencies.mpr ⟨by simp [hdc], hr⟩
    obtain ⟨p, hp⟩ := h.find?_loadAll root
    cases hrej with
    | missing absent =>
      refine .missing hd (dependencyState_eq_missing_iff.mpr ?_)
      rw [hp, absent, Option.map_none]
    | @incompatible target present refused =>
      have hfound : (m.loadAll root).result.1.find? d.id = some { target with progress := p d.id } := by
        rw [hp, present, Option.map_some]
      exact .incompatible hd (dependencyState_eq_incompatible_iff.mpr ⟨_, hfound, refused⟩)
  | @cycle mid fit cycle members =>
    -- The plugin that the first one requires is on the cycle, so that it is excluded, too.
    obtain ⟨y, rest, hrest⟩ : ∃ y rest, mid ++ [c.manifest.id] = y :: rest := List.exists_cons_of_ne_nil (by simp)
    have hy : y ∈ m.resolution.excluded.keys := by
      have hmem : y ∈ mid ++ [c.manifest.id] := by simp [hrest]
      rcases List.mem_append.mp hmem with hmid | hfirst
      · obtain ⟨path, hpath⟩ := members y hmid
        exact IdMap.mem_keys_iff.mpr ⟨_, hpath⟩
      · rw [List.mem_singleton.mp hfirst]
        exact IdMap.mem_keys_iff.mpr ⟨_, he⟩
    have hchain := (isCycle_closed_iff.mp cycle).2
    rw [List.cons_append, hrest] at hchain ⊢
    obtain ⟨d, hd, rfl, hstate⟩ := h.failed_of_relies root hc (List.isChain_cons_cons.mp hchain).1 hy
    exact .cycle hd hstate
  | @handed y fit requires =>
    have hgrounded := hexplains.grounded c.manifest.id (IdMap.mem_keys_iff.mpr ⟨_, he⟩)
    obtain ⟨d, hd, rfl, hstate⟩ := h.failed_of_relies root hc requires (hgrounded.of_blames he).mem_keys
    exact .failed hd hstate

/-! ## Plugins of the order -/

/-- A plugin of the order fails on account of a dependency that failed, or all it requires is present. -/
theorem Fresh.caused_of_mem_order (h : m.Fresh) (root : FileTree) (hid : id ∈ m.resolution.order)
    (hc : (m.loadAll root).result.1.find? id = some c) (he : c.failure? = some e) :
    Caused (m.loadAll root).result.1 c.manifest e := by
  obtain ⟨c₀, h₀, hmanifest⟩ := h.manifest_eq root hc
  obtain rfl : c₀.manifest.id = id := h.keyed id c₀ h₀
  have hresolvable : Resolvable m.containers.find? c₀.manifest.id := h.resolved.mem_order_iff.mp hid
  have haccepted : ∀ d ∈ c₀.manifest.requiredDependencies, Accepted m.containers.find? d := fun d hd =>
    hresolvable.accepted_of_mem h₀ hd
  cases hf : (m.loadAll root).result.1.firstFailed? c₀.manifest with
  | some d =>
    have hd : d ∈ c₀.manifest.requiredDependencies := List.mem_of_find?_eq_some hf
    have hfailed := List.find?_some hf
    obtain rfl := Option.some.inj (hc.symm.trans (h.find?_of_failed_dependency root hid h₀ hf))
    obtain rfl := Option.some.inj he
    exact .failed hd (h.dependencyState_failed (haccepted d hd) hfailed)
  | none =>
    have hfailed : ((m.loadAll root).result.1.findFailed? c₀.manifest.id).isSome = true :=
      Manager.findFailed?_iff.mpr ⟨c, hc, Container.isSome_failure?_iff.mp (by rw [he]; rfl)⟩
    obtain ⟨_, fault, hfound⟩ := h.refused_of_isFailed hid h₀ hf hfailed
    obtain rfl := Option.some.inj (hc.symm.trans hfound)
    obtain rfl := Option.some.inj he
    refine .activation fun d hd => dependencyState_eq_present_iff.mpr ⟨h.accepted_loadAll_iff.mpr (haccepted d hd), ?_⟩
    simpa using List.find?_eq_none.mp hf d hd

/-- The cause of every failure agrees with the states of the dependencies. -/
theorem Fresh.caused (h : m.Fresh) (root : FileTree) (hc : (m.loadAll root).result.1.find? id = some c)
    (he : c.failure? = some e) : Caused (m.loadAll root).result.1 c.manifest e := by
  obtain ⟨c₀, h₀, hmanifest⟩ := h.manifest_eq root hc
  rcases h.mem_order_or_excluded h₀ with hid | ⟨cause, hcause⟩
  · exact h.caused_of_mem_order root hid hc he
  · obtain ⟨_, _, hfound⟩ := h.find?_of_excluded root hcause
    obtain rfl := Option.some.inj (hc.symm.trans hfound)
    obtain rfl := Option.some.inj he
    rw [hmanifest]
    exact h.caused_of_excluded root h₀ hcause

/-! ## All plugins -/

/-- What the dependency states of a plugin tell agrees with what became of it. -/
structure Agrees (m : Manager) (c : Container) : Prop where
  /-- What is present is loaded, whether it is required or not. -/
  present : ∀ d ∈ c.dependencies, m.dependencyState d = .present → m.isLoaded d.id = true
  loaded : c.isLoaded = true → ∀ d ∈ c.manifest.requiredDependencies, m.dependencyState d = .present
  activation : c.isFailed = true → ((∃ plugin fault, c.failure? = some (.activationError plugin fault)) ↔
    ∀ d ∈ c.manifest.requiredDependencies, m.dependencyState d = .present)
  missing : ∀ plugin y, c.failure? = some (.missingDependency plugin y) →
    ∃ d ∈ c.manifest.requiredDependencies, d.id = y ∧ m.dependencyState d = .missing
  incompatible : ∀ plugin y requirement found,
    c.failure? = some (.incompatibleDependency plugin y requirement found) →
      ∃ d ∈ c.manifest.requiredDependencies, d.id = y ∧ m.dependencyState d = .incompatible
  failed : ∀ plugin y, c.failure? = some (.dependencyFailed plugin y) →
    ∃ d ∈ c.manifest.requiredDependencies, d.id = y ∧ m.dependencyState d = .failed
  cycle : ∀ path, c.failure? = some (.cycleDetected path) → ∃ y rest, path = c.id :: y :: rest ∧
    ∃ d ∈ c.manifest.requiredDependencies, d.id = y ∧ m.dependencyState d = .failed

/-- A plugin whose required dependencies are all present failed in its activation, if at all. -/
theorem Caused.activation_iff {manifest : Manifest} (h : Caused m manifest e) :
    (∃ plugin fault, e = .activationError plugin fault) ↔
      ∀ d ∈ manifest.requiredDependencies, m.dependencyState d = .present := by
  have hno : ∀ d ∈ manifest.requiredDependencies, m.dependencyState d ≠ .present →
      ¬∀ d ∈ manifest.requiredDependencies, m.dependencyState d = .present := fun d hd hne hall => hne (hall d hd)
  cases h with
  | missing required state => simpa using hno _ required (by simp [state])
  | incompatible required state => simpa using hno _ required (by simp [state])
  | failed required state => simpa using hno _ required (by simp [state])
  | cycle required state => simpa using hno _ required (by simp [state])
  | @activation fault present => exact iff_of_true ⟨_, fault, rfl⟩ present

theorem Fresh.agrees (h : m.Fresh) (root : FileTree) (hc : (m.loadAll root).result.1.find? id = some c) :
    Agrees (m.loadAll root).result.1 c := by
  have hs := h.sound_loadAll root
  have hcompleted := h.completed root
  have hcaused : ∀ e, c.failure? = some e → Caused (m.loadAll root).result.1 c.manifest e := fun e he =>
    h.caused root hc he
  generalize (m.loadAll root).result.1 = m' at hs hcompleted hcaused hc
  refine ⟨fun d _ hd => ?_, fun hl d hd => ?_, fun hf => ?_, fun p y he => ?_, fun p y r f he => ?_, fun p y he => ?_,
    fun path he => ?_⟩
  · obtain ⟨⟨target, ht, _⟩, hnone⟩ := dependencyState_eq_present_iff.mp hd
    exact (hcompleted.isLoaded_iff_isNone ht).mpr (by rw [hnone]; rfl)
  · obtain ⟨ha, hbefore⟩ := hs.safe id c hc ((hs.loaded id c hc).mp hl) d hd
    have ⟨target, ht, _⟩ := ha
    have hloaded := (hcompleted.loadOrder d.id).mp hbefore.left_mem
    have hnone := (hcompleted.isLoaded_iff_isNone ht).mp hloaded
    exact dependencyState_eq_present_iff.mpr ⟨ha, Option.isNone_iff_eq_none.mp hnone⟩
  · obtain ⟨e, he⟩ := Option.isSome_iff_exists.mp (Container.isSome_failure?_iff.mpr hf)
    rw [← (hcaused e he).activation_iff, he]
    simp
  · cases hcaused _ he with
    | missing required state => exact ⟨_, required, rfl, state⟩
  · cases hcaused _ he with
    | incompatible required state => exact ⟨_, required, rfl, state⟩
  · cases hcaused _ he with
    | failed required state => exact ⟨_, required, rfl, state⟩
  · cases hcaused _ he with
    | cycle required state => exact ⟨_, _, rfl, _, required, rfl, state⟩

/-! ## Runs -/

/-- A manager whose pipeline ran is what loading made of a fresh one, apart from whether it was stopped. -/
theorem Fresh.exists_loadAll_of_pipelineRan : ∀ (ops : List Op) {m : Manager}, m.Fresh →
    (run ops m).result.pipelineRan = true →
    ∃ (m' : Manager) (root : FileTree) (shutDown : Bool), m'.Fresh ∧
      (run ops m).result = { (m'.loadAll root).result.1 with shutDown }
  | [], m, h, hran => by
    have hpending : m.pipelineRan = false := h.pending
    rw [show (run [] m).result = m from rfl, hpending] at hran
    cases hran
  | op :: ops, m, h, hran => by
    have hrest : (run (op :: ops) m).result = (run ops (m.apply op).result).result := rfl
    rw [hrest] at hran ⊢
    rcases h.apply_cases op with ⟨_, hfresh⟩ | ⟨m', root, hfresh, hloads⟩
    · exact Fresh.exists_loadAll_of_pipelineRan ops hfresh hran
    · have hran' : (m.apply op).result.pipelineRan = true := by
        rw [hloads, hfresh.loadAll_eq root]
      obtain ⟨shutDown, hlater⟩ := run_of_pipelineRan ops hran'
      exact ⟨m', root, shutDown, hfresh, by rw [hlater, hloads]⟩

/-- Once the pipeline ran in a run, the states of the dependencies agree with what became of the plugins: what is
present is loaded, a plugin that is loaded has all it requires, a plugin that failed has all it requires just when its
activation failed, and any other cause of a failure tells the state of a dependency that the plugin requires. -/
theorem run_agrees {l : Loader} {disabled : List PluginId} {ops : List Op}
    (h : (run ops (new l disabled)).result.pipelineRan = true) :
    let m := (run ops (new l disabled)).result
    ∀ id c, m.find? id = some c →
      m.dependencyStates id = .ok (c.dependencies.map fun d => (d, m.dependencyState d)) ∧ m.Agrees c := by
  intro m id c hc
  refine ⟨by rw [dependencyStates, get, hc]; rfl, ?_⟩
  obtain ⟨m₀, root, shutDown, hfresh, hm⟩ := (fresh_new l disabled).exists_loadAll_of_pipelineRan ops h
  have hc₀ : (m₀.loadAll root).result.1.find? id = some c := by
    simp only [m, hm] at hc
    exact hc
  have hagrees := hfresh.agrees root hc₀
  simp only [m, hm]
  exact ⟨hagrees.present, hagrees.loaded, hagrees.activation, hagrees.missing, hagrees.incompatible, hagrees.failed,
    hagrees.cycle⟩

/-- Of the plugins that fail one fails on account of another one, whose state is told to be failed. -/
theorem run_agrees_behind_failure :
    let add := fun (id : PluginId) (entryPoint : String) (dependencies : List Dependency) =>
      Op.add { id, version := "1.0.0", entryPoint, dependencies } none
    let m := (run [add "a" idleEntryPoint [], add "b" failingEntryPoint [], add "c" idleEntryPoint [{ id := "b" }],
      add "d" idleEntryPoint [{ id := "x" }], .loadAll .empty]
      (new { registry := .builtin, api := { major := 1, minor := 0, patch := 0 } } [])).result
    m.pipelineRan = true ∧ ∃ c, m.find? "c" = some c ∧ m.Agrees c ∧
      c.failure? = some (.dependencyFailed "c" "b") ∧
      ∃ d ∈ c.manifest.requiredDependencies, d.id = "b" ∧ m.dependencyState d = .failed := by
  intro add m
  have hm : m = (partlyFailing.loadAll .empty).result.1 := rfl
  have hran : m.pipelineRan = true := by rw [hm, fresh_partlyFailing.loadAll_eq]
  have hfailure : (m.find? "c").bind Container.failure? = some (.dependencyFailed "c" "b") := by
    rw [hm, find?, fresh_partlyFailing.containers_loadAll]
    cbv
  obtain ⟨c, hc, hf⟩ := Option.bind_eq_some_iff.mp hfailure
  obtain ⟨_, hagrees⟩ := run_agrees hran "c" c hc
  exact ⟨hran, c, hc, hagrees, hf, hagrees.failed "c" "b" hf⟩

end PluginHost.Manager
