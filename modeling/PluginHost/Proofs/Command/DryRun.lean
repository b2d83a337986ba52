import PluginHost.Command.Basic
import PluginHost.Proofs.Host.Completion
import PluginHost.Proofs.Host.Lifecycle
import PluginHost.Proofs.Manifest.RoundTrip

/-!
# The dry run

Telling the load order and loading read the same files, and only loading runs plugins. So the dry run fails with an
error exactly when loading does, and otherwise foretells what comes of it, whatever plugins do (`run_foretells`). This
is said of what the two print (`Printed`), line by line.

* `Fresh.foretold`: loading only takes plugins off the order, and tells the causes of exclusion as they were.
* `start_of_create`: a host starts with what the discovery of the dry run leaves, or fails as it does.
-/

namespace PluginHost

namespace Command

/-- What the dry run and loading print: the first four parts are those of the dry run, the others those of loading,
which also repeats the errors of discovery. Every cause is a text. -/
structure Printed where
  discoveryErrors : List String
  order : List PluginId
  /-- The optional dependencies that are not there, each after the plugin that has it. -/
  absent : List (PluginId × PluginId)
  excluded : List (PluginId × String)
  loaded : List PluginId
  failed : List (PluginId × String)
  stopErrors : List String

namespace Printed

/-- Lines under a heading, which is left out when there are none. -/
def headed (heading : String) (lines : List String) : List String :=
  if lines = [] then [] else heading :: lines

/-- The end of the dry run: the order is numbered, and nothing may be excluded. -/
def planned (p : Printed) : Outcome where
  code := if p.excluded = [] ∧ p.discoveryErrors = [] then 0 else 2
  lines := p.discoveryErrors.map ("warning: " ++ ·)
    ++ "Load order:" :: p.order.mapIdx (fun i id => s!"  {i + 1}. {id}")
    ++ p.absent.map (fun (plugin, dependency) =>
      "note: optional dependency '" ++ dependency ++ "' of '" ++ plugin ++ "' is not present")
    ++ headed "Excluded:" (p.excluded.map fun (id, cause) => "  " ++ id ++ ": " ++ cause)

/-- The end of loading: nothing may have failed, in stopping neither. -/
def told (p : Printed) : Outcome where
  code := if p.failed = [] ∧ p.discoveryErrors = [] ∧ p.stopErrors = [] then 0 else 2
  lines := s!"Loaded {p.loaded.length} plugin(s)" :: p.loaded.map ("  + " ++ ·)
    ++ headed s!"Failed {p.failed.length} plugin(s)" (p.failed.map fun (id, cause) => "  - " ++ id ++ ": " ++ cause)
    ++ headed s!"{p.discoveryErrors.length} discovery error(s)" (p.discoveryErrors.map ("  ! " ++ ·))
    ++ p.stopErrors.map ("warning: " ++ ·)

/-- The dry run foretells loading: the loaded plugins stand in its order, the plugins that it excludes have failed for
the same cause, and any other that failed is in its order. -/
structure Foretold (p : Printed) : Prop where
  loaded : p.loaded.Sublist p.order
  excluded : ∀ e ∈ p.excluded, e ∈ p.failed
  failed : ∀ id ∈ p.failed.map Prod.fst, id ∉ p.excluded.map Prod.fst → id ∈ p.order

/-- What is to be printed of a manager after discovery and after loading. -/
def of (found loaded : Manager) : Printed :=
  let r := Resolution.ofContainers found.plugins
  { discoveryErrors := found.discoveryErrors.map (·.message)
    order := r.order
    absent := r.absentOptional
    excluded := r.excluded.entries.map fun (id, cause) => (id, cause.message)
    loaded := loaded.loadOrder
    failed := loaded.failedPlugins.map fun c => (c.id, (c.failure?.map (·.message)).getD "")
    stopErrors := loaded.shutdown.result.2.map (·.message) }

variable {found loaded : Manager}

theorem headed_eq_ite {α : Type} {items : List α} (heading : String) (line : α → String) :
    headed heading (items.map line) = if items.isEmpty then [] else heading :: items.map line := by
  cases items <;> rfl

theorem planned_of (found loaded : Manager) : (of found loaded).planned =
    .done (found.resolution.isComplete && found.discoveryErrors.isEmpty)
      (found.discoveryErrors.map warning ++ plan found.resolution) := by
  have hwell : ((of found loaded).excluded = [] ∧ (of found loaded).discoveryErrors = []) ↔
      (found.resolution.isComplete && found.discoveryErrors.isEmpty) = true := by
    simp [of, Resolution.isComplete, IdMap.isEmpty, Manager.plugins]
  simp only [planned, Outcome.done, Outcome.mk.injEq]
  refine ⟨if_congr hwell rfl rfl, ?_⟩
  simp only [of, headed_eq_ite, plan, Resolution.isComplete, IdMap.isEmpty, List.map_map, List.mapIdx_eq_zipIdx_map,
    List.append_assoc, List.cons_append, List.nil_append]
  rfl

theorem told_of (h : loaded.discoveryErrors = found.discoveryErrors) : (of found loaded).told =
    .done (loaded.report.isClean && loaded.shutdown.result.2.isEmpty)
      (loaded.report.lines ++ loaded.shutdown.result.2.map warning) := by
  have hwell : ((of found loaded).failed = [] ∧ (of found loaded).discoveryErrors = [] ∧
      (of found loaded).stopErrors = []) ↔ (loaded.report.isClean && loaded.shutdown.result.2.isEmpty) = true := by
    simp [of, Report.isClean, Manager.report, h, and_assoc]
  simp only [told, Outcome.done, Outcome.mk.injEq]
  refine ⟨if_congr hwell rfl rfl, ?_⟩
  simp only [of, headed_eq_ite, Report.lines, Manager.report, h, List.map_map, List.append_assoc, List.cons_append,
    List.nil_append, List.length_map, List.isEmpty_map]
  rfl

variable {p : Printed}

theorem code_planned_ne_one : p.planned.code ≠ 1 := by
  unfold planned
  dsimp only
  split <;> decide

theorem code_told_ne_one : p.told.code ≠ 1 := by
  unfold told
  dsimp only
  split <;> decide

theorem code_planned_eq_two_iff : p.planned.code = 2 ↔ ¬(p.excluded = [] ∧ p.discoveryErrors = []) := by
  unfold planned
  dsimp only
  split <;> simp_all

theorem code_told_eq_two_iff : p.told.code = 2 ↔
    ¬(p.failed = [] ∧ p.discoveryErrors = [] ∧ p.stopErrors = []) := by
  unfold told
  dsimp only
  split <;> simp_all

theorem code_told_eq_zero_iff : p.told.code = 0 ↔ p.failed = [] ∧ p.discoveryErrors = [] ∧ p.stopErrors = [] := by
  unfold told
  dsimp only
  split <;> simp_all

theorem Foretold.excluded_eq_nil (h : p.Foretold) (hfailed : p.failed = []) : p.excluded = [] := by
  refine List.eq_nil_iff_forall_not_mem.mpr fun e he => ?_
  have hmem := h.excluded e he
  rw [hfailed] at hmem
  cases hmem

end Printed
end Command

namespace Manager

open Command

variable {m : Manager} {root : FileTree} {id : PluginId}

/-! ## What comes of loading -/

theorem Fresh.discoveryErrors_loadAll (h : m.Fresh) (root : FileTree) :
    (m.loadAll root).result.1.discoveryErrors = m.discoveryErrors := by
  rw [h.loadAll_eq root]

theorem Fresh.foretold (h : m.Fresh) (root : FileTree) : (Printed.of m (m.loadAll root).result.1).Foretold where
  loaded := h.loadOrder_sublist root
  excluded e he := by
    obtain ⟨⟨id, cause⟩, hmem, rfl⟩ := List.mem_map.mp he
    obtain ⟨c, hc, hfailed⟩ := h.find?_of_excluded root (IdMap.mem_entries_iff.mp hmem)
    refine List.mem_map.mpr ⟨{ c with progress := .failed cause }, List.mem_filter.mpr ⟨?_, rfl⟩, ?_⟩
    · exact IdMap.mem_values_iff.mpr ⟨id, hfailed⟩
    · exact congrArg (·, cause.message) (h.keyed id c hc)
  failed id hid hno := by
    obtain ⟨c, hc, _⟩ := findFailed?_iff.mp ((mem_failed_report_iff (h.sound_loadAll root).keyed).mp hid)
    have hkey : id ∈ m.containers.keys := h.keys_loadAll root ▸ IdMap.mem_keys_iff.mpr ⟨c, hc⟩
    obtain ⟨c₀, h₀⟩ := IdMap.mem_keys_iff.mp hkey
    refine (h.mem_order_or_excluded h₀).resolve_right fun ⟨cause, hcause⟩ => hno ?_
    exact List.mem_map.mpr ⟨(id, cause.message), List.mem_map.mpr ⟨_, IdMap.mem_entries_iff.mpr hcause, rfl⟩, rfl⟩

/-- Nothing is told to have failed when every plugin that was taken in is loaded. -/
theorem Fresh.failedPlugins_eq_nil_iff (h : m.Fresh) (root : FileTree) :
    (m.loadAll root).result.1.failedPlugins = [] ↔
      ∀ id ∈ m.containers.keys, (m.loadAll root).result.1.isLoaded id = true := by
  have hc := h.completed root
  rw [← h.keys_loadAll root]
  generalize (m.loadAll root).result.1 = m' at hc
  have hids : m'.report.failed.map Prod.fst = m'.failedPlugins.map Container.id := by
    simp [report, Function.comp_def]
  constructor
  · intro hnil id hid
    refine (hc.loadOrder id).mp (((hc.covered id).mp hid).resolve_right fun hf => ?_)
    rw [hids, hnil] at hf
    cases hf
  · intro hall
    refine (List.map_eq_nil_iff (f := Container.id)).mp (List.eq_nil_iff_forall_not_mem.mpr fun id hid => ?_)
    rw [← hids] at hid
    exact hc.disjoint id ((hc.loadOrder id).mpr (hall id ((hc.covered id).mpr (Or.inr hid)))) hid

end Manager

namespace Command

variable {root : FileTree} {config : Config} {registry : Registry} {settings : Settings} {m : Manager} {e : HostError}

namespace Outcome

variable {well : Bool} {lines : List String}

theorem code_done_eq_two_iff : (done well lines).code = 2 ↔ well = false := by
  cases well <;> simp [done]

end Outcome

/-! ## The tasks -/

/-- A host is started: what discovery finds, and what loading makes of it. -/
structure Starts (root : FileTree) (config : Config) (registry : Registry) (found loaded : Manager) : Prop where
  discovers : discover root config registry = .ok found
  starts : ∃ host report, Host.create config registry = .ok host ∧
    (host.start root).result = ({ host with started := true, manager := loaded }, .ok report)

theorem exists_list_eq (h : discover root config registry = .ok m) :
    ∃ lines, list root config registry = .ok (.done m.discoveryErrors.isEmpty lines) := by
  simp only [list, h, bind, Except.bind, pure, Except.pure]
  exact ⟨_, rfl⟩

theorem resolve_eq (h : discover root config registry = .ok m) (loaded : Manager) :
    resolve root config registry = .ok (Printed.of m loaded).planned := by
  rw [Printed.planned_of]
  simp only [resolve, h, bind, Except.bind, pure, Except.pure]
  rfl

/-- The host of a configuration starts with what discovery leaves. -/
theorem start_of_create {host : Host} (hc : Host.create config registry = .ok host) (root : FileTree) :
    match discover root config registry with
    | .error e => (host.start root).result.2 = .error e
    | .ok m => m.Fresh ∧ (host.start root).result =
        ({ host with started := true, manager := (m.loadAll root).result.1 },
          .ok (m.loadAll root).result.1.report) := by
  unfold Host.create at hc
  split at hc
  · rename_i m₀ hm
    obtain rfl := Except.ok.inj hc
    obtain ⟨l, rfl⟩ := Manager.ofConfig_eq_new hm
    have hfresh : (Manager.new l config.disabled).Fresh := Manager.fresh_new l config.disabled
    have htook := hfresh.discover root config.pluginsDir
    simp only [discover, hm, Except.mapError, bind, Except.bind]
    cases hd : (Manager.new l config.disabled).discover root config.pluginsDir with
    | mk m found =>
      rw [hd] at htook
      cases found with
      | error e => simp [Host.start, Manager.loadDirectory, hfresh.pending, hd, Except.mapError, Traced.pure]
      | ok n =>
        refine ⟨htook.fresh, ?_⟩
        simp [Host.start, Manager.loadDirectory, hfresh.pending, hd, htook.fresh.loadAll_eq root, Except.mapError]
  · cases hc

theorem discover_of_create_error (hc : Host.create config registry = .error e) (root : FileTree) :
    discover root config registry = .error e := by
  unfold Host.create at hc
  split at hc
  · cases hc
  · rename_i hm
    obtain rfl := Except.error.inj hc
    simp only [discover, hm, Except.mapError, bind, Except.bind]

/-- Loading succeeds when discovery does. -/
theorem load_eq (h : discover root config registry = .ok m) :
    m.Fresh ∧ Starts root config registry m (m.loadAll root).result.1 ∧
      load root config registry = .ok (Printed.of m (m.loadAll root).result.1).told := by
  cases hc : Host.create config registry with
  | error e => exact absurd ((discover_of_create_error hc root).symm.trans h) nofun
  | ok host =>
    have hstart := start_of_create hc root
    rw [h] at hstart
    obtain ⟨hfresh, hstart⟩ := hstart
    obtain ⟨l, rfl⟩ := Host.create_eq_new hc
    refine ⟨hfresh, ⟨h, _, _, hc, hstart⟩, ?_⟩
    rw [Printed.told_of (hfresh.discoveryErrors_loadAll root)]
    simp only [load, hc, hstart, bind, Except.bind, pure, Except.pure]
    rfl

/-- When discovery fails, so does every task, in the same way. -/
theorem perform_of_discover_error (h : discover root config registry = .error e) :
    ∀ task, perform root config registry task = .error e
  | .list => by simp only [perform, list, h, bind, Except.bind]
  | .resolve => by simp only [perform, resolve, h, bind, Except.bind]
  | .load => by
    simp only [perform, load]
    cases hc : Host.create config registry with
    | error e' =>
      obtain rfl := Except.error.inj ((discover_of_create_error hc root).symm.trans h)
      rfl
    | ok host =>
      have hstart := start_of_create hc root
      rw [h] at hstart
      simp only [hstart, bind, Except.bind]

theorem run_of_asks {arguments : List String} {task : Task}
    (asks : Request.ofArguments? {} arguments = some (.run task settings)) : run root arguments registry =
      match configOf root settings with
      | .error _ => .broken
      | .ok config => (perform root config registry task).toOption.getD .broken := by
  cases hconfig : configOf root settings <;> simp only [run, asks, hconfig]

/-- With the same settings, the dry run fails with an error exactly when loading does. Otherwise it foretells loading,
whatever plugins do: the loaded plugins stand in the order that it tells, the plugins it excludes are told to have
failed for the same cause, other plugins that failed are in its order, and the errors of discovery are the same. So when
something is wrong for one of listing, the dry run and loading, it is for the next; and loading ends well when every
plugin that discovery took in is loaded and nothing went wrong in discovery and in stopping. -/
theorem run_foretells (root : FileTree) (registry : Registry) {arguments : Task → List String}
    (asks : ∀ task, Request.ofArguments? {} (arguments task) = some (.run task settings)) :
    let outcome := fun task => run root (arguments task) registry
    ((outcome .resolve).code = 1 ↔ (outcome .load).code = 1) ∧
    ((outcome .list).code = 2 → (outcome .resolve).code = 2) ∧
    ((outcome .resolve).code = 2 → (outcome .load).code = 2) ∧
    ((outcome .resolve).code ≠ 1 → ∃ config found loaded,
      configOf root settings = .ok config ∧ Starts root config registry found loaded ∧
      let p := Printed.of found loaded
      outcome .resolve = p.planned ∧ outcome .load = p.told ∧ p.Foretold ∧
      ((outcome .load).code = 0 ↔ (∀ id ∈ found.containers.keys, loaded.isLoaded id = true) ∧
        p.discoveryErrors = [] ∧ p.stopErrors = [])) := by
  intro outcome
  have hrun : ∀ task, outcome task = _ := fun task => run_of_asks (asks task)
  clear_value outcome
  cases hconfig : configOf root settings with
  | error e =>
    simp only [hconfig] at hrun
    simp [hrun, Outcome.broken]
  | ok config =>
    simp only [hconfig] at hrun
    cases hd : discover root config registry with
    | error e =>
      simp only [perform_of_discover_error hd] at hrun
      simp [hrun, Except.toOption, Outcome.broken]
    | ok m =>
      obtain ⟨hfresh, hstarts, htold⟩ := load_eq hd
      obtain ⟨lines, hlines⟩ := exists_list_eq hd
      have hforetold := hfresh.foretold root
      have hall := hfresh.failedPlugins_eq_nil_iff root
      generalize hloaded : (m.loadAll root).result.1 = loaded at *
      have hlist : outcome .list = .done m.discoveryErrors.isEmpty lines := by rw [hrun, perform, hlines]; rfl
      have hresolve : outcome .resolve = (Printed.of m loaded).planned := by rw [hrun, perform, resolve_eq hd]; rfl
      have hload : outcome .load = (Printed.of m loaded).told := by rw [hrun, perform, htold]; rfl
      refine ⟨?_, ?_, ?_, fun _ => ⟨config, m, loaded, rfl, hstarts, hresolve, hload, hforetold, ?_⟩⟩
      · rw [hresolve, hload]
        exact iff_of_false Printed.code_planned_ne_one Printed.code_told_ne_one
      · rw [hlist, hresolve, Outcome.code_done_eq_two_iff, Printed.code_planned_eq_two_iff]
        rintro herrors ⟨_, hnone⟩
        rw [List.isEmpty_iff.mpr (List.map_eq_nil_iff.mp hnone)] at herrors
        cases herrors
      · rw [hresolve, hload, Printed.code_planned_eq_two_iff, Printed.code_told_eq_two_iff]
        rintro hwrong ⟨hfailed, herrors, _⟩
        exact hwrong ⟨hforetold.excluded_eq_nil hfailed, herrors⟩
      · rw [hload, Printed.code_told_eq_zero_iff, ← hall]
        exact and_congr_left' List.map_eq_nil_iff

/-- The arguments that ask for a task and nothing else. -/
def bareArguments : Task → List String
  | .list => ["list"]
  | .resolve => ["resolve"]
  | .load => ["load"]

/-- A plugin that does nothing, one that refuses to start, and one that requires what is not there. -/
def trio : List Manifest :=
  let plugin := fun (id : PluginId) (entryPoint : String) (dependencies : List Dependency) =>
    ({ id, name := id, version := "1.0.0", entryPoint, dependencies } : Manifest)
  [plugin "a" idleEntryPoint [], plugin "b" failingEntryPoint [], plugin "c" idleEntryPoint [{ id := "x" }]]

/-- Nothing but an artifact in the usual directory. -/
def shelf (content : String) : FileTree where
  here := .directory [("plugins", .directory [("trio.plugin.json", .file content.toUTF8)])]
  above := []

/-- The shelf with the three plugins on it. -/
def trioShelf : FileTree := shelf (Json.print (Manifest.documentOf trio))

theorem find_shelf (content : String) :
    (shelf content).find defaultConfigFile = .error .notFound ∧
    (shelf content).find ⟨"plugins"⟩ = .ok (.directory [("trio.plugin.json", .file content.toUTF8)]) ∧
    (shelf content).find ⟨"plugins/trio.plugin.json"⟩ = .ok (.file content.toUTF8) := by
  have hsizes : "hearth.toml".utf8ByteSize = 11 ∧ "plugins".utf8ByteSize = 7 ∧
      "trio.plugin.json".utf8ByteSize = 16 ∧ "plugins/trio.plugin.json".utf8ByteSize = 24 := by decide +kernel
  simp [shelf, defaultConfigFile, FileTree.find, FileTree.walk, FileTree.start, FileTree.maxPath, FileTree.maxLinks,
    FileTree.maxName, Path.pieces, Path.isAbsolute, Text.splitAtSep, Keyed.lookup_cons, hsizes]

theorem parseAll_trio :
    Manifest.parseAll ⟨"plugins/trio.plugin.json"⟩ (Json.print (Manifest.documentOf trio)) = .ok trio := by
  have hvalid : ∀ m ∈ trio, m.validate ⟨"plugins/trio.plugin.json"⟩ = .ok m := by
    simp only [trio, List.forall_mem_cons]
    exact ⟨rfl, rfl, rfl, fun _ hm => (nomatch hm)⟩
  exact Manifest.parseAll_of_read rfl (Json.read?_print (Manifest.plain_documentOf trio) (by decide))
    (Manifest.plugins?_documentOf trio) (List.cons_ne_nil _ _) hvalid

theorem fromUTF8?_toByteArray (s : String) : String.fromUTF8? s.toByteArray = some s := by
  rw [String.fromUTF8?, dif_pos s.isValidUTF8]
  rfl

theorem scanDirectory_shelf {content : String} {ms : List Manifest}
    (h : Manifest.parseAll ⟨"plugins/trio.plugin.json"⟩ content = .ok ms) :
    Loader.scanDirectory (shelf content) defaultPluginsDir =
      .ok { containers := ms.map fun m => { manifest := m, source := some ⟨"plugins/trio.plugin.json"⟩ } } := by
  obtain ⟨_, hdirectory, hfile⟩ := find_shelf content
  have hpath : (Path.mk "plugins").join ⟨"trio.plugin.json"⟩ = ⟨"plugins/trio.plugin.json"⟩ ∧
      Path.isManifestFile ⟨"plugins/trio.plugin.json"⟩ = true := by decide +kernel
  have hload : Loader.loadFile (shelf content) ⟨"plugins/trio.plugin.json"⟩ =
      .ok (ms.map fun m => { manifest := m, source := some ⟨"plugins/trio.plugin.json"⟩ }) := by
    simp [Loader.loadFile, FileTree.readText, hfile, fromUTF8?_toByteArray, h, Except.mapError, bind, Except.bind, pure,
      Except.pure]
  simp [defaultPluginsDir, Loader.scanDirectory, Loader.discoverArtifact, FileTree.artifacts, FileTree.entries,
    FileTree.isArtifact, Keyed.ofList, Keyed.insert, hdirectory, hpath, hload, bind, Except.bind, pure, Except.pure]

/-- What discovery leaves of them. -/
def trioFound : Manager :=
  (trio.map fun m => ({ manifest := m, source := some ⟨"plugins/trio.plugin.json"⟩ } : Container)).foldl
    Manager.addOrRecord (.new { registry := .builtin, api := { major := 1, minor := 0, patch := 0 } } [])

theorem discover_trioShelf : discover trioShelf {} = .ok trioFound := by
  have hscan := scanDirectory_shelf parseAll_trio
  have hm : Manager.ofConfig {} .builtin =
      .ok (.new { registry := .builtin, api := { major := 1, minor := 0, patch := 0 } } []) := by
    cbv
  simp only [discover, trioShelf, hm, Manager.discover, Manager.new, hscan, Except.mapError, bind, Except.bind,
    Bool.false_eq_true, if_false, List.append_nil, pure, Except.pure, trioFound]

theorem fresh_trioFound : trioFound.Fresh :=
  ((Manager.fresh_new _ []).foldl_addOrRecord _ fun _ hc => (List.mem_map.mp hc).elim fun _ h => h.2 ▸ rfl).fresh

/-- What is printed of them. -/
theorem printed_trio (root : FileTree) : Printed.of trioFound (trioFound.loadAll root).result.1 =
    { discoveryErrors := []
      order := ["a", "b"]
      absent := []
      excluded := [("c", "Dependency 'x' of plugin 'c' is missing")]
      loaded := ["a"]
      failed := [
        ("b", "Activation of plugin 'b' failed: plugin 'b' is configured to fail"),
        ("c", "Dependency 'x' of plugin 'c' is missing")]
      stopErrors := [] } := by
  have hexcluded : (Resolution.ofContainers trioFound.plugins).excluded.entries =
      [("c", .missingDependency "c" "x")] := by
    cbv
  have hloaded : (trioFound.loadAll root).result.1.loadOrder = ["a"] := by
    rw [fresh_trioFound.loadOrder_loadAll]
    cbv
  have hfailed : (trioFound.loadAll root).result.1.failedPlugins.map (fun c => (c.id, c.failure?)) = [
      ("b", some (.activationError "b" (.refused "plugin 'b' is configured to fail"))),
      ("c", some (.missingDependency "c" "x"))] := by
    rw [Manager.failedPlugins, fresh_trioFound.containers_loadAll]
    cbv
  have hstopped : (Manager.stopAll (trioFound.loadAll root).result.1.containers ["a"]).result = [] := by
    rw [fresh_trioFound.containers_loadAll]
    cbv
  have hrunning : (trioFound.loadAll root).result.1.shutDown = false := by
    rw [fresh_trioFound.loadAll_eq]
    rfl
  simp only [Printed.of, Printed.mk.injEq, hexcluded, hloaded, Manager.shutdown, hrunning]
  refine ⟨?_, ?_, ?_, rfl, trivial, ?_, ?_⟩
  · cbv
  · cbv
  · cbv
  · have hmessages := congrArg (List.map fun e => (e.1, (e.2.map PluginError.message).getD "")) hfailed
    rw [List.map_map] at hmessages
    exact hmessages
  · exact congrArg (List.map (·.message)) hstopped

/-- The dry run tells that the plugin with the missing dependency is out; loading repeats it, and tells of the one that
refuses to start. -/
theorem run_trioShelf :
    (∀ task, Request.ofArguments? {} (bareArguments task) = some (.run task {})) ∧
    run trioShelf ["resolve"] = {
      code := 2
      lines := [
        "Load order:", "  1. a", "  2. b",
        "Excluded:", "  c: Dependency 'x' of plugin 'c' is missing"] } ∧
    run trioShelf ["load"] = {
      code := 2
      lines := [
        "Loaded 1 plugin(s)", "  + a",
        "Failed 2 plugin(s)", "  - b: Activation of plugin 'b' failed: plugin 'b' is configured to fail",
        "  - c: Dependency 'x' of plugin 'c' is missing"] } := by
  have asks : ∀ task, Request.ofArguments? {} (bareArguments task) = some (.run task {})
    | .list => rfl
    | .resolve => rfl
    | .load => rfl
  obtain ⟨_, _, _, hprints⟩ := run_foretells trioShelf .builtin asks
  have hconfig : configOf trioShelf {} = .ok {} := by
    obtain ⟨hnone, _, _⟩ := find_shelf (Json.print (Manifest.documentOf trio))
    simp [configOf, trioShelf, FileTree.isFile, hnone, bind, Except.bind, pure, Except.pure]
  have hrun : run trioShelf (bareArguments .resolve) = (Printed.of trioFound trioFound).planned := by
    rw [run_of_asks (asks .resolve), hconfig]
    simp only [perform, resolve_eq discover_trioShelf trioFound]
    rfl
  have hdone : (run trioShelf (bareArguments .resolve)).code ≠ 1 := hrun ▸ Printed.code_planned_ne_one
  obtain ⟨config, found, loaded, hc, hstarts, hresolve, hload, _⟩ := hprints hdone
  obtain rfl := Except.ok.inj (hconfig.symm.trans hc)
  obtain rfl := Except.ok.inj (discover_trioShelf.symm.trans hstarts.discovers)
  have hloaded : loaded = (trioFound.loadAll trioShelf).result.1 := by
    obtain ⟨host, report, hcreate, hstart⟩ := hstarts.starts
    have := start_of_create hcreate trioShelf
    rw [discover_trioShelf] at this
    exact congrArg (fun p : Host × Except HostError Report => p.1.manager) (hstart.symm.trans this.2)
  rw [hloaded, printed_trio] at hresolve hload
  exact ⟨asks, hresolve.trans (by cbv), hload.trans (by cbv)⟩

end Command
end PluginHost
