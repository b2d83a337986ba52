import PluginHost.Host.Lookup
import PluginHost.Proofs.Host.Run
import PluginHost.Proofs.Ordered.Repeats
import PluginHost.Proofs.Plugin.Artifact

/-!
# What is taken in

Before its pipeline runs, a manager is offered containers, one at a time or those of a directory. Of the containers of a
plugin the first one is taken, the others are told to be duplicates, and disabled plugins are passed over.

* `TookFirst.addContainer`: what becomes of one more container, in terms of what was offered before.
* `TookFirst.discover`: what becomes of a directory, and which errors are left.
* `takeInAll_accounts`: so nothing is lost and nothing is counted twice, in any sequence of calls.
-/

namespace PluginHost

/-- The error for a container of a plugin that was taken in before. -/
def Container.duplicate (c : Container) : PluginError := .duplicatePlugin c.id (c.source.getD ⟨""⟩)

/-- Whether an error tells of a container of a plugin that was taken in before. -/
def PluginError.isDuplicate : PluginError → Bool
  | duplicatePlugin .. => true
  | _ => false

namespace Manager

variable {m : Manager} {l : Loader} {disabled : List PluginId} {offered : List Container} {c : Container}

/-- Of the containers that were offered the first of each plugin was taken in, disabled ones apart. -/
structure TookFirst (disabled : List PluginId) (offered : List Container) (m : Manager) : Prop where
  pending : m.pipelineRan = false
  dropped : m.disabled = disabled
  containers : ∀ id, m.containers.find? id = if id ∈ disabled then none else offered.find? (·.id = id)

theorem tookFirst_new (l : Loader) (disabled : List PluginId) : TookFirst disabled [] (new l disabled) :=
  ⟨rfl, rfl, fun id => by simp [new, IdMap.find?_empty]⟩

namespace TookFirst

theorem contains_iff (h : TookFirst disabled offered m) (hc : c.id ∉ disabled) :
    m.containers.contains c.id = true ↔ c.id ∈ offered.map Container.id := by
  rw [IdMap.contains, h.containers, if_neg hc, List.find?_isSome]
  simp

/-- What becomes of a container is known from those offered before. -/
theorem addContainer (h : TookFirst disabled offered m) (c : Container) : m.addContainer c =
    if c.id ∈ disabled then .ok m
    else if c.id ∈ offered.map Container.id then .error c.duplicate
    else .ok { m with containers := m.containers.insert c.id c } := by
  unfold Manager.addContainer
  rw [if_neg (by simp [h.pending]), h.dropped]
  split
  · rfl
  · rename_i hc
    simp only [h.contains_iff hc]
    rfl

/-- A new plugin is taken in. -/
theorem insert (h : TookFirst disabled offered m) (hdisabled : c.id ∉ disabled)
    (hnew : c.id ∉ offered.map Container.id) :
    TookFirst disabled (offered ++ [c]) { m with containers := m.containers.insert c.id c } := by
  refine ⟨h.pending, h.dropped, fun id => ?_⟩
  rw [IdMap.find?_insert, List.find?_append, h.containers]
  by_cases hid : id = c.id
  · subst hid
    have hnone : offered.find? (·.id = c.id) = none := by simpa using hnew
    simp [hdisabled, hnone]
  · simp [hid, Ne.symm hid]

/-- A plugin that is disabled or was taken in before is passed over. -/
theorem pass (h : TookFirst disabled offered m) (hc : c.id ∈ disabled ∨ c.id ∈ offered.map Container.id) :
    TookFirst disabled (offered ++ [c]) m := by
  refine ⟨h.pending, h.dropped, fun id => ?_⟩
  rw [h.containers, List.find?_append]
  split
  · rfl
  · rename_i hid
    by_cases he : c.id = id
    · subst he
      obtain ⟨c', hc', hid'⟩ := List.mem_map.mp (hc.resolve_left hid)
      cases hf : offered.find? (·.id = c.id) with
      | none => simpa [hid'] using List.find?_eq_none.mp hf c' hc'
      | some first => rfl
    · simp [he]

theorem record (h : TookFirst disabled offered m) (errors : List PluginError) :
    TookFirst disabled offered { m with discoveryErrors := errors } :=
  ⟨h.pending, h.dropped, h.containers⟩

theorem addOrRecord (h : TookFirst disabled offered m) (c : Container) :
    TookFirst disabled (offered ++ [c]) (m.addOrRecord c) ∧ (m.addOrRecord c).discoveryErrors =
      m.discoveryErrors ++ (repeats Container.id disabled (offered.map Container.id) [c]).map Container.duplicate := by
  unfold Manager.addOrRecord
  rw [h.addContainer c]
  by_cases hdisabled : c.id ∈ disabled
  · simpa [hdisabled, repeats] using h.pass (Or.inl hdisabled)
  · by_cases hknown : c.id ∈ offered.map Container.id
    · simpa only [hdisabled, hknown, repeats, if_true, if_false, not_false_eq_true, and_self, List.map_cons,
        List.map_nil, and_true] using (h.pass (Or.inr hknown)).record (m.discoveryErrors ++ [c.duplicate])
    · simpa only [hdisabled, hknown, repeats, if_false, and_false, List.map_nil, List.append_nil, and_true] using
        h.insert hdisabled hknown

/-- Containers one after the other. -/
theorem foldl_addOrRecord : ∀ (cs : List Container) {offered : List Container} {m : Manager},
    TookFirst disabled offered m → TookFirst disabled (offered ++ cs) (cs.foldl Manager.addOrRecord m) ∧
      (cs.foldl Manager.addOrRecord m).discoveryErrors =
        m.discoveryErrors ++ (repeats Container.id disabled (offered.map Container.id) cs).map Container.duplicate
  | [], offered, m, h => by simpa [repeats] using h
  | c :: cs, offered, m, h => by
    obtain ⟨hstep, herrors⟩ := h.addOrRecord c
    obtain ⟨hrest, herrors'⟩ := foldl_addOrRecord cs hstep
    have happ := repeats_append Container.id disabled [c] cs (offered.map Container.id)
    rw [List.singleton_append] at happ
    refine ⟨by simpa using hrest, ?_⟩
    rw [List.foldl_cons, herrors', herrors, happ]
    simp

theorem keys_subset {more : List Container} {m' : Manager} (h : TookFirst disabled offered m)
    (h' : TookFirst disabled (offered ++ more) m') : ∀ id ∈ m.containers.keys, id ∈ m'.containers.keys := by
  intro id hid
  obtain ⟨c, hc⟩ := IdMap.mem_keys_iff.mp hid
  rw [h.containers] at hc
  refine IdMap.mem_keys_iff.mpr ⟨c, ?_⟩
  rw [h'.containers, List.find?_append]
  split at hc
  · cases hc
  · rename_i hdisabled
    rw [if_neg hdisabled, hc]
    rfl

/-- What becomes of a directory: its containers are taken in one after the other, and answered is how many plugins are
new; or nothing can be read and nothing happens. -/
theorem discover (h : TookFirst disabled offered m) (root : FileTree) (dir : Path) :
    (∃ m', m.discover root dir = (m', .ok (m'.containers.keys.filter (· ∉ m.containers.keys)).length) ∧
      TookFirst disabled (offered ++ Loader.containersIn root dir) m' ∧
      m'.discoveryErrors = m.discoveryErrors ++ Loader.errorsIn root dir ++
        (repeats Container.id disabled (offered.map Container.id) (Loader.containersIn root dir)).map
          Container.duplicate) ∨
    (∃ fault, m.discover root dir = (m, .error (.unreadableArtifact dir fault))) ∧ root.artifactsIn dir = [] := by
  unfold Manager.discover
  rw [if_neg (by simp [h.pending])]
  rcases Loader.scanDirectory_cases root dir with hs | ⟨⟨fault, hs⟩, hnone⟩
  · obtain ⟨htook, herrors⟩ := (h.record (m.discoveryErrors ++ Loader.errorsIn root dir)).foldl_addOrRecord
      (Loader.containersIn root dir)
    have hcount := IdMap.size_sub_size (h.keys_subset htook)
    rw [hs]
    exact Or.inl ⟨_, by rw [← hcount], htook, herrors⟩
  · rw [hs]
    exact Or.inr ⟨⟨fault, rfl⟩, hnone⟩

end TookFirst

/-! ## All calls -/

/-- A call that offers containers. -/
inductive Intake where
  | add (c : Container)
  | discover (root : FileTree) (dir : Path)

/-- The containers that a call offers. -/
def Intake.offers : Intake → List Container
  | add c => [c]
  | discover root dir => Loader.containersIn root dir

/-- The errors of the artifacts that a call reads. -/
def Intake.unread : Intake → List PluginError
  | add _ => []
  | discover root dir => Loader.errorsIn root dir

/-- What a call makes of a manager, and which errors it tells of what it was offered: it answers them, or it leaves them
with the others. -/
def takeIn (m : Manager) : Intake → Manager × List PluginError
  | .add c =>
    match m.addContainer c with
    | .ok m' => (m', [])
    | .error e => (m, [e])
  | .discover root dir =>
    let m' := (m.discover root dir).1
    (m', m'.discoveryErrors.drop m.discoveryErrors.length)

/-- What calls make of a manager one after the other, and all the errors that they tell. -/
def takeInAll : List Intake → Manager → Manager × List PluginError
  | [], m => (m, [])
  | call :: calls, m =>
    let rest := takeInAll calls (m.takeIn call).1
    (rest.1, (m.takeIn call).2 ++ rest.2)

theorem TookFirst.takeIn (h : TookFirst disabled offered m) (call : Intake) :
    TookFirst disabled (offered ++ call.offers) (m.takeIn call).1 ∧ (m.takeIn call).2 = call.unread ++
      (repeats Container.id disabled (offered.map Container.id) call.offers).map Container.duplicate := by
  cases call with
  | add c =>
    simp only [Manager.takeIn, Intake.offers, Intake.unread, h.addContainer c, repeats]
    by_cases hdisabled : c.id ∈ disabled
    · simpa [hdisabled] using h.pass (Or.inl hdisabled)
    · by_cases hknown : c.id ∈ offered.map Container.id
      · simpa [hdisabled, hknown] using h.pass (Or.inr hknown)
      · simpa only [hdisabled, hknown, if_false, and_false, List.map_nil, List.append_nil, and_true] using
          h.insert hdisabled hknown
  | discover root dir =>
    simp only [Manager.takeIn, Intake.offers, Intake.unread]
    rcases h.discover root dir with ⟨m', hm', htook, herrors⟩ | ⟨⟨fault, hm'⟩, hnone⟩
    · rw [hm', herrors]
      refine ⟨htook, ?_⟩
      simp
    · simpa [hm', Loader.containersIn, Loader.errorsIn, hnone, repeats] using h

theorem isDuplicate_unread (call : Intake) : ∀ e ∈ call.unread, e.isDuplicate = false := by
  cases call with
  | add c => exact fun e he => by cases he
  | discover root dir =>
    intro e he
    obtain ⟨path, _, he⟩ := List.mem_flatMap.mp he
    rcases Loader.gives_cases root path with ⟨_, hnil, _⟩ | ⟨_, e', he', htells⟩
    · rw [hnil] at he
      cases he
    · rw [he'] at he
      obtain rfl := List.mem_singleton.mp he
      rcases htells with ⟨fault, rfl⟩ | ⟨file, fault, _, rfl⟩
      · rfl
      · rfl

/-- Calls one after the other. -/
theorem TookFirst.takeInAll : ∀ (calls : List Intake) {offered : List Container} {m : Manager},
    TookFirst disabled offered m →
      TookFirst disabled (offered ++ calls.flatMap Intake.offers) (takeInAll calls m).1 ∧
      (Manager.takeInAll calls m).2.filter PluginError.isDuplicate =
        (repeats Container.id disabled (offered.map Container.id) (calls.flatMap Intake.offers)).map
          Container.duplicate ∧
      (Manager.takeInAll calls m).2.filter (!·.isDuplicate) = calls.flatMap Intake.unread
  | [], offered, m, h => by simpa [Manager.takeInAll, repeats] using h
  | call :: calls, offered, m, h => by
    obtain ⟨hstep, htold⟩ := h.takeIn call
    obtain ⟨hrest, hduplicates, hunread⟩ := TookFirst.takeInAll calls hstep
    have hno := isDuplicate_unread call
    have hyes : ∀ cs : List Container, ∀ e ∈ cs.map Container.duplicate, e.isDuplicate = true := by
      intro cs e he
      obtain ⟨c, _, rfl⟩ := List.mem_map.mp he
      rfl
    have hfirst : (m.takeIn call).2.filter PluginError.isDuplicate =
        (repeats Container.id disabled (offered.map Container.id) call.offers).map Container.duplicate := by
      rw [htold, List.filter_append, List.filter_eq_nil_iff.mpr (by simpa using hno),
        List.filter_eq_self.mpr (hyes _), List.nil_append]
    have hsecond : (m.takeIn call).2.filter (!·.isDuplicate) = call.unread := by
      rw [htold, List.filter_append, List.filter_eq_self.mpr (by simpa using hno),
        List.filter_eq_nil_iff.mpr (by simpa using hyes _), List.append_nil]
    refine ⟨by simpa [Manager.takeInAll] using hrest, ?_, ?_⟩
    · rw [Manager.takeInAll, List.filter_append, hfirst, hduplicates, List.flatMap_cons, repeats_append,
        List.map_append, List.map_append]
    · rw [Manager.takeInAll, List.filter_append, hsecond, hunread, List.flatMap_cons]

/-- Nothing is lost and nothing is counted twice: of the containers that calls offer the first of each plugin is taken
in, disabled plugins apart, and each later one is told once to be a duplicate. What becomes of the next container and of
the next directory follows: an artifact gives containers in the order of declaration or one error, artifacts come in the
order of their names, and answered is how many plugins are new. -/
theorem takeInAll_accounts (l : Loader) (disabled : List PluginId) (calls : List Intake) :
    let offered := calls.flatMap Intake.offers
    let m := (takeInAll calls (new l disabled)).1
    let told := (takeInAll calls (new l disabled)).2
    (∀ id, m.find? id = if id ∈ disabled then none else offered.find? (·.id = id)) ∧
    told.filter PluginError.isDuplicate = (repeats Container.id disabled [] offered).map Container.duplicate ∧
    told.filter (!·.isDuplicate) = calls.flatMap Intake.unread ∧
    (∀ c, m.addContainer c =
      if c.id ∈ disabled then .ok m
      else if c.id ∈ offered.map Container.id then .error c.duplicate
      else .ok { m with containers := m.containers.insert c.id c }) ∧
    ∀ root dir,
      ((∃ m', m.discover root dir = (m', .ok (m'.containers.keys.filter (· ∉ m.containers.keys)).length) ∧
          (∀ id, m'.find? id =
            if id ∈ disabled then none else (offered ++ Loader.containersIn root dir).find? (·.id = id)) ∧
          m'.discoveryErrors = m.discoveryErrors ++ Loader.errorsIn root dir ++
            (repeats Container.id disabled (offered.map Container.id) (Loader.containersIn root dir)).map
              Container.duplicate) ∨
        (∃ fault, m.discover root dir = (m, .error (.unreadableArtifact dir fault))) ∧ root.artifactsIn dir = []) ∧
      (∃ names : List String, Ascending names ∧ root.artifactsIn dir = names.map fun name => dir.join ⟨name⟩) ∧
      ∀ path ∈ root.artifactsIn dir,
        (Loader.containersOf root path ≠ [] ∧ Loader.errorsOf root path = [] ∧
          ∃ d, Loader.documentOf? root path = some d ∧ Loader.Reads path d (Loader.containersOf root path)) ∨
        Loader.containersOf root path = [] ∧ ∃ e, Loader.errorsOf root path = [e] ∧ Loader.Tells root path e := by
  intro offered m told
  obtain ⟨h, hduplicates, hunread⟩ := (tookFirst_new l disabled).takeInAll calls
  refine ⟨h.containers, hduplicates, hunread, h.addContainer, fun root dir => ⟨?_, ?_, fun path _ => ?_⟩⟩
  · rcases h.discover root dir with ⟨m', hm', htook, herrors⟩ | hfails
    · exact Or.inl ⟨m', hm', htook.containers, herrors⟩
    · exact Or.inr hfails
  · exact root.exists_names_artifactsIn dir
  · exact Loader.gives_cases root path

end Manager
end PluginHost
