import Mathlib.Data.List.Find
import PluginHost.Host.Lookup
import PluginHost.Proofs.Host.Pipeline

/-!
# The turn of a plugin

The plugins of an order take turns (`Manager.turn`), and a turn changes no container but that of its plugin
(`find?_activateNext_of_ne`). So what a plugin finds of its dependencies at its turn is what becomes of them, and what
becomes of the plugin is decided at its turn (`Fresh.atTurn`).

* `Fresh.find?_of_excluded`: a plugin outside the order keeps the cause of its exclusion.
* `AtTurn.skipped`: a plugin with a failed dependency fails, and the loader is not asked for it.
* `AtTurn.asked`: for any other plugin the loader is asked, and its answer is what becomes of the plugin.
-/

namespace PluginHost.Manager

variable {m : Manager} {l : Loader} {root : FileTree} {s : Loading} {id x : PluginId} {c : Container}
  {order done rest : List PluginId} {answer : Traced (Container × Except PluginError Unit)}

/-! ## One turn after the other -/

/-- A turn changes no container but that of its plugin. -/
theorem find?_activateNext_of_ne (hne : x ≠ id) :
    (activateNext l root id s).result.1.containers.find? x = s.containers.find? x := by
  unfold activateNext
  split
  · rfl
  · split
    · split
      · exact (IdMap.find?_insert ..).trans (if_neg hne)
      · rfl
    · simp only [Loading.finish]
      split <;> exact (IdMap.find?_insert ..).trans (if_neg hne)

theorem find?_activateAll_of_not_mem : ∀ (order : List PluginId) (s : Loading), x ∉ order →
    (activateAll l root order s).result.1.containers.find? x = s.containers.find? x
  | [], _, _ => rfl
  | id :: order, s, h => by
    obtain ⟨hne, hx⟩ := List.ne_and_not_mem_of_not_mem_cons h
    unfold activateAll
    dsimp only
    split
    · exact find?_activateNext_of_ne hne
    · exact (find?_activateAll_of_not_mem order _ hx).trans (find?_activateNext_of_ne hne)

/-- What becomes of a plugin is decided at its turn. -/
theorem find?_activateAll_cons (hid : id ∉ order) : (activateAll l root (id :: order) s).result.1.containers.find? id =
    (activateNext l root id s).result.1.containers.find? id := by
  rw [activateAll]
  dsimp only
  split
  · rfl
  · exact find?_activateAll_of_not_mem order _ hid

theorem activateAll_cons_of_ok (h : (activateNext l root id s).result.2 = .ok ()) :
    activateAll l root (id :: order) s =
      let more := activateAll l root order (activateNext l root id s).result.1
      { calls := (activateNext l root id s).calls ++ more.calls, result := more.result } := by
  rw [activateAll]
  simp only [h]

theorem activateAll_append : ∀ (done rest : List PluginId) {s s' : Loading},
    (activateAll l root done s).result = (s', .ok ()) →
    (activateAll l root (done ++ rest) s).result = (activateAll l root rest s').result
  | [], rest, s, s', h => by
    obtain rfl : s = s' := (Prod.mk.inj h).1
    rfl
  | id :: done, rest, s, s', h => by
    cases hstep : (activateNext l root id s).result.2 with
    | error e =>
      -- The order would have ended here.
      have herror : (activateAll l root (id :: done) s).result.2 = .error e := by
        rw [activateAll]
        simp only [hstep]
      rw [h] at herror
      cases herror
    | ok _ =>
      rw [activateAll_cons_of_ok hstep] at h
      rw [List.cons_append, activateAll_cons_of_ok hstep]
      exact activateAll_append done rest h

/-- Every call is made at the turn of a plugin. -/
theorem exists_turn_of_mem_calls {call : Call} : ∀ (order : List PluginId) (s : Loading),
    call ∈ (activateAll l root order s).calls → ∃ done id rest, order = done ++ id :: rest ∧
      call ∈ (activateNext l root id (activateAll l root done s).result.1).calls
  | [], _, h => by cases h
  | id :: order, s, h => by
    cases hstep : (activateNext l root id s).result.2 with
    | error e =>
      rw [activateAll] at h
      simp only [hstep] at h
      exact ⟨[], id, order, rfl, h⟩
    | ok _ =>
      rw [activateAll_cons_of_ok hstep] at h
      rcases List.mem_append.mp h with h | h
      · exact ⟨[], id, order, rfl, h⟩
      · obtain ⟨done, id', rest, rfl, hcall⟩ := exists_turn_of_mem_calls order _ h
        refine ⟨id :: done, id', rest, rfl, ?_⟩
        rw [activateAll_cons_of_ok hstep]
        exact hcall

/-! ## The turn of a plugin -/

/-- How far loading got when it is the turn of a plugin. -/
def turn (m : Manager) (root : FileTree) (id : PluginId) : Loading :=
  (activateAll m.loader root (m.resolution.order.takeWhile (· ≠ id)) m.begun).result.1

/-- The loader is asked for a plugin of the order: at its turn happens what the loader answers for its container. -/
structure Asked (m : Manager) (root : FileTree) (id : PluginId)
    (answer : Traced (Container × Except PluginError Unit)) : Prop where
  ordered : id ∈ m.resolution.order
  answers : ∃ c, (m.turn root id).containers.find? id = some c ∧
    answer = m.loader.load root c (m.turn root id).active.keys
  taken : activateNext m.loader root id (m.turn root id) =
    { calls := answer.calls, result := ((m.turn root id).finish id answer.result.1 answer.result.2, .ok ()) }

theorem takeWhile_ne (hn : (done ++ id :: rest).Nodup) : (done ++ id :: rest).takeWhile (· ≠ id) = done := by
  have hdone : ∀ x ∈ done, decide (x ≠ id) = true := by
    intro x hx
    refine decide_eq_true ?_
    rintro rfl
    exact (List.nodup_append.mp hn).2.2 x hx x List.mem_cons_self rfl
  rw [List.takeWhile_append_of_pos hdone]
  simp

theorem turn_of_order (hn : m.resolution.order.Nodup) (horder : m.resolution.order = done ++ id :: rest) :
    m.turn root id = (activateAll m.loader root done m.begun).result.1 := by
  rw [horder] at hn
  rw [turn, horder, takeWhile_ne hn]

/-- A plugin of the order at its turn: it is about to be activated, each of its dependencies got to a last state, and
what happens then is what becomes of it. -/
structure AtTurn (m : Manager) (root : FileTree) (id : PluginId) (c : Container) : Prop where
  ordered : id ∈ m.resolution.order
  waiting : (m.turn root id).containers.find? id = some { c with progress := .resolving }
  dependency : ∀ d ∈ c.manifest.requiredDependencies, ∃ target,
    (m.turn root id).containers.find? d.id = some target ∧ (m.loadAll root).result.1.find? d.id = some target ∧
      (target.state = .loaded ∨ target.state = .failed)
  outcome : (m.loadAll root).result.1.find? id =
    (activateNext m.loader root id (m.turn root id)).result.1.containers.find? id

theorem Fresh.atTurn (h : m.Fresh) (root : FileTree) (hid : id ∈ m.resolution.order)
    (hc : m.containers.find? id = some c) : AtTurn m root id c := by
  have hr : Resolution.Resolved m.containers.find? m.resolution := h.resolved
  obtain ⟨done, rest, horder⟩ := List.append_of_mem hid
  have hn : (done ++ id :: rest).Nodup := horder ▸ hr.nodup_order
  obtain ⟨calls, p, s, ha, hs⟩ := h.underway root horder
  have hturn : m.turn root id = s := by
    rw [turn_of_order hr.nodup_order horder, ha]
  have hnid : id ∉ done := fun hd => (List.nodup_append.mp hn).2.2 id hd id List.mem_cons_self rfl
  have hresult : ∀ x, (m.loadAll root).result.1.find? x =
      (activateAll m.loader root (id :: rest) s).result.1.containers.find? x := by
    intro x
    have happ := activateAll_append done (id :: rest) (congrArg Traced.result ha)
    rw [Manager.find?, h.containers_loadAll root, horder, happ]
  refine ⟨hid, ?_, fun d hd => ?_, ?_⟩
  · rw [hturn, hs.containers, find?_progressed_of hc, hs.untouched id hnid, startOf, if_pos hid]
  · -- The order has no duplicates, so the dependency is in the part before the plugin.
    have hdone : d.id ∈ done := Precedes.mem_before hn (horder ▸ before_order hr hid c hc d hd)
    have hrest : d.id ∉ id :: rest := fun hx => (List.nodup_append.mp hn).2.2 d.id hdone d.id hx rfl
    obtain ⟨target, ht⟩ := hr.given_of_mem_order (horder ▸ List.mem_append_left _ hdone)
    have hfound : s.containers.find? d.id = some { target with progress := p d.id } := by
      rw [hs.containers, find?_progressed_of ht]
    refine ⟨{ target with progress := p d.id }, hturn ▸ hfound, ?_, hs.settled d.id hdone⟩
    rw [hresult, find?_activateAll_of_not_mem _ s hrest, hfound]
  · have hrest : id ∉ rest := (List.nodup_cons.mp (List.nodup_append.mp hn).2.1).1
    rw [hresult, find?_activateAll_cons hrest, hturn]

/-- The first required dependency of a plugin that failed, in the order of declaration. -/
def firstFailed? (m : Manager) (manifest : Manifest) : Option Dependency :=
  manifest.requiredDependencies.find? fun d => (m.findFailed? d.id).isSome

namespace AtTurn

/-- The failed dependency that is found at the turn of a plugin is the first one that fails. -/
theorem failedDependency?_eq (h : AtTurn m root id c) :
    failedDependency? (m.turn root id).containers { c with progress := .resolving } =
      ((m.loadAll root).result.1.firstFailed? c.manifest).map (·.id) := by
  rw [failedDependency?, firstFailed?]
  refine congrArg (Option.map fun d : Dependency => d.id) (List.find?_congr fun d hd => ?_)
  obtain ⟨target, hturn, hresult, _⟩ := h.dependency d hd
  rw [hturn, findFailed?, hresult]
  cases hf : target.isFailed <;> simp [hf]

/-- No failed dependency is found at the turn of a plugin when all that it requires is loaded. -/
theorem failedDependency?_eq_none_iff (h : AtTurn m root id c) :
    failedDependency? (m.turn root id).containers { c with progress := .resolving } = none ↔
      ∀ d ∈ c.manifest.requiredDependencies,
        ∃ target, (m.turn root id).containers.find? d.id = some target ∧ target.isLoaded = true := by
  rw [failedDependency?, Option.map_eq_none_iff, List.find?_eq_none]
  refine forall₂_congr fun d hd => ?_
  obtain ⟨target, hfound, _, hstate⟩ := h.dependency d hd
  rw [hfound]
  simp only [Option.all_some, Option.some.injEq, exists_eq_left', Container.isFailed, Container.isLoaded,
    decide_eq_true_eq]
  rcases hstate with hs | hs <;> simp [hs]

/-- A plugin with a failed dependency fails, and the loader is not asked for it. -/
theorem skipped (h : AtTurn m root id c) {dependency : PluginId}
    (hf : failedDependency? (m.turn root id).containers { c with progress := .resolving } = some dependency) :
    (m.loadAll root).result.1.find? id = some { c with progress := .failed (.dependencyFailed id dependency) } ∧
    (activateNext m.loader root id (m.turn root id)).calls = [] ∧ ¬∃ answer, Asked m root id answer := by
  have ha : activateNext m.loader root id (m.turn root id) = .pure ({ m.turn root id with
      containers := (m.turn root id).containers.insert id
        { c with progress := .failed (.dependencyFailed id dependency) } }, .ok ()) := by
    simp [activateNext, h.waiting, hf, Container.markFailed, Container.advance, Container.state, Progress.state,
      PluginState.canBecome]
  have hfound : (activateNext m.loader root id (m.turn root id)).result.1.containers.find? id =
      some { c with progress := .failed (.dependencyFailed id dependency) } := by
    rw [ha]
    exact (IdMap.find?_insert ..).trans (if_pos rfl)
  refine ⟨h.outcome.trans hfound, by rw [ha]; rfl, ?_⟩
  rintro ⟨answer, _, ⟨c', hc', rfl⟩, htaken⟩
  obtain rfl := Option.some.inj (h.waiting.symm.trans hc')
  -- The loader would have told another cause.
  rw [htaken] at hfound
  rcases m.loader.load_cases root (c := { c with progress := .resolving }) rfl (m.turn root id).active.keys with
    ⟨plugin, _, hl⟩ | ⟨calls, cause, _, hl⟩ <;> simp [hl, Loading.finish, IdMap.find?_insert] at hfound

/-- For a plugin without failed dependencies the loader is asked, and its answer is what becomes of the plugin. -/
theorem asked (h : AtTurn m root id c)
    (hf : failedDependency? (m.turn root id).containers { c with progress := .resolving } = none) :
    Asked m root id (m.loader.load root { c with progress := .resolving } (m.turn root id).active.keys) ∧
    (m.loadAll root).result.1.find? id =
      some (m.loader.load root { c with progress := .resolving } (m.turn root id).active.keys).result.1 := by
  have ha : Asked m root id (m.loader.load root { c with progress := .resolving } (m.turn root id).active.keys) :=
    ⟨h.ordered, ⟨_, h.waiting, rfl⟩, by simp [activateNext, h.waiting, hf]⟩
  refine ⟨ha, ?_⟩
  rw [h.outcome, ha.taken]
  simp only [Loading.finish]
  split <;> exact (IdMap.find?_insert ..).trans (if_pos rfl)

end AtTurn

/-- The loader answers that a plugin is loaded or could not be activated, and calls no other plugin. -/
theorem Fresh.answered (h : m.Fresh) (ha : m.Asked root id answer) :
    ∃ c, m.containers.find? id = some c ∧ (m.loadAll root).result.1.find? id = some answer.result.1 ∧
      (∀ call ∈ answer.calls, call.plugin = id) ∧
      ((∃ plugin, answer.result = ({ c with progress := .loaded plugin }, .ok ())) ∨
        ∃ fault, answer.result = ({ c with progress := .failed (.activationError id fault) },
          .error (.activationError id fault))) := by
  obtain ⟨c, hc⟩ := h.resolved.given_of_mem_order ha.ordered
  have hturn := h.atTurn root ha.ordered hc
  have hkey : c.manifest.id = id := h.keyed id c hc
  cases hf : failedDependency? (m.turn root id).containers { c with progress := .resolving } with
  | some dependency => exact absurd ⟨answer, ha⟩ (hturn.skipped hf).2.2
  | none =>
    obtain ⟨c', hc', rfl⟩ := ha.answers
    obtain rfl := Option.some.inj (hturn.waiting.symm.trans hc')
    refine ⟨c, hc, (hturn.asked hf).2, ?_⟩
    rcases m.loader.load_cases root (c := { c with progress := .resolving }) rfl (m.turn root id).active.keys with
      ⟨plugin, _, hl⟩ | ⟨calls, fault, hv, hl⟩
    · rw [hl]
      exact ⟨by simp [Call.plugin, hkey], Or.inl ⟨plugin, rfl⟩⟩
    · rw [hl]
      refine ⟨?_, Or.inr ⟨fault, by simp [Container.id, hkey]⟩⟩
      cases hv <;> simp [Call.plugin, hkey]

/-! ## All plugins -/

theorem Fresh.settled (h : m.Fresh) (root : FileTree) : ∃ p,
    (m.loadAll root).result.1.containers = progressed m.containers p ∧
    Settled (startOf m.resolution) m.resolution.order p := by
  obtain ⟨calls, p, s, hs, hl⟩ := h.loadAll root
  refine ⟨p, ?_, hs.toSettled⟩
  rw [hl]
  exact hs.containers

/-- Loading changes nothing of a container but how far it got. -/
theorem Fresh.find?_loadAll (h : m.Fresh) (root : FileTree) : ∃ p : PluginId → Progress, ∀ x,
    (m.loadAll root).result.1.find? x = (m.containers.find? x).map fun c => { c with progress := p x } := by
  obtain ⟨p, hp, _⟩ := h.settled root
  exact ⟨p, fun x => by rw [find?, hp, find?_progressed]⟩

/-- Loading keeps what plugins say about themselves. -/
theorem Fresh.manifest_eq (h : m.Fresh) (root : FileTree) (hc : (m.loadAll root).result.1.find? id = some c) :
    ∃ c₀, m.containers.find? id = some c₀ ∧ c.manifest = c₀.manifest := by
  obtain ⟨p, hp⟩ := h.find?_loadAll root
  rw [hp] at hc
  obtain ⟨c₀, h₀, rfl⟩ := Option.map_eq_some_iff.mp hc
  exact ⟨c₀, h₀, rfl⟩

theorem Fresh.loadOrder_sublist (h : m.Fresh) (root : FileTree) :
    (m.loadAll root).result.1.loadOrder.Sublist m.resolution.order := by
  obtain ⟨calls, p, s, hs, hl⟩ := h.loadAll root
  rw [hl]
  exact hs.within

/-- A plugin outside the order keeps the cause of its exclusion. -/
theorem Fresh.find?_of_excluded (h : m.Fresh) (root : FileTree) {cause : PluginError}
    (he : m.resolution.excluded.find? id = some cause) :
    ∃ c, m.containers.find? id = some c ∧
      (m.loadAll root).result.1.find? id = some { c with progress := .failed cause } := by
  obtain ⟨⟨c, hc⟩, hno⟩ := (h.resolved.excluded id).mp (IdMap.mem_keys_iff.mpr ⟨cause, he⟩)
  have hid := mt h.resolved.mem_order_iff.mp hno
  obtain ⟨p, hp, hs⟩ := h.settled root
  refine ⟨c, hc, ?_⟩
  rw [Manager.find?, hp, find?_progressed_of hc, hs.untouched id hid, startOf, if_neg hid, he]
  rfl

theorem Fresh.mem_order_or_excluded (h : m.Fresh) (hc : m.containers.find? id = some c) :
    id ∈ m.resolution.order ∨ ∃ cause, m.resolution.excluded.find? id = some cause := by
  by_cases hid : id ∈ m.resolution.order
  · exact Or.inl hid
  · exact Or.inr (IdMap.mem_keys_iff.mp ((h.resolved.excluded id).mpr ⟨⟨c, hc⟩, mt h.resolved.mem_order_iff.mpr hid⟩))

end PluginHost.Manager
