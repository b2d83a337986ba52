import PluginHost.Proofs.Host.Progress
import PluginHost.Proofs.Ordered.Precedes

/-!
# Loading

What loading keeps while the plugins of an order are activated one after the other. `Underway` says what holds after
some of them: these are loaded or failed, and the loaded ones are those that were activated, each after all that it
requires.

* `Underway.step`: one more plugin of the order keeps it, if what the plugin requires came before.
* `Underway.run`: so the whole order does.
-/

namespace PluginHost.Manager

/-- What a given plugin requires comes before it in a list. -/
def Before (base : Containers) (l : List PluginId) (id : PluginId) : Prop :=
  ∀ c, base.find? id = some c → ∀ d ∈ c.manifest.requiredDependencies, Precedes l d.id id

/-- The plugins of a list got to a last state, the others not further than before. -/
structure Settled (start : PluginId → Progress) (done : List PluginId) (p : PluginId → Progress) : Prop where
  untouched : ∀ id, id ∉ done → p id = start id
  settled : ∀ id ∈ done, (p id).state = .loaded ∨ (p id).state = .failed

/-- What holds after the plugins `done` of an order: `start` says how far plugins got before, and `p` how far they have
got now. -/
structure Underway (l : Loader) (base : Containers) (start : PluginId → Progress) (done : List PluginId)
    (calls : List Call) (p : PluginId → Progress) (s : Loading) : Prop extends Settled start done p where
  containers : s.containers = progressed base p
  loaded : ∀ id, (p id).state = .loaded ↔ id ∈ s.loadOrder
  active : ∀ id, id ∈ s.active.keys ↔ id ∈ s.loadOrder
  within : s.loadOrder.Sublist done
  /-- The load order is that of the activations. -/
  order : s.loadOrder = l.activated calls
  orderly : l.Orderly calls
  before : ∀ id ∈ s.loadOrder, Before base s.loadOrder id
  running : stopped calls = []

variable {l : Loader} {root : FileTree} {base : Containers} {start p : PluginId → Progress} {done : List PluginId}
  {calls more : List Call} {s : Loading} {id : PluginId} {c : Container}

theorem Settled.update (h : Settled start done p) {next : Progress}
    (hnext : next.state = .loaded ∨ next.state = .failed) :
    Settled start (done ++ [id]) (Function.update p id next) := by
  refine ⟨fun id' hid' => ?_, fun id' hid' => ?_⟩
  · simp only [List.mem_append, List.mem_singleton, not_or] at hid'
    rw [Function.update_of_ne hid'.2]
    exact h.untouched id' hid'.1
  · by_cases he : id' = id
    · rw [he, Function.update_self]
      exact hnext
    · rw [Function.update_of_ne he]
      rcases List.mem_append.mp hid' with hd | hd
      · exact h.settled id' hd
      · exact absurd (List.mem_singleton.mp hd) he

theorem underway_start (l : Loader) (base : Containers) (h : ∀ id, (start id).state ≠ .loaded) :
    Underway l base start [] [] start { containers := progressed base start, loadOrder := [] } where
  untouched _ _ := rfl
  settled _ h := by cases h
  containers := rfl
  loaded id := by simp [h id]
  active id := by simp
  within := .slnil
  order := rfl
  orderly := l.orderly_nil
  before _ h := by cases h
  running := rfl

namespace Underway

/-- A plugin whose required dependencies are intact and came before sees them all. -/
theorem sees (h : Underway l base start done calls p s) (hdone : ∀ d ∈ c.manifest.requiredDependencies, d.id ∈ done)
    (hintact : ∀ d ∈ c.manifest.requiredDependencies, Intact base p d) :
    (∀ d ∈ c.manifest.requiredDependencies, d.id ∈ s.loadOrder) ∧ l.Sees calls (l.contextOf c s.active.keys) := by
  have hdeps : ∀ d ∈ c.manifest.requiredDependencies, d.id ∈ s.loadOrder := fun d hd =>
    (h.loaded d.id).mp ((h.settled d.id (hdone d hd)).resolve_right (hintact d hd).2)
  refine ⟨hdeps, fun id => ?_, fun d hd => (h.active d.id).mpr (hdeps d hd)⟩
  rw [Loader.loaded_contextOf, h.active, h.order]

theorem not_mem_loadOrder (h : Underway l base start done calls p s) (hid : id ∉ done) : id ∉ s.loadOrder :=
  fun hl => hid (h.within.subset hl)

/-- A plugin fails, be it asked or not. -/
theorem fail (h : Underway l base start done calls p s) (hid : id ∉ done) (cause : PluginError)
    (hactivated : l.activated more = []) (hstopped : stopped more = []) (horderly : l.Orderly (calls ++ more)) :
    Underway l base start (done ++ [id]) (calls ++ more) (Function.update p id (.failed cause))
      (reaching s base (Function.update p id (.failed cause))) where
  toSettled := h.toSettled.update (Or.inr rfl)
  containers := rfl
  loaded id' := by
    by_cases he : id' = id
    · simp [he, Progress.state, h.not_mem_loadOrder hid]
    · rw [Function.update_of_ne he]
      exact h.loaded id'
  active := h.active
  within := h.within.trans (List.sublist_append_left done [id])
  order := by
    rw [Loader.activated_append, hactivated, List.append_nil]
    exact h.order
  orderly := horderly
  before := h.before
  running := by rw [stopped_append, h.running, hstopped, List.append_nil]

theorem succeed (h : Underway l base start done calls p s) (hid : id ∉ done) (hc : base.find? id = some c)
    (hkey : c.id = id) {plugin : Plugin} (hdeps : ∀ d ∈ c.manifest.requiredDependencies, d.id ∈ s.loadOrder)
    (hsees : l.Sees calls (l.contextOf c s.active.keys))
    (hsucc : l.succeeds ⟨l.contextOf c s.active.keys, plugin⟩ = true) :
    Underway l base start (done ++ [id])
      (calls ++ [.create c.manifest, .activate ⟨l.contextOf c s.active.keys, plugin⟩])
      (Function.update p id (.loaded plugin))
      { containers := progressed base (Function.update p id (.loaded plugin))
        active := s.active.insert id plugin
        loadOrder := s.loadOrder ++ [id] } where
  toSettled := h.toSettled.update (Or.inl rfl)
  containers := rfl
  loaded id' := by
    by_cases he : id' = id
    · simp [he, Progress.state]
    · rw [Function.update_of_ne he]
      simp [h.loaded, he]
  active id' := by
    rw [IdMap.mem_keys_insert, h.active, List.mem_append, List.mem_singleton, or_comm]
  within := h.within.append (List.Sublist.refl [id])
  order := by
    have hmore := l.activated_of_succeeds hsucc
    rw [Loader.manifest_contextOf] at hmore
    rw [Loader.activated_append, hmore, ← h.order]
    exact congrArg (fun x => s.loadOrder ++ [x]) hkey.symm
  orderly := h.orderly.attempt hsees c.manifest plugin
  before id' hid' := by
    rcases List.mem_append.mp hid' with hl | hl
    · exact fun c hc d hd => (h.before id' hl c hc d hd).append_right [id]
    · obtain rfl := List.mem_singleton.mp hl
      intro c' hc' d hd
      obtain rfl := Option.some.inj (hc.symm.trans hc')
      exact Precedes.of_mem_append (hdeps d hd) hl
  running := by
    rw [stopped_append, h.running]
    rfl

/-- One more plugin of the order, if what it requires came before. -/
theorem step (h : Underway l base start done calls p s) (root : FileTree) (hid : id ∉ done)
    (hc : base.find? id = some c) (hkey : c.id = id) (hstart : start id = .resolving)
    (hdone : ∀ d ∈ c.manifest.requiredDependencies, d.id ∈ done) :
    ∃ more p' s', activateNext l root id s = { calls := more, result := (s', .ok ()) } ∧
      Underway l base start (done ++ [id]) (calls ++ more) p' s' := by
  have hp : p id = .resolving := (h.untouched id hid).trans hstart
  rcases activateNext_cases l root h.containers hc hp with
    ⟨dependency, _, ha⟩ | ⟨hintact, ⟨plugin, hsucc, ha⟩ | ⟨more, cause, hv, ha⟩⟩
  · exact ⟨[], _, _, ha, h.fail hid _ rfl rfl (by simpa using h.orderly)⟩
  · obtain ⟨hdeps, hsees⟩ := h.sees hdone hintact
    exact ⟨_, _, _, ha, h.succeed hid hc hkey hdeps hsees hsucc⟩
  · obtain ⟨_, hsees⟩ := h.sees hdone hintact
    exact ⟨more, _, _, ha, h.fail hid _ hv.activated hv.stopped (h.orderly.vain hsees hv)⟩

/-- A whole order in which plugins come after what they require. -/
theorem run (root : FileTree) (hkeyed : Keyed base) : ∀ (rest : List PluginId) {done : List PluginId}
    {calls : List Call} {p : PluginId → Progress} {s : Loading}, Underway l base start done calls p s →
    (done ++ rest).Nodup → (∀ id ∈ rest, ∃ c, base.find? id = some c) → (∀ id ∈ rest, start id = .resolving) →
    (∀ id ∈ rest, Before base (done ++ rest) id) →
    ∃ more p' s', activateAll l root rest s = { calls := more, result := (s', .ok ()) } ∧
      Underway l base start (done ++ rest) (calls ++ more) p' s'
  | [], done, calls, p, s, h, _, _, _, _ => ⟨[], p, s, rfl, by simpa using h⟩
  | id :: rest, done, calls, p, s, h, hn, hgiven, hstart, hbefore => by
    have happ : done ++ [id] ++ rest = done ++ id :: rest := by simp
    obtain ⟨c, hc⟩ := hgiven id List.mem_cons_self
    -- The order has no duplicates, so what the plugin requires is in the part before it.
    have hid : id ∉ done := fun hd => (List.nodup_append.mp hn).2.2 id hd id List.mem_cons_self rfl
    have hdone : ∀ d ∈ c.manifest.requiredDependencies, d.id ∈ done := fun d hd =>
      Precedes.mem_before hn (hbefore id List.mem_cons_self c hc d hd)
    obtain ⟨more, p₁, s₁, ha, h₁⟩ :=
      h.step root hid hc (hkeyed id c hc) (hstart id List.mem_cons_self) hdone
    obtain ⟨more', p₂, s₂, ha', h₂⟩ := run root hkeyed rest h₁ (happ ▸ hn)
      (fun id h => hgiven id (List.mem_cons_of_mem _ h)) (fun id h => hstart id (List.mem_cons_of_mem _ h))
      (fun id h => happ ▸ hbefore id (List.mem_cons_of_mem _ h))
    refine ⟨more ++ more', p₂, s₂, ?_, ?_⟩
    · simp only [activateAll, ha, ha']
    · rw [← List.append_assoc, ← happ]
      exact h₂

end Underway

end PluginHost.Manager
