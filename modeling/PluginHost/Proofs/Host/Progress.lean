import Mathlib.Logic.Function.Basic
import PluginHost.Host.Manager
import PluginHost.Proofs.Ordered.IdMap
import PluginHost.Proofs.Plugin.Activation

/-!
# Containers under way

Loading changes nothing of a container but its progress, so the containers of a manager are those it started with and a
function that says how far each plugin got (`progressed`).

* `failExcluded_progressed`, `beginAll_progressed`: what is done before the first activation is never refused.
* `activateNext_cases`: an activation puts one plugin into a last state.
-/

namespace PluginHost.Manager

variable {base : Containers} {p q : PluginId → Progress} {id : PluginId} {c : Container}

/-- The containers of plugins stand under their ids. -/
def Keyed (base : Containers) : Prop := ∀ id c, base.find? id = some c → c.id = id

theorem Keyed.map_id_values (h : Keyed base) : base.values.map (·.id) = base.keys := by
  rw [IdMap.values, IdMap.keys, List.map_map]
  exact List.map_congr_left fun ⟨k, c⟩ he => h k c (IdMap.mem_entries_iff.mp he)

/-- Containers of plugins that got so far. -/
def progressed (base : Containers) (p : PluginId → Progress) : Containers :=
  base.mapValues fun id c => { c with progress := p id }

@[simp] theorem find?_progressed :
    (progressed base p).find? id = (base.find? id).map fun c => { c with progress := p id } :=
  IdMap.find?_mapValues

theorem find?_progressed_of (h : base.find? id = some c) :
    (progressed base p).find? id = some { c with progress := p id } := by
  rw [find?_progressed, h, Option.map_some]

theorem find?_eq_of_progressed (h : (progressed base p).find? id = some c) :
    ∃ c₀, base.find? id = some c₀ ∧ c = { c₀ with progress := p id } := by
  rw [find?_progressed] at h
  obtain ⟨c₀, h₀, rfl⟩ := Option.map_eq_some_iff.mp h
  exact ⟨c₀, h₀, rfl⟩

theorem isLoaded_progressed {c₀ : Container} {next : Progress} :
    ({ c₀ with progress := next } : Container).isLoaded = true ↔ next.state = .loaded :=
  decide_eq_true_iff

theorem isFailed_progressed {c₀ : Container} {next : Progress} :
    ({ c₀ with progress := next } : Container).isFailed = true ↔ next.state = .failed :=
  decide_eq_true_iff

theorem progressed_insert (h : base.find? id = some c) (next : Progress) :
    (progressed base p).insert id { c with progress := next } = progressed base (Function.update p id next) := by
  refine IdMap.ext_find? fun id' => ?_
  rw [IdMap.find?_insert, find?_progressed, find?_progressed]
  by_cases hid : id' = id
  · rw [if_pos hid, hid, h, Option.map_some, Function.update_self]
  · rw [if_neg hid, Function.update_of_ne hid]

theorem Keyed.insert (h : Keyed base) (hc : c.id = id) : Keyed (base.insert id c) := by
  intro id' c' hc'
  rw [IdMap.find?_insert] at hc'
  split at hc'
  · rename_i he
    obtain rfl := Option.some.inj hc'
    exact hc.trans he.symm
  · exact h id' c' hc'

theorem Keyed.progressed (h : Keyed base) (p : PluginId → Progress) : Keyed (progressed base p) := by
  intro id c hc
  obtain ⟨c₀, h₀, rfl⟩ := find?_eq_of_progressed hc
  exact h id c₀ h₀

/-! ## Before the first activation -/

/-- What holds of plugins is not changed by another one that gets further. -/
theorem update_of_not_mem {ids : List PluginId} {next : Progress} (hid : id ∉ ids) (hp : ∀ x ∈ ids, p x = .discovered) :
    ∀ x ∈ ids, Function.update p id next x = .discovered := by
  intro x hx
  have hne : x ≠ id := fun h => hid (h ▸ hx)
  rw [Function.update_of_ne hne]
  exact hp x hx

/-- Plugins that are where discovery leaves them fail without refusal. -/
theorem failExcluded_progressed : ∀ (excluded : List (PluginId × PluginError)) {p : PluginId → Progress},
    (excluded.map Prod.fst).Nodup → (∀ id ∈ excluded.map Prod.fst, ∃ c, base.find? id = some c) →
    (∀ id ∈ excluded.map Prod.fst, p id = .discovered) →
    failExcluded excluded (progressed base p) =
      (progressed base fun id => ((excluded.lookup id).map Progress.failed).getD (p id), .ok ())
  | [], p, _, _, _ => rfl
  | (id, cause) :: rest, p, hn, hgiven, hp => by
    obtain ⟨c, hc⟩ := hgiven id List.mem_cons_self
    obtain ⟨hid, hrest⟩ := List.nodup_cons.mp hn
    have hstep : failExcluded ((id, cause) :: rest) (progressed base p) =
        failExcluded rest (progressed base (Function.update p id (.failed cause))) := by
      rw [← progressed_insert hc]
      simp [failExcluded, hc, hp id List.mem_cons_self, Container.markFailed, Container.advance, Container.state,
        Progress.state, PluginState.canBecome]
    rw [hstep, failExcluded_progressed rest hrest (fun id h => hgiven id (List.mem_cons_of_mem _ h)) ?_]
    · congr 2
      funext id'
      by_cases hid' : id' = id
      · have hnone : rest.lookup id = none := by
          cases hl : rest.lookup id with
          | none => rfl
          | some cause => exact absurd (List.mem_map_of_mem ((IdMap.lookup_eq_some_iff hrest).mp hl)) hid
        rw [hid', Keyed.lookup_cons, if_pos rfl, hnone]
        simp
      · rw [Keyed.lookup_cons, if_neg hid', Function.update_of_ne hid']
    · exact update_of_not_mem hid fun id h => hp id (List.mem_cons_of_mem _ h)

/-- Plugins that are where discovery leaves them are about to be activated without refusal. -/
theorem beginAll_progressed : ∀ (order : List PluginId) {p : PluginId → Progress}, order.Nodup →
    (∀ id ∈ order, ∃ c, base.find? id = some c) → (∀ id ∈ order, p id = .discovered) →
    beginAll order (progressed base p) = (progressed base fun id => if id ∈ order then .resolving else p id, .ok ())
  | [], p, _, _, _ => by simp [beginAll]
  | id :: rest, p, hn, hgiven, hp => by
    obtain ⟨c, hc⟩ := hgiven id List.mem_cons_self
    obtain ⟨hid, hrest⟩ := List.nodup_cons.mp hn
    have hstep : beginAll (id :: rest) (progressed base p) =
        beginAll rest (progressed base (Function.update p id .resolving)) := by
      rw [← progressed_insert hc]
      simp [beginAll, hc, hp id List.mem_cons_self, Container.beginResolving, Container.advance, Container.state,
        Progress.state, PluginState.canBecome]
    rw [hstep, beginAll_progressed rest hrest (fun id h => hgiven id (List.mem_cons_of_mem _ h)) ?_]
    · congr 2
      funext id'
      by_cases hid' : id' = id
      · simp [hid', hid]
      · simp [hid']
    · exact update_of_not_mem hid fun id h => hp id (List.mem_cons_of_mem _ h)

/-! ## One activation -/

/-- A dependency that is there and did not fail. -/
def Intact (base : Containers) (p : PluginId → Progress) (d : Dependency) : Prop :=
  (∃ c, base.find? d.id = some c) ∧ (p d.id).state ≠ .failed

/-- Every required dependency is intact when none is found that is not. -/
theorem intact_of_failedDependency? (h : failedDependency? (progressed base p) c = none) :
    ∀ d ∈ c.manifest.requiredDependencies, Intact base p d := by
  intro d hd
  have hno : ¬((progressed base p).find? d.id).all (·.isFailed) = true :=
    List.find?_eq_none.mp (Option.map_eq_none_iff.mp h) d hd
  rw [find?_progressed] at hno
  cases hc : base.find? d.id with
  | none => simp [hc] at hno
  | some target =>
    refine ⟨⟨target, hc⟩, fun hf => hno ?_⟩
    simp [hc, Container.isFailed, Container.state, hf]

variable {s : Loading}

/-- A loading where the plugins got so far. -/
abbrev reaching (s : Loading) (base : Containers) (p : PluginId → Progress) : Loading :=
  { s with containers := progressed base p }

/-- What activating a plugin comes to: a required dependency failed and nothing is called, or all are intact and the
plugin is activated, or fails. -/
theorem activateNext_cases (l : Loader) (root : FileTree) (hs : s.containers = progressed base p)
    (hc : base.find? id = some c) (hp : p id = .resolving) :
    (∃ dependency, failedDependency? s.containers { c with progress := .resolving } = some dependency ∧
      activateNext l root id s =
        .pure (reaching s base (Function.update p id (.failed (.dependencyFailed id dependency))), .ok ())) ∨
    (∀ d ∈ c.manifest.requiredDependencies, Intact base p d) ∧
    ((∃ plugin, l.succeeds ⟨l.contextOf c s.active.keys, plugin⟩ = true ∧ activateNext l root id s =
      { calls := [.create c.manifest, .activate ⟨l.contextOf c s.active.keys, plugin⟩]
        result := ({ containers := progressed base (Function.update p id (.loaded plugin))
                     active := s.active.insert id plugin
                     loadOrder := s.loadOrder ++ [id] }, .ok ()) }) ∨
    ∃ calls cause, l.Vain (l.contextOf c s.active.keys) calls ∧ activateNext l root id s =
      { calls
        result := (reaching s base (Function.update p id (.failed (.activationError c.id cause))), .ok ()) }) := by
  have hfind : s.containers.find? id = some { c with progress := .resolving } := by
    rw [hs, find?_progressed_of hc, hp]
  have hinsert : ∀ next, s.containers.insert id { c with progress := next } =
      progressed base (Function.update p id next) := fun next => by rw [hs, progressed_insert hc]
  cases hf : failedDependency? s.containers { c with progress := .resolving } with
  | some dependency =>
    refine Or.inl ⟨dependency, rfl, ?_⟩
    rw [reaching, ← hinsert]
    simp [activateNext, hfind, hf, Container.markFailed, Container.advance, Container.state, Progress.state,
      PluginState.canBecome]
  | none =>
    refine Or.inr ⟨intact_of_failedDependency? (hs ▸ hf), ?_⟩
    rcases l.load_cases root (c := { c with progress := .resolving }) rfl s.active.keys with
      ⟨plugin, hsucc, hl⟩ | ⟨calls, cause, hv, hl⟩
    · refine Or.inl ⟨plugin, hsucc, ?_⟩
      rw [← hinsert]
      simp [activateNext, hfind, hf, hl, Loading.finish, Container.plugin?]
    · refine Or.inr ⟨calls, cause, hv, ?_⟩
      rw [reaching, ← hinsert]
      simp [activateNext, hfind, hf, hl, Loading.finish, Container.id]

end PluginHost.Manager
