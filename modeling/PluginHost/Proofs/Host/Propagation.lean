import PluginHost.Proofs.Host.Completion

/-!
# Failures are handed on

`Doomed` says without any algorithm which plugins fail: those that cannot be resolved, those the loader could not
activate, and whoever requires one of them. As an inductive predicate it is the least such set.

* `Fresh.findFailed?_iff`: these are the plugins that failed once the pipeline ran.
* `Fresh.asked_iff`: the loader is asked for the plugins of the order that find all they require loaded.
* `Fresh.asked_of_mem_calls`: no code of other plugins is called.
* `Fresh.loadOrder_eq`: the load order is the order without the plugins that failed.
-/

open Relation (TransGen)

namespace PluginHost

/-- A part of a list without duplicates keeps what is in it. -/
theorem eq_filter_of_sublist {α : Type} {p : α → Bool} {l l' : List α} (hs : l'.Sublist l) (hn : l.Nodup)
    (h : ∀ x ∈ l, x ∈ l' ↔ p x = true) : l' = l.filter p := by
  have hperm : l'.Perm (l.filter p) := by
    refine (List.perm_ext_iff_of_nodup (hs.nodup hn) (hn.filter p)).mpr fun x => ?_
    rw [List.mem_filter]
    constructor
    · exact fun hx => ⟨hs.subset hx, (h x (hs.subset hx)).mp hx⟩
    · rintro ⟨hx, hp⟩
      exact (h x hx).mpr hp
  exact (hn.perm_iff_eq_of_sublist hs List.filter_sublist).mp hperm

namespace Resolution

variable {given : PluginId → Option Container} {refused : PluginId → Prop} {known : IdMap Container} {id : PluginId}
  {c : Container}

/-- Plugins that fail when some are refused: one that requires what is not there or has a version that will not do, one
on a cycle of requirements, one that is refused, and one that requires a plugin that fails. -/
inductive Doomed (given : PluginId → Option Container) (refused : PluginId → Prop) : PluginId → Prop
  | rejected {id : PluginId} {d : Dependency} (declares : Declares given id d) (required : d.required = true)
      (rejected : ¬Accepted given d) : Doomed given refused id
  | cycle {id : PluginId} (closed : TransGen (Demands given) id id) : Doomed given refused id
  | refused {id : PluginId} (tried : refused id) : Doomed given refused id
  | handed {id : PluginId} {d : Dependency} (declares : Declares given id d) (required : d.required = true)
      (doomed : Doomed given refused d.id) : Doomed given refused id

/-- A given plugin that cannot be resolved is doomed, whoever is refused. -/
theorem doomed_of_not_resolvable (hc : known.find? id = some c) (h : ¬Resolvable known.find? id) :
    Doomed known.find? refused id := by
  by_contra hno
  refine h (resolvable_of_closed (P := fun x => (∃ c, known.find? x = some c) ∧ ¬Doomed known.find? refused x)
    (fun _ hx => hx.1) (fun x d hx hd hr => ?_) (fun x hx hcycle => hx.2 (.cycle hcycle)) id ⟨⟨c, hc⟩, hno⟩)
  obtain ⟨target, ht, ha⟩ : Accepted known.find? d := by
    by_contra ha
    exact hx.2 (.rejected hd hr ha)
  exact ⟨⟨target, ht, ha⟩, ⟨target, ht⟩, fun hdoomed => hx.2 (.handed hd hr hdoomed)⟩

end Resolution

namespace Manager

open Resolution (Declares Accepted Demands Doomed Resolvable)

variable {m : Manager} {root : FileTree} {id : PluginId} {c : Container}

/-- The loader is asked for a plugin and does not activate it. -/
def Refused (m : Manager) (root : FileTree) (id : PluginId) : Prop :=
  ∃ answer e, m.Asked root id answer ∧ answer.result.2 = .error e

/-! ## Who fails -/

theorem Fresh.isFailed_of_not_resolvable (h : m.Fresh) (root : FileTree) (hc : m.containers.find? id = some c)
    (hno : ¬Resolvable m.containers.find? id) : ((m.loadAll root).result.1.findFailed? id).isSome = true := by
  obtain ⟨cause, he⟩ := IdMap.mem_keys_iff.mp ((h.resolved.excluded id).mpr ⟨⟨c, hc⟩, hno⟩)
  obtain ⟨c', _, hc'⟩ := h.find?_of_excluded root he
  exact findFailed?_iff.mpr ⟨_, hc', rfl⟩

/-- A plugin with a failed dependency fails on account of the first one. -/
theorem Fresh.find?_of_failed_dependency (h : m.Fresh) (root : FileTree) (hid : id ∈ m.resolution.order)
    (hc : m.containers.find? id = some c) {d : Dependency}
    (hd : (m.loadAll root).result.1.firstFailed? c.manifest = some d) :
    (m.loadAll root).result.1.find? id = some { c with progress := .failed (.dependencyFailed id d.id) } := by
  have hturn := h.atTurn root hid hc
  have hf := hturn.failedDependency?_eq
  rw [hd, Option.map_some] at hf
  exact (hturn.skipped hf).1

/-- A plugin without failed dependencies fails when the loader does not activate it. -/
theorem Fresh.refused_of_isFailed (h : m.Fresh) (hid : id ∈ m.resolution.order)
    (hc : m.containers.find? id = some c) (hd : (m.loadAll root).result.1.firstFailed? c.manifest = none)
    (hfailed : ((m.loadAll root).result.1.findFailed? id).isSome = true) :
    m.Refused root id ∧ ∃ fault, (m.loadAll root).result.1.find? id =
      some { c with progress := .failed (.activationError id fault) } := by
  have hturn := h.atTurn root hid hc
  have hf := hturn.failedDependency?_eq
  rw [hd, Option.map_none] at hf
  obtain ⟨ha, _⟩ := hturn.asked hf
  obtain ⟨c₀, h₀, hfound, _, ⟨plugin, hok⟩ | ⟨fault, hfault⟩⟩ := h.answered ha
  · obtain ⟨c', hc', hf'⟩ := findFailed?_iff.mp hfailed
    rw [hok] at hfound
    rw [← Option.some.inj (hfound.symm.trans hc')] at hf'
    cases hf'
  · obtain rfl := Option.some.inj (hc.symm.trans h₀)
    rw [hfault] at hfound
    exact ⟨⟨_, _, ha, by rw [hfault]⟩, fault, hfound⟩

theorem Fresh.doomed_of_resolvable (h : m.Fresh) (hr : Resolvable m.containers.find? id)
    (hfailed : ((m.loadAll root).result.1.findFailed? id).isSome = true) :
    Doomed m.containers.find? (m.Refused root) id := by
  induction hr with
  | @intro id c found accepted resolvable ih =>
    have hid := h.resolved.mem_order_iff.mpr (.intro found accepted resolvable)
    cases hd : (m.loadAll root).result.1.firstFailed? c.manifest with
    | none => exact .refused (h.refused_of_isFailed hid found hd hfailed).1
    | some d =>
      have hmem := List.mem_of_find?_eq_some hd
      obtain ⟨hdc, hreq⟩ := Resolution.mem_requiredDependencies.mp hmem
      have hfailed' := List.find?_some hd
      exact .handed ⟨c, found, hdc⟩ hreq (ih d hmem hfailed')

theorem Fresh.isFailed_of_doomed (h : m.Fresh) (hdoomed : Doomed m.containers.find? (m.Refused root) id) :
    ((m.loadAll root).result.1.findFailed? id).isSome = true := by
  induction hdoomed with
  | rejected declares required rejected =>
    obtain ⟨c, hc, hdc⟩ := declares
    exact h.isFailed_of_not_resolvable root hc fun hr => rejected (hr.accepted_of_declares ⟨c, hc, hdc⟩ required)
  | cycle closed =>
    obtain ⟨y, ⟨d, ⟨c, hc, _⟩, _⟩, _⟩ := TransGen.head'_iff.mp closed
    exact h.isFailed_of_not_resolvable root hc (Resolution.not_resolvable_of_cycle Resolution.follows_demands closed)
  | refused tried =>
    obtain ⟨answer, e, ha, he⟩ := tried
    obtain ⟨c, _, hfound, _, ⟨plugin, hok⟩ | ⟨fault, hfault⟩⟩ := h.answered ha
    · rw [hok] at he
      cases he
    · rw [hfault] at hfound
      exact findFailed?_iff.mpr ⟨_, hfound, rfl⟩
  | @handed id d declares required doomed ih =>
    obtain ⟨c, hc, hdc⟩ := declares
    by_cases hr : Resolvable m.containers.find? id
    · have hid := h.resolved.mem_order_iff.mpr hr
      cases hf : (m.loadAll root).result.1.firstFailed? c.manifest with
      | none => exact absurd ih (List.find?_eq_none.mp hf d (Resolution.mem_requiredDependencies.mpr ⟨hdc, required⟩))
      | some first => exact findFailed?_iff.mpr ⟨_, h.find?_of_failed_dependency root hid hc hf, rfl⟩
    · exact h.isFailed_of_not_resolvable root hc hr

/-- The plugins that fail are the doomed ones. -/
theorem Fresh.findFailed?_iff (h : m.Fresh) : ((m.loadAll root).result.1.findFailed? id).isSome = true ↔
    Doomed m.containers.find? (m.Refused root) id := by
  refine ⟨fun hfailed => ?_, h.isFailed_of_doomed⟩
  by_cases hr : Resolvable m.containers.find? id
  · exact h.doomed_of_resolvable hr hfailed
  · obtain ⟨c, hc, _⟩ := Manager.findFailed?_iff.mp hfailed
    obtain ⟨c₀, h₀, _⟩ := h.manifest_eq root hc
    exact Resolution.doomed_of_not_resolvable h₀ hr

/-! ## Whom the loader is asked for -/

theorem Fresh.asked_iff (h : m.Fresh) : (∃ answer, m.Asked root id answer) ↔ id ∈ m.resolution.order ∧
    ∀ c, m.containers.find? id = some c → ∀ d ∈ c.manifest.requiredDependencies,
      ∃ target, (m.turn root id).containers.find? d.id = some target ∧ target.isLoaded = true := by
  constructor
  · rintro ⟨answer, ha⟩
    refine ⟨ha.ordered, fun c hc => ?_⟩
    have hturn := h.atTurn root ha.ordered hc
    rw [← hturn.failedDependency?_eq_none_iff]
    by_contra hf
    obtain ⟨dependency, hf⟩ := Option.ne_none_iff_exists'.mp hf
    exact (hturn.skipped hf).2.2 ⟨answer, ha⟩
  · rintro ⟨hid, hd⟩
    obtain ⟨c, hc⟩ := h.resolved.given_of_mem_order hid
    have hturn := h.atTurn root hid hc
    exact ⟨_, (hturn.asked (hturn.failedDependency?_eq_none_iff.mpr (hd c hc))).1⟩

/-- Every call is made while the loader is asked for its plugin. -/
theorem Fresh.asked_of_mem_calls (h : m.Fresh) {call : Call} (hcall : call ∈ (m.loadAll root).calls) :
    ∃ answer, m.Asked root call.plugin answer ∧ call ∈ answer.calls := by
  rw [h.loadAll_eq root] at hcall
  obtain ⟨done, id, rest, horder, hcall⟩ := exists_turn_of_mem_calls _ _ hcall
  have hid : id ∈ m.resolution.order := by simp [horder]
  obtain ⟨c, hc⟩ := h.resolved.given_of_mem_order hid
  have hturn := h.atTurn root hid hc
  rw [← turn_of_order h.resolved.nodup_order horder] at hcall
  cases hf : failedDependency? (m.turn root id).containers { c with progress := .resolving } with
  | some dependency =>
    rw [(hturn.skipped hf).2.1] at hcall
    cases hcall
  | none =>
    obtain ⟨ha, _⟩ := hturn.asked hf
    rw [ha.taken] at hcall
    obtain ⟨_, _, _, hplugin, _⟩ := h.answered ha
    obtain rfl := hplugin call hcall
    exact ⟨_, ha, hcall⟩

/-! ## The load order -/

theorem Fresh.loadOrder_eq (h : m.Fresh) : (m.loadAll root).result.1.loadOrder =
    m.resolution.order.filter fun id => ((m.loadAll root).result.1.findFailed? id).isNone := by
  have hcompleted := h.completed root
  refine eq_filter_of_sublist (h.loadOrder_sublist root) h.resolved.nodup_order fun id hid => ?_
  obtain ⟨c, hc⟩ := h.resolved.given_of_mem_order hid
  obtain ⟨p, hp, _⟩ := h.settled root
  rw [hcompleted.loadOrder]
  exact hcompleted.isLoaded_iff_isNone (hp ▸ find?_progressed_of hc)

/-- Failures are handed on exactly. The plugins that fail are the doomed ones, and the loader is asked for the plugins
of the order that find all they require loaded, so that the code of no other plugin is called. An excluded plugin keeps
the cause of its exclusion, one of the order fails on account of its first failed dependency, and any other failure is
one of activation. The load order is the order without the plugins that failed. -/
theorem loadAll_propagates {m : Manager} (h : m.Fresh) (root : FileTree) :
    let r := m.resolution
    let m' := (m.loadAll root).result.1
    (∀ id, (m'.findFailed? id).isSome = true ↔ Doomed m.containers.find? (m.Refused root) id) ∧
    (∀ id, (∃ answer, m.Asked root id answer) ↔ id ∈ r.order ∧
      ∀ c, m.containers.find? id = some c → ∀ d ∈ c.manifest.requiredDependencies,
        ∃ target, (m.turn root id).containers.find? d.id = some target ∧ target.isLoaded = true) ∧
    (∀ call ∈ (m.loadAll root).calls, ∃ answer, m.Asked root call.plugin answer ∧ call ∈ answer.calls) ∧
    (∀ id cause, r.excluded.find? id = some cause →
      ∃ c, m'.findFailed? id = some c ∧ c.failure? = some cause) ∧
    (∀ id c d, id ∈ r.order → m'.find? id = some c → m'.firstFailed? c.manifest = some d →
      c.failure? = some (.dependencyFailed id d.id)) ∧
    (∀ id c, m'.findFailed? id = some c → r.excluded.find? id = none →
      (∀ d ∈ c.manifest.requiredDependencies, m'.findFailed? d.id = none) →
      ∃ fault, c.failure? = some (.activationError id fault)) ∧
    m'.loadOrder = r.order.filter fun id => (m'.findFailed? id).isNone := by
  intro r m'
  refine ⟨fun id => h.findFailed?_iff, fun id => h.asked_iff, fun call hcall => h.asked_of_mem_calls hcall,
    fun id cause he => ?_, fun id c d hid hc hd => ?_, fun id c hfailed he hd => ?_, h.loadOrder_eq⟩
  · obtain ⟨c, _, hc⟩ := h.find?_of_excluded root he
    exact ⟨_, by rw [findFailed?, hc]; rfl, rfl⟩
  · obtain ⟨c₀, h₀, hmanifest⟩ := h.manifest_eq root hc
    rw [hmanifest] at hd
    rw [Option.some.inj (hc.symm.trans (h.find?_of_failed_dependency root hid h₀ hd))]
    rfl
  · have hc : m'.find? id = some c := (Option.filter_eq_some_iff.mp hfailed).1
    obtain ⟨c₀, h₀, hmanifest⟩ := h.manifest_eq root hc
    rw [hmanifest] at hd
    have hnone : m'.firstFailed? c₀.manifest = none :=
      List.find?_eq_none.mpr fun d hmem => by simp [hd d hmem]
    have hid : id ∈ r.order := by
      rcases h.mem_order_or_excluded h₀ with hid | ⟨cause, hcause⟩
      · exact hid
      · rw [he] at hcause
        cases hcause
    obtain ⟨_, fault, hfound⟩ := h.refused_of_isFailed hid h₀ hnone (Option.isSome_iff_exists.mpr ⟨c, hfailed⟩)
    rw [Option.some.inj (hc.symm.trans hfound)]
    exact ⟨fault, rfl⟩

/-- The plugin that refuses to start takes the one with it that requires it, not the one that does nothing; and the one
that requires what is not there fails for that reason. -/
theorem partlyFailing_propagates :
    let root := FileTree.empty
    let doomed := Doomed partlyFailing.containers.find? (partlyFailing.Refused root)
    doomed "c" ∧ ¬doomed "a" ∧
    ∃ c, (partlyFailing.loadAll root).result.1.findFailed? "d" = some c ∧
      c.failure? = some (.missingDependency "d" "x") := by
  intro root doomed
  obtain ⟨hdoomed, _, _, hexcluded, _⟩ := loadAll_propagates fresh_partlyFailing root
  have hfailed : ∀ id, ((partlyFailing.loadAll root).result.1.findFailed? id).isSome =
      ((activateAll partlyFailing.loader root partlyFailing.resolution.order
        partlyFailing.begun).result.1.containers.find? id).any (·.isFailed) := by
    intro id
    rw [findFailed?, find?, fresh_partlyFailing.containers_loadAll, Option.isSome_filter]
  refine ⟨(hdoomed "c").mp ?_, mt (hdoomed "a").mpr ?_, hexcluded "d" _ (by cbv)⟩
  · rw [hfailed]
    cbv
  · have ha : ((partlyFailing.loadAll root).result.1.findFailed? "a").isSome = false := by
      rw [hfailed]
      cbv
    rw [ha]
    exact Bool.false_ne_true

end Manager
end PluginHost
