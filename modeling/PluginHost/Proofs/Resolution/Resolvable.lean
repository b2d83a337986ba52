import PluginHost.Proofs.Graph.Path
import PluginHost.Proofs.Ordered.IdMap
import PluginHost.Resolution.Basic

/-!
# Resolvable plugins

`Resolvable given id` says without any algorithm which plugins can be loaded: the plugin is given, each dependency it
requires is given with a version that will do, and is resolvable in turn. As an inductive predicate it is the least such
set, so that plugins on a cycle are not in it (`not_resolvable_of_cycle`).
-/

open Relation (TransGen)

namespace PluginHost

/-- The container that counts for an id: the last one. -/
def latest? (containers : List Container) (id : PluginId) : Option Container :=
  containers.reverse.find? (·.id = id)

theorem exists_latest?_iff {containers : List Container} {id : PluginId} :
    (∃ c, latest? containers id = some c) ↔ ∃ c ∈ containers, c.id = id := by
  rw [← Option.isSome_iff_exists, latest?, List.find?_isSome]
  simp

theorem mem_of_latest?_eq_some {containers : List Container} {id : PluginId} {c : Container}
    (h : latest? containers id = some c) : c ∈ containers ∧ c.id = id :=
  ⟨List.mem_reverse.mp (List.mem_of_find?_eq_some h), by simpa using List.find?_some h⟩

/-- Without repeated ids every container counts for its id. -/
theorem latest?_eq_some_iff {containers : List Container} (hn : (containers.map Container.id).Nodup) {id : PluginId}
    {c : Container} : latest? containers id = some c ↔ c ∈ containers ∧ c.id = id := by
  refine ⟨mem_of_latest?_eq_some, ?_⟩
  rintro ⟨hc, rfl⟩
  obtain ⟨c', hc'⟩ := exists_latest?_iff.mpr ⟨c, hc, rfl⟩
  obtain ⟨hmem, hid⟩ := mem_of_latest?_eq_some hc'
  rwa [List.inj_on_of_nodup_map hn hmem hc hid] at hc'

theorem find?_ofList_containers (containers : List Container) (id : PluginId) :
    (IdMap.ofList (containers.map fun c => (c.id, c))).find? id = latest? containers id := by
  rw [IdMap.find?_ofList, latest?, ← List.map_reverse, List.find?_map, Option.map_map]
  exact Option.map_id'

namespace Resolution

/-- A plugin declares a dependency. -/
def Declares (given : PluginId → Option Container) (id : PluginId) (d : Dependency) : Prop :=
  ∃ c, given id = some c ∧ d ∈ c.dependencies

/-- A dependency is given with a version that will do. -/
def Accepted (given : PluginId → Option Container) (d : Dependency) : Prop :=
  ∃ target, given d.id = some target ∧ d.accepts target.version = true

/-- Plugins that can be loaded. -/
inductive Resolvable (given : PluginId → Option Container) : PluginId → Prop
  | intro {id : PluginId} {c : Container} (found : given id = some c)
      (accepted : ∀ d ∈ c.manifest.requiredDependencies, Accepted given d)
      (resolvable : ∀ d ∈ c.manifest.requiredDependencies, Resolvable given d.id) : Resolvable given id

variable {given : PluginId → Option Container} {id x y : PluginId} {d : Dependency}

theorem mem_requiredDependencies {c : Container} :
    d ∈ c.manifest.requiredDependencies ↔ d ∈ c.dependencies ∧ d.required = true := by
  simp [Manifest.requiredDependencies, Container.dependencies]

/-- What a resolvable plugin requires is given with a version that will do. -/
theorem Resolvable.accepted_of_mem {c : Container} (h : Resolvable given id) (hc : given id = some c)
    (hd : d ∈ c.manifest.requiredDependencies) : Accepted given d := by
  cases h with
  | intro found accepted _ =>
    obtain rfl := Option.some.inj (hc.symm.trans found)
    exact accepted d hd

theorem Resolvable.accepted_of_declares (h : Resolvable given id) (hd : Declares given id d) (hr : d.required = true) :
    Accepted given d := by
  obtain ⟨c, hc, hdc⟩ := hd
  exact h.accepted_of_mem hc (mem_requiredDependencies.mpr ⟨hdc, hr⟩)

theorem Resolvable.of_declares (h : Resolvable given id) (hd : Declares given id d) (hr : d.required = true) :
    Resolvable given d.id := by
  obtain ⟨c, hc, hdc⟩ := hd
  cases h with
  | intro found _ resolvable =>
    obtain rfl := Option.some.inj (hc.symm.trans found)
    exact resolvable d (mem_requiredDependencies.mpr ⟨hdc, hr⟩)

/-- A relation along which each plugin requires the next. -/
def Follows (given : PluginId → Option Container) (R : PluginId → PluginId → Prop) : Prop :=
  ∀ x y, R x y → ∃ d, Declares given x d ∧ d.required = true ∧ d.id = y

variable {R : PluginId → PluginId → Prop}

/-- Along requirements, resolvable plugins lead to resolvable ones. -/
theorem Resolvable.of_follows (hR : Follows given R) (h : Resolvable given x) (hxy : R x y) : Resolvable given y := by
  obtain ⟨d, hd, hr, rfl⟩ := hR x y hxy
  exact h.of_declares hd hr

/-- Resolvable plugins are accessible along requirements. -/
theorem Resolvable.acc (hR : Follows given R) (h : Resolvable given x) : Acc (fun y x => R x y) x := by
  induction h with
  | intro found _ _ ih =>
    refine Acc.intro _ fun y hxy => ?_
    obtain ⟨d, ⟨c, hc, hdc⟩, hr, rfl⟩ := hR _ y hxy
    obtain rfl := Option.some.inj (hc.symm.trans found)
    exact ih d (mem_requiredDependencies.mpr ⟨hdc, hr⟩)

/-- A plugin on a cycle of requirements is not resolvable. -/
theorem not_resolvable_of_cycle (hR : Follows given R) (h : TransGen R x x) : ¬Resolvable given x :=
  fun hx => not_transGen_of_acc (hx.acc hR) h

/-! ## Plugins that can be resolved -/

/-- One plugin requires another one, which may be missing or have a version that will not do. -/
def Demands (given : PluginId → Option Container) (x y : PluginId) : Prop :=
  ∃ d, Declares given x d ∧ d.required = true ∧ d.id = y

theorem follows_demands : Follows given (Demands given) := fun _ _ h => h

/-- Plugins whose required dependencies are accepted and among them are resolvable, when none of them is on a cycle. -/
theorem resolvable_of_closed {known : IdMap Container} {P : PluginId → Prop}
    (hgiven : ∀ x, P x → ∃ c, known.find? x = some c)
    (hclosed : ∀ x d, P x → Declares known.find? x d → d.required = true → Accepted known.find? d ∧ P d.id)
    (hacyclic : ∀ x, P x → ¬TransGen (Demands known.find?) x x) : ∀ x, P x → Resolvable known.find? x := by
  classical
  intro x hx
  by_contra hno
  -- Of the plugins that are not resolvable one requires no other of them, as there is no cycle.
  have hR : Acyclic fun x y => P x ∧ Demands known.find? x y := by
    intro z hz
    obtain ⟨y, hzy, _⟩ := TransGen.head'_iff.mp hz
    exact hacyclic z hzy.1 (TransGen.mono (fun _ _ h => h.2) _ _ hz)
  have hmem : ∀ z, z ∈ known.keys.filter (fun z => P z ∧ ¬Resolvable known.find? z) ↔
      P z ∧ ¬Resolvable known.find? z := by
    intro z
    rw [List.mem_filter, decide_eq_true_eq, and_iff_right_of_imp]
    exact fun h => IdMap.mem_keys_iff.mpr (hgiven z h.1)
  obtain ⟨z, hz, hmin⟩ := hR.exists_minimal (List.ne_nil_of_mem ((hmem x).mpr ⟨hx, hno⟩))
  obtain ⟨hPz, hnoz⟩ := (hmem z).mp hz
  obtain ⟨c, hc⟩ := hgiven z hPz
  have hdeps : ∀ d ∈ c.manifest.requiredDependencies, Accepted known.find? d ∧ P d.id ∧ Demands known.find? z d.id := by
    intro d hd
    obtain ⟨hdc, hr⟩ := mem_requiredDependencies.mp hd
    obtain ⟨ha, hP⟩ := hclosed z d hPz ⟨c, hc, hdc⟩ hr
    exact ⟨ha, hP, d, ⟨c, hc, hdc⟩, hr, rfl⟩
  refine hnoz (.intro hc (fun d hd => (hdeps d hd).1) fun d hd => ?_)
  obtain ⟨_, hP, hdemands⟩ := hdeps d hd
  by_contra hnod
  exact hmin d.id ((hmem d.id).mpr ⟨hP, hnod⟩) ⟨hPz, hdemands⟩

end Resolution
end PluginHost
