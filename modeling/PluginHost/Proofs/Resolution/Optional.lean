import PluginHost.Proofs.Graph.Alike
import PluginHost.Proofs.Resolution.Causes
import PluginHost.Proofs.Resolution.Strict

/-!
# What optional dependencies change

Without their optional declarations the same plugins are excluded, for the same causes, and the same plugins are
ordered (`ofContainers_withoutOptional`).

* The two surveys blame alike (`causes_survey_withoutOptional`), and their graphs are alike in what is required
  (`alike_survey_withoutOptional`).
* From there the two resolutions go on in step: each round finds the same cycle in both graphs, excludes the same
  plugins, and leaves graphs that are alike (`peel_alike`).
-/

namespace PluginHost

/-- A container without its optional declarations. -/
def Container.withoutOptional (c : Container) : Container :=
  { c with manifest := { c.manifest with dependencies := c.manifest.requiredDependencies } }

namespace Resolution

variable {known : IdMap Container} {graph graph' : Graph} {x y : PluginId} {d : Dependency}

/-! ## Rounds in step -/

/-- A round excludes the same plugins in graphs that are alike, and leaves them alike. -/
theorem excludeDependents_alike (h : Graph.Alike graph graph') (excluded : IdMap PluginError) (failed : List PluginId) :
    (excludeDependents graph excluded failed).2 = (excludeDependents graph' excluded failed).2 ∧
    Graph.Alike (excludeDependents graph excluded failed).1 (excludeDependents graph' excluded failed).1 := by
  simp only [excludeDependents, h.requires_eq, h.nodes, true_and]
  exact h.removeNodes _

/-- Excluding cycles goes on in step in graphs that are alike. -/
theorem peel_alike : ∀ (n : Nat) (excluded : IdMap PluginError) {graph graph' : Graph}, Graph.Alike graph graph' →
    (peel n graph excluded).2.2 = (peel n graph' excluded).2.2 ∧
      (peel n graph excluded).1.Perm (peel n graph' excluded).1
  | 0, _, _, _, _ => ⟨rfl, .nil⟩
  | n + 1, excluded, graph, graph', h => by
    by_cases hacyclic : Acyclic graph.Requires
    · obtain ⟨order, hpeel, hleast⟩ := @peel_of_acyclic graph excluded h.left hacyclic n
      obtain ⟨order', hpeel', hleast'⟩ := @peel_of_acyclic graph' excluded h.right (h.acyclic_iff.mp hacyclic) n
      rw [hpeel, hpeel']
      exact ⟨rfl, hleast.perm.trans (h.nodes ▸ hleast'.perm.symm)⟩
    · obtain ⟨a, mid, hfound, _, hpeel⟩ := peel_of_cycle h.left hacyclic n excluded
      obtain ⟨a', mid', hfound', _, hpeel'⟩ := peel_of_cycle h.right (mt h.acyclic_iff.mpr hacyclic) n excluded
      have hsame : a :: mid ++ [a] = a' :: mid' ++ [a'] :=
        Option.some.inj (hfound.symm.trans (h.findCycle?_eq.trans hfound'))
      obtain ⟨rfl, hmid⟩ := List.cons.inj hsame
      obtain rfl := List.append_cancel_right hmid
      obtain ⟨hexcluded, halike⟩ := excludeDependents_alike h (blameCycle excluded (a :: mid)) (a :: mid)
      rw [hpeel, hpeel', excludeCycle, excludeCycle, ← hexcluded]
      exact peel_alike n _ halike

/-! ## The surveys -/

/-- Given containers without their optional declarations. -/
abbrev requiredOnly (known : IdMap Container) : IdMap Container :=
  known.mapValues fun _ => Container.withoutOptional

theorem find?_requiredOnly : (requiredOnly known).find? x = (known.find? x).map Container.withoutOptional :=
  IdMap.find?_mapValues

theorem latest?_map_withoutOptional (containers : List Container) (id : PluginId) :
    latest? (containers.map Container.withoutOptional) id = (latest? containers id).map Container.withoutOptional := by
  rw [latest?, ← List.map_reverse, List.find?_map]
  rfl

theorem knownOf_withoutOptional (containers : List Container) :
    knownOf (containers.map Container.withoutOptional) = requiredOnly (knownOf containers) := by
  refine IdMap.ext_find? fun id => ?_
  rw [find?_knownOf, latest?_map_withoutOptional, find?_requiredOnly, find?_knownOf]

theorem declares_requiredOnly_iff :
    Declares (requiredOnly known).find? x d ↔ Declares known.find? x d ∧ d.required = true := by
  simp only [Declares, find?_requiredOnly, Option.map_eq_some_iff]
  constructor
  · rintro ⟨_, ⟨c, hc, rfl⟩, hd⟩
    obtain ⟨hd, hr⟩ := mem_requiredDependencies.mp hd
    exact ⟨⟨c, hc, hd⟩, hr⟩
  · rintro ⟨⟨c, hc, hd⟩, hr⟩
    exact ⟨_, ⟨c, hc, rfl⟩, mem_requiredDependencies.mpr ⟨hd, hr⟩⟩

/-- Versions stay as they are. -/
theorem accepted_requiredOnly_iff : Accepted (requiredOnly known).find? d ↔ Accepted known.find? d := by
  simp only [Accepted, find?_requiredOnly, Option.map_eq_some_iff]
  constructor
  · rintro ⟨_, ⟨c, hc, rfl⟩, ha⟩
    exact ⟨c, hc, ha⟩
  · rintro ⟨c, hc, ha⟩
    exact ⟨_, ⟨c, hc, rfl⟩, ha⟩

theorem rejection?_requiredOnly : rejection? (requiredOnly known) x d = rejection? known x d := by
  unfold rejection?
  rw [find?_requiredOnly]
  cases known.find? d.id <;> rfl

/-- An optional declaration is blamed on nobody, so the required ones alone give the same cause. -/
theorem findSome?_rejection?_required (ds : List Dependency) :
    (ds.filter (·.required)).findSome? (rejection? known x) = ds.findSome? (rejection? known x) := by
  induction ds with
  | nil => rfl
  | cons d ds ih =>
    cases hr : d.required with
    | true => rw [List.filter_cons_of_pos hr, List.findSome?_cons, List.findSome?_cons, ih]
    | false =>
      have hnone : rejection? known x d = none := by simp [rejection?, hr]
      rw [List.filter_cons_of_neg (by simp [hr]), List.findSome?_cons, hnone, ih]

theorem causes_survey_withoutOptional : (survey (requiredOnly known)).causes = (survey known).causes := by
  refine IdMap.ext_find? fun id => ?_
  rw [find?_causes_survey, find?_causes_survey, find?_requiredOnly, Option.bind_map]
  refine congrArg (known.find? id).bind (funext fun c => ?_)
  have hsame : rejection? (requiredOnly known) id = rejection? known id := funext fun d => rejection?_requiredOnly
  rw [Function.comp, hsame]
  exact findSome?_rejection?_required c.dependencies

theorem alike_survey_withoutOptional (known : IdMap Container) :
    Graph.Alike (survey (requiredOnly known)).graph (survey known).graph where
  left := (surveyed_survey _).wellFormed
  right := (surveyed_survey _).wellFormed
  nodes := by
    refine (surveyed_survey _).wellFormed.nodes.ext (surveyed_survey _).wellFormed.nodes fun id => ?_
    simp only [mem_nodes_survey_iff, find?_requiredOnly, ← Option.isSome_iff_exists, Option.isSome_map]
  requires x y := by
    simp only [requires_survey_iff, declares_requiredOnly_iff, accepted_requiredOnly_iff]
    constructor
    · rintro ⟨d, ⟨hd, _⟩, hrest⟩
      exact ⟨d, hd, hrest⟩
    · rintro ⟨d, hd, hid, ha, hr⟩
      exact ⟨d, ⟨hd, hr⟩, hid, ha, hr⟩

/-! ## The resolutions -/

/-- Optional declarations change the order at most: without them the same plugins are excluded for the same causes, the
same plugins are ordered, and strict resolution tells the same error, if it tells one. -/
theorem ofContainers_withoutOptional (containers : List Container) :
    let required := containers.map Container.withoutOptional
    (ofContainers required).excluded = (ofContainers containers).excluded ∧
    (ofContainers required).order.Perm (ofContainers containers).order ∧
    ∀ e, strict required = .error e ↔ strict containers = .error e := by
  intro required
  have hpeel : (ofContainers required).excluded = (ofContainers containers).excluded ∧
      (ofContainers required).order.Perm (ofContainers containers).order := by
    have hknown : knownOf required = requiredOnly (knownOf containers) := knownOf_withoutOptional containers
    simp only [ofContainers]
    simp only [knownOf] at hknown
    rw [hknown, causes_survey_withoutOptional]
    generalize IdMap.ofList (containers.map fun c => (c.id, c)) = known
    obtain ⟨hexcluded, halike⟩ :=
      excludeDependents_alike (alike_survey_withoutOptional known) (survey known).causes (survey known).causes.keys
    rw [hexcluded, Graph.size, Graph.size, halike.nodes]
    exact peel_alike _ _ halike
  refine ⟨hpeel.1, hpeel.2, fun e => ?_⟩
  rw [strict_eq_error_iff, strict_eq_error_iff, firstCause?, firstCause?, hpeel.1]

end Resolution
end PluginHost
