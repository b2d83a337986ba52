import Mathlib
import PluginHost.Proofs.Resolution.Exact

/-!
# What a resolution looks at

Of several containers with one id the last one counts, and of that one a resolution looks at its version and its
dependencies only. So containers whose last ones declare the same are resolved alike, whatever else there is among them
and however they are ordered (`resolved_alike`).

* `survey_congr`: neither the order of the looks nor what each of them finds depends on anything else.
* `latest?_perm`: without repeated ids each container is the last one of its id, in every order.
-/

namespace PluginHost

/-- What a resolution looks at in a container. -/
def Container.declared (c : Container) : String × List Dependency := (c.version, c.dependencies)

/-- Which containers count does not depend on their order when no id is repeated. -/
theorem latest?_perm {containers others : List Container} (h : containers.Perm others)
    (hn : (containers.map Container.id).Nodup) (id : PluginId) : latest? others id = latest? containers id := by
  have hn' : (others.map Container.id).Nodup := (h.map Container.id).nodup_iff.mp hn
  refine Option.ext fun c => ?_
  rw [latest?_eq_some_iff hn', latest?_eq_some_iff hn, h.mem_iff]

namespace Resolution

variable {known known' : IdMap Container} {id : PluginId}

/-! ## The survey -/

/-- Under every id the same is declared. -/
def SameDeclared (known known' : IdMap Container) : Prop :=
  ∀ id, (known'.find? id).map Container.declared = (known.find? id).map Container.declared

/-- A look sees of other plugins whether they are there, and their versions. -/
theorem look_congr (h : SameDeclared known known') : Survey.look known' = Survey.look known := by
  funext id s d
  have hd := h d.id
  unfold Survey.look
  cases hf : known.find? d.id with
  | none =>
    rw [hf, Option.map_none, Option.map_eq_none_iff] at hd
    rw [hd]
  | some target =>
    rw [hf, Option.map_some, Option.map_eq_some_iff] at hd
    obtain ⟨target', hf', hsame⟩ := hd
    have hversion : target'.version = target.version := congrArg Prod.fst hsame
    simp only [hf', hversion]

/-- The same declarations are looked at in the same order. -/
theorem entries_congr (h : SameDeclared known known') :
    known'.entries.map (fun p => (p.1, p.2.declared)) = known.entries.map fun p => (p.1, p.2.declared) := by
  have hmaps : known'.mapValues (fun _ c => c.declared) = known.mapValues fun _ c => c.declared := by
    refine IdMap.ext_find? fun id => ?_
    rw [IdMap.find?_mapValues, IdMap.find?_mapValues]
    exact h id
  exact congrArg IdMap.entries hmaps

theorem keys_congr (h : SameDeclared known known') : known'.keys = known.keys := by
  have hfst := congrArg (List.map Prod.fst) (entries_congr h)
  rwa [List.map_map, List.map_map] at hfst

theorem declarations_congr (h : SameDeclared known known') : declarations known' = declarations known := by
  have hpairs : ∀ known : IdMap Container, declarations known =
      (known.entries.map fun p => (p.1, p.2.declared)).flatMap fun p => p.2.2.map fun d => (p.1, d) := by
    intro known
    rw [declarations, List.flatMap_map]
    rfl
  rw [hpairs, hpairs, entries_congr h]

theorem survey_congr (h : SameDeclared known known') : survey known' = survey known := by
  rw [survey_eq_foldl, survey_eq_foldl, declarations_congr h, keys_congr h, look_congr h]

/-! ## The resolutions -/

/-- What is looked at decides the resolution, as nothing after the survey sees the containers. -/
theorem ofContainers_congr {containers others : List Container}
    (h : ∀ id, (latest? others id).map Container.declared = (latest? containers id).map Container.declared) :
    ofContainers others = ofContainers containers := by
  have hsame : SameDeclared (knownOf containers) (knownOf others) := by
    intro id
    rw [find?_knownOf, find?_knownOf]
    exact h id
  have hsurvey := survey_congr hsame
  simp only [knownOf] at hsurvey
  simp only [ofContainers, hsurvey]

theorem strict_congr {containers others : List Container} (h : ofContainers others = ofContainers containers) :
    strict others = strict containers := by
  simp only [strict, h]

/-- A resolution depends on nothing but what the last container of each id declares. When two lists agree in that, they
have the same order, the same excluded plugins with the same causes, the same absent optional dependencies in the same
order, and the same graph, and strict resolution of both comes to the same result or the same error. So it is with a
list without repeated ids and every permutation of it. -/
theorem resolved_alike :
    (∀ containers others : List Container,
      (∀ id, (latest? others id).map Container.declared = (latest? containers id).map Container.declared) →
      ofContainers others = ofContainers containers ∧ strict others = strict containers) ∧
    ∀ containers others : List Container, containers.Perm others → (containers.map Container.id).Nodup →
      ofContainers others = ofContainers containers ∧ strict others = strict containers := by
  have halike : ∀ containers others : List Container,
      (∀ id, (latest? others id).map Container.declared = (latest? containers id).map Container.declared) →
      ofContainers others = ofContainers containers ∧ strict others = strict containers := by
    intro containers others h
    have hsame := ofContainers_congr h
    exact ⟨hsame, strict_congr hsame⟩
  refine ⟨halike, fun containers others hperm hn => halike containers others fun id => ?_⟩
  rw [latest?_perm hperm hn]

/-- A container that a later one replaces does not count, nor does how far a plugin got. -/
theorem resolved_alike_replaced :
    let replaced : Container := { manifest := { id := "a", version := "1.0.0", dependencies := [{ id := "x" }] } }
    let a : Container := { manifest := { id := "a", version := "2.0.0" } }
    let b : Container := { manifest := { id := "b", version := "1.0.0", dependencies := [{ id := "a" }] } }
    let containers := [replaced, b, a]
    let others := [b, { a with progress := .resolving }]
    (ofContainers others = ofContainers containers ∧ strict others = strict containers) ∧
    ofContainers others.reverse = ofContainers others ∧ (ofContainers containers).order = ["a", "b"] := by
  intro replaced a b containers others
  have hsame : ∀ id, (latest? others id).map Container.declared = (latest? containers id).map Container.declared := by
    intro id
    by_cases ha : "a" = id
    · subst ha
      rfl
    · by_cases hb : "b" = id
      · subst hb
        rfl
      · simp [latest?, containers, others, replaced, a, b, Container.id, ha, hb]
  have hn : (others.map Container.id).Nodup := by decide
  obtain ⟨hreplaced, hpermuted⟩ := resolved_alike
  exact ⟨hreplaced containers others hsame, (hpermuted others others.reverse others.reverse_perm.symm hn).1, by cbv⟩

end Resolution
end PluginHost
