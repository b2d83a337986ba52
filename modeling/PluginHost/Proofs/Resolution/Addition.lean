import Mathlib
import PluginHost.Proofs.Resolution.Restriction

/-!
# Adding a plugin nobody depends on

A plugin that no other one declares changes nothing for the others, whatever it depends on itself: without it the
order, the excluded plugins, the absent optional dependencies and the graph are the same (`ofContainers_insert`).

* What another plugin requires does not come to the added one, so the others are kept with all that they require
  (`Adds.keeps`), whichever cycles are found on the way.
* So the graphs differ in the added node only, and nothing waits for it (`Resolved.order_of_adds`).
-/

namespace PluginHost.Resolution

variable {given given' : PluginId → Option Container} {r r' : Resolution} {q x y : PluginId} {d : Dependency}

/-! ## One plugin more -/

/-- Some plugins and one more, which none of them declares. -/
structure Adds (given : PluginId → Option Container) (q : PluginId) (given' : PluginId → Option Container) : Prop where
  fresh : given q = none
  agree : ∀ x, x ≠ q → given' x = given x
  undeclared : ∀ x d, Declares given x d → d.id ≠ q

namespace Adds

theorem declares_iff (h : Adds given q given') (hx : x ≠ q) : Declares given' x d ↔ Declares given x d := by
  rw [Declares, Declares, h.agree x hx]

/-- What another plugin declares is another plugin. -/
theorem declared_ne (h : Adds given q given') (hx : x ≠ q) (hd : Declares given' x d) : d.id ≠ q :=
  h.undeclared x d ((h.declares_iff hx).mp hd)

/-- The plugins without the added one are kept with all that they require. -/
theorem keeps (h : Adds given q given') : Keeps given' (· ≠ q) given where
  given_iff x c := by
    by_cases hx : x = q
    · simp [hx, h.fresh]
    · simp [hx, h.agree x hx]
  closed _ _ hx hd _ := h.declared_ne hx hd

end Adds

/-! ## The resolutions -/

theorem Resolved.excluded_of_adds (h : Resolved given r) (h' : Resolved given' r') (hq : Adds given q given') :
    r'.excluded.keys.filter (· ≠ q) = r.excluded.keys := by
  have hkeys : Ascending r'.excluded.keys := r'.excluded.ascending
  refine (hkeys.filter _).ext r.excluded.ascending fun x => ?_
  show _ ↔ x ∈ r.excluded.keys
  rw [List.mem_filter, h'.excluded, h.excluded]
  by_cases hx : x = q
  · simp [hx, hq.fresh]
  · simp [hx, hq.agree x hx, hq.keeps.resolvable_iff]

/-- Between other plugins the edges are the same. -/
theorem Resolved.graph_of_adds (h : Resolved given r) (h' : Resolved given' r') (hq : Adds given q given') :
    r'.graph.removeNode q = r.graph := by
  refine (h'.wellFormed.removeNode q).eq_of_mem_iff h.wellFormed (fun x => ?_) fun ⟨x, y, required⟩ => ?_
  · rw [h'.mem_nodes_of_keeps h hq.keeps, Graph.removeNode, List.mem_filter, decide_eq_true_eq, and_comm]
  · rw [h'.mem_edges_of_keeps h hq.keeps, Graph.removeNode, List.mem_filter, decide_eq_true_eq, and_comm]

/-- No edge leads from another plugin to the added one. -/
theorem Resolved.unneeded_of_adds (h' : Resolved given' r') (hq : Adds given q given') : r'.graph.Unneeded q := by
  rintro ⟨x, y, required⟩ he ht
  obtain ⟨_, ⟨d, hd, hid, _⟩, _⟩ := (h'.edges x y required).mp he
  by_contra hx
  exact hq.declared_ne hx hd (hid.trans ht)

theorem Resolved.order_of_adds (h : Resolved given r) (h' : Resolved given' r') (hq : Adds given q given')
    (hacyclic : Acyclic r'.graph.Requires) : r'.order.filter (· ≠ q) = r.order := by
  have hgraph := h.graph_of_adds h' hq
  refine Graph.filter_leastOrder_of_removeNode h'.wellFormed hacyclic (h'.unneeded_of_adds hq) h'.order ?_
  rw [hgraph]
  exact h.order

/-! ## Absent optional dependencies -/

variable {known known' : IdMap Container} {s : Survey} {id : PluginId}

/-- What an optional declaration says of a dependency that is not there. -/
def absence? (given : PluginId → Option Container) (p : Declaration) : Option (PluginId × PluginId) :=
  if (given p.2.id).isNone ∧ p.2.required = false then some (p.1, p.2.id) else none

theorem absentOptional_blame {cause : PluginError} : (s.blame id cause).absentOptional = s.absentOptional := by
  unfold Survey.blame
  split <;> rfl

theorem absentOptional_look :
    (s.look known id d).absentOptional = s.absentOptional ++ (absence? known.find? (id, d)).toList := by
  unfold Survey.look absence?
  cases known.find? d.id with
  | none => cases hr : d.required <;> simp [absentOptional_blame]
  | some target =>
    dsimp only
    split
    · split <;> simp [absentOptional_blame]
    · split <;> simp

theorem absentOptional_foldl_look : ∀ (ds : List Declaration) (s : Survey),
    (ds.foldl (fun s p => s.look known p.1 p.2) s).absentOptional =
      s.absentOptional ++ ds.filterMap (absence? known.find?)
  | [], s => (List.append_nil _).symm
  | p :: ds, s => by
    rw [List.foldl_cons, absentOptional_foldl_look ds, absentOptional_look, List.filterMap_cons, List.append_assoc]
    cases absence? known.find? (p.1, p.2) <;> rfl

/-- The absent optional dependencies stand in the order of the declarations. -/
theorem absentOptional_survey :
    (survey known).absentOptional = (declarations known).filterMap (absence? known.find?) := by
  rw [survey_eq_foldl, absentOptional_foldl_look]
  rfl

theorem declarations_erase : declarations (known.erase q) = (declarations known).filter (·.1 ≠ q) := by
  show (known.entries.filter _).flatMap _ = (known.entries.flatMap _).filter _
  induction known.entries with
  | nil => rfl
  | cons p entries ih =>
    rw [List.flatMap_cons, List.filter_append, ← ih]
    by_cases hp : p.1 = q
    · simp [hp]
    · simp [hp, List.filter_map, Function.comp_def]

/-- Among the absent optional dependencies, those of the others are the same. -/
theorem absentOptional_of_adds (h : Adds known.find? q known'.find?) (herase : known'.erase q = known) :
    (survey known').absentOptional.filter (·.1 ≠ q) = (survey known).absentOptional := by
  rw [absentOptional_survey, absentOptional_survey, ← herase, declarations_erase, herase, List.filter_filterMap,
    List.filterMap_filter]
  refine List.filterMap_congr fun p hp => ?_
  obtain ⟨x, d⟩ := p
  by_cases hx : x = q
  · simp only [absence?, hx]
    split <;> simp
  · have hd : d.id ≠ q := h.declared_ne hx (mem_declarations.mp hp)
    simp only [absence?, h.agree d.id hd]
    split <;> simp [hx]

/-! ## The added plugin -/

variable {before after : List Container} {added : Container}

theorem latest?_insert (hnew : ∀ c ∈ before ++ after, c.id ≠ added.id) (x : PluginId) :
    latest? (before ++ added :: after) x = if x = added.id then some added else latest? (before ++ after) x := by
  simp only [latest?, List.reverse_append, List.reverse_cons, List.find?_append, List.append_assoc]
  by_cases hx : x = added.id
  · have hafter : after.reverse.find? (·.id = x) = none := List.find?_eq_none.mpr fun c hc => by
      simpa [hx] using hnew c (List.mem_append_right before (List.mem_reverse.mp hc))
    simp [hx ▸ hafter, hx]
  · simp [hx, Ne.symm hx]

theorem adds_insert (hnew : ∀ c ∈ before ++ after, c.id ≠ added.id ∧ ∀ d ∈ c.dependencies, d.id ≠ added.id) :
    Adds (latest? (before ++ after)) added.id (latest? (before ++ added :: after)) where
  fresh := by
    rw [Option.eq_none_iff_forall_ne_some]
    intro c hc
    obtain ⟨c', hc', hid⟩ := exists_latest?_iff.mp ⟨c, hc⟩
    exact (hnew c' hc').1 hid
  agree x hx := by rw [latest?_insert fun c hc => (hnew c hc).1, if_neg hx]
  undeclared x d hd := by
    obtain ⟨c, hc, hdc⟩ := hd
    exact (hnew c (mem_of_latest?_eq_some hc).1).2 d hdc

theorem knownOf_insert (hnew : ∀ c ∈ before ++ after, c.id ≠ added.id) :
    (knownOf (before ++ added :: after)).erase added.id = knownOf (before ++ after) := by
  refine IdMap.ext_find? fun x => ?_
  rw [IdMap.find?_erase, find?_knownOf, find?_knownOf, latest?_insert hnew]
  by_cases hx : x = added.id
  · have hnone : ¬∃ c, latest? (before ++ after) x = some c := fun h => by
      obtain ⟨c, hc, hid⟩ := exists_latest?_iff.mp h
      exact hnew c hc (hid.trans hx)
    rw [if_pos hx, Option.eq_none_iff_forall_ne_some.mpr fun c hc => hnone ⟨c, hc⟩]
  · rw [if_neg hx, if_neg hx]

/-- A plugin with a new id that no other one declares can be added anywhere, whatever it depends on itself: without it
the order is the same, and so are the excluded plugins, the absent optional dependencies and the graph. -/
theorem ofContainers_insert (before after : List Container) (added : Container)
    (hnew : ∀ c ∈ before ++ after, c.id ≠ added.id ∧ ∀ d ∈ c.dependencies, d.id ≠ added.id) :
    let r := ofContainers (before ++ after)
    let r' := ofContainers (before ++ added :: after)
    r'.order.filter (· ≠ added.id) = r.order ∧
    r'.excluded.keys.filter (· ≠ added.id) = r.excluded.keys ∧
    r'.absentOptional.filter (·.1 ≠ added.id) = r.absentOptional ∧
    r'.graph.removeNode added.id = r.graph := by
  intro r r'
  have h : Resolved (latest? (before ++ after)) r := resolved_ofContainers _
  have h' : Resolved (latest? (before ++ added :: after)) r' := resolved_ofContainers _
  have hadds := adds_insert hnew
  have habsent : ∀ cs, (ofContainers cs).absentOptional = (survey (knownOf cs)).absentOptional := fun _ => rfl
  refine ⟨h.order_of_adds h' hadds (resolving_ofContainers _).2.1, h.excluded_of_adds h' hadds, ?_,
    h.graph_of_adds h' hadds⟩
  rw [habsent, habsent]
  refine absentOptional_of_adds ?_ (knownOf_insert fun c hc => (hnew c hc).1)
  rw [find?_knownOf, find?_knownOf]
  exact hadds

/-- A plugin that is ordered between two others, with a dependency on itself and one that is absent: what is found
without it is what is found with it, apart from its own part. -/
theorem ofContainers_insert_between :
    let plugin := fun (id : PluginId) (dependencies : List Dependency) =>
      ({ manifest := { id, version := "1.0.0", dependencies } } : Container)
    let before := [plugin "d" [{ id := "a" }], plugin "x" [{ id := "y" }]]
    let after := [plugin "a" [{ id := "z", required := false }]]
    let added := plugin "b" [{ id := "a" }, { id := "b", required := false }, { id := "w", required := false }]
    let r := ofContainers (before ++ after)
    let r' := ofContainers (before ++ added :: after)
    (r'.order = ["a", "b", "d"] ∧ r'.excluded.keys = ["x"] ∧ r'.absentOptional = [("a", "z"), ("b", "w")]) ∧
    (r.order = ["a", "d"] ∧ r.excluded.keys = ["x"] ∧ r.absentOptional = [("a", "z")]) ∧
    r'.graph.removeNode "b" = r.graph := by
  intro plugin before after added r r'
  have hnew : ∀ c ∈ before ++ after, c.id ≠ added.id ∧ ∀ d ∈ c.dependencies, d.id ≠ added.id := by decide
  obtain ⟨horder, hexcluded, habsent, hgraph⟩ := ofContainers_insert before after added hnew
  have horder' : r'.order = ["a", "b", "d"] := by cbv
  have hexcluded' : r'.excluded.keys = ["x"] := by cbv
  have habsent' : r'.absentOptional = [("a", "z"), ("b", "w")] := by cbv
  refine ⟨⟨horder', hexcluded', habsent'⟩, ⟨?_, ?_, ?_⟩, hgraph⟩
  · calc r.order = r'.order.filter (· ≠ "b") := horder.symm
      _ = ["a", "d"] := by rw [horder']; decide
  · calc r.excluded.keys = r'.excluded.keys.filter (· ≠ "b") := hexcluded.symm
      _ = ["x"] := by rw [hexcluded']; decide
  · calc r.absentOptional = r'.absentOptional.filter (·.1 ≠ "b") := habsent.symm
      _ = [("a", "z")] := by rw [habsent']; decide

end PluginHost.Resolution
