import PluginHost.Proofs.Graph.WellFormed
import PluginHost.Proofs.Resolution.Resolvable

/-!
# What a survey finds

A survey looks at one declaration after the other. `Surveyed` says what is known after some of them: which plugins have
a cause of their own, and which edges there are. Each look keeps it (`Surveyed.look`), so the survey of all
declarations has it (`surveyed_survey`).
-/

namespace PluginHost.Resolution

/-- A declaration: a plugin and a dependency it declares. -/
abbrev Declaration := PluginId × Dependency

variable {known : IdMap Container} {looked : List Declaration} {s : Survey} {id x y : PluginId} {d : Dependency}

/-- A required dependency that is missing or has a version that will not do. -/
def Rejected (known : IdMap Container) (d : Dependency) : Prop := d.required = true ∧ ¬Accepted known.find? d

/-- An accepted dependency on a plugin. -/
def Link (known : IdMap Container) (y : PluginId) (d : Dependency) : Prop := d.id = y ∧ Accepted known.find? d

/-- An accepted dependency on a plugin that is required. -/
def RequiredLink (known : IdMap Container) (y : PluginId) (d : Dependency) : Prop := Link known y d ∧ d.required = true

/-- Among some declarations a plugin has one of a kind. -/
def Has (looked : List Declaration) (x : PluginId) (P : Dependency → Prop) : Prop := ∃ d, (x, d) ∈ looked ∧ P d

theorem has_append {P : Dependency → Prop} : Has (looked ++ [(id, d)]) x P ↔ Has looked x P ∨ x = id ∧ P d := by
  simp only [Has, List.mem_append, List.mem_singleton, Prod.mk.injEq]
  constructor
  · rintro ⟨d', hd' | ⟨rfl, rfl⟩, hP⟩
    · exact Or.inl ⟨d', hd', hP⟩
    · exact Or.inr ⟨rfl, hP⟩
  · rintro (⟨d', hd', hP⟩ | ⟨rfl, hP⟩)
    · exact ⟨d', Or.inl hd', hP⟩
    · exact ⟨d, Or.inr ⟨rfl, rfl⟩, hP⟩

/-- What is known after some declarations were looked at. -/
structure Surveyed (known : IdMap Container) (looked : List Declaration) (s : Survey) : Prop where
  wellFormed : s.graph.WellFormed
  nodes : ∀ id, id ∈ s.graph.nodes ↔ id ∈ known.keys
  /-- Blamed is who has a declaration that is rejected. -/
  causes : ∀ id, id ∈ s.causes.keys ↔ Has looked id (Rejected known)
  /-- A required edge stands for a required declaration that is accepted. -/
  required : ∀ x y, (⟨x, y, true⟩ : Edge) ∈ s.graph.edges ↔ Has looked x (RequiredLink known y)
  /-- An optional edge stands for declarations that are accepted, none of them required. -/
  optional : ∀ x y, (⟨x, y, false⟩ : Edge) ∈ s.graph.edges ↔
    Has looked x (Link known y) ∧ ¬Has looked x (RequiredLink known y)

/-! ## One look -/

theorem mem_keys_blame {cause : PluginError} : x ∈ (s.blame id cause).causes.keys ↔ x = id ∨ x ∈ s.causes.keys := by
  unfold Survey.blame
  split
  · rename_i h
    constructor
    · exact Or.inr
    · rintro (rfl | hx)
      · exact IdMap.contains_iff.mp h
      · exact hx
  · exact IdMap.mem_keys_insert

theorem graph_blame {cause : PluginError} : (s.blame id cause).graph = s.graph := by
  unfold Survey.blame
  split <;> rfl

theorem accepts_eq_false {target : Container} (hf : known.find? d.id = some target) (h : ¬Accepted known.find? d) :
    d.accepts target.version = false := by
  cases ha : d.accepts target.version with
  | false => rfl
  | true => exact absurd ⟨target, hf, ha⟩ h

/-- A rejected declaration is blamed on its plugin, and nothing else happens to causes and graph. -/
theorem look_of_rejected (h : Rejected known d) : (∀ x, x ∈ (s.look known id d).causes.keys ↔
    x = id ∨ x ∈ s.causes.keys) ∧ (s.look known id d).graph = s.graph := by
  unfold Survey.look
  cases hf : known.find? d.id with
  | none =>
    simp only [h.1, if_true]
    exact ⟨fun x => mem_keys_blame, graph_blame⟩
  | some target =>
    simp only [accepts_eq_false hf h.2, h.1, Bool.not_false, if_true]
    exact ⟨fun x => mem_keys_blame, graph_blame⟩

/-- An optional declaration that is not accepted changes neither causes nor graph. -/
theorem look_of_ignored (hr : d.required = false) (h : ¬Accepted known.find? d) :
    (s.look known id d).causes = s.causes ∧ (s.look known id d).graph = s.graph := by
  unfold Survey.look
  cases hf : known.find? d.id with
  | none => simp [hr]
  | some target => simp [accepts_eq_false hf h, hr]

/-- An accepted declaration adds an edge. -/
theorem look_of_accepted (h : Accepted known.find? d) (hx : id ∈ s.graph.nodes) (hy : d.id ∈ s.graph.nodes) :
    s.look known id d =
      { s with graph := { s.graph with edges := Graph.insertEdge ⟨id, d.id, d.required⟩ s.graph.edges } } := by
  obtain ⟨target, hf, ha⟩ := h
  simp only [Survey.look, hf, ha, Bool.not_true, Bool.false_eq_true, if_false, Graph.addEdge_eq_ok hx hy]

/-- Looking at an accepted declaration keeps what is known: its edge is added, and nobody is blamed. -/
theorem Surveyed.look_accepted (h : Surveyed known looked s) (ha : Accepted known.find? d) (hid : id ∈ known.keys) :
    Surveyed known (looked ++ [(id, d)]) (s.look known id d) := by
  have hx : id ∈ s.graph.nodes := (h.nodes _).mpr hid
  have hy : d.id ∈ s.graph.nodes := by
    obtain ⟨target, hf, _⟩ := ha
    exact (h.nodes _).mpr (IdMap.mem_keys_iff.mpr ⟨target, hf⟩)
  have hrej : ¬Rejected known d := fun hrej => hrej.2 ha
  rw [look_of_accepted ha hx hy]
  refine ⟨h.wellFormed.addEdge hx hy _, h.nodes, fun x => ?_, fun x y => ?_, fun x y => ?_⟩
  · rw [has_append, ← h.causes]
    exact ⟨Or.inl, fun hx => hx.resolve_right fun hx => hrej hx.2⟩
  · show _ ∈ Graph.insertEdge _ _ ↔ _
    rw [Graph.required_mem_insertEdge, h.required, has_append]
    refine or_congr_right ⟨?_, ?_⟩
    · rintro ⟨hr, rfl, rfl⟩
      exact ⟨rfl, ⟨rfl, ha⟩, hr⟩
    · rintro ⟨rfl, ⟨rfl, _⟩, hr⟩
      exact ⟨hr, rfl, rfl⟩
  · show _ ∈ Graph.insertEdge _ _ ↔ _
    rw [Graph.optional_mem_insertEdge h.wellFormed.edges.nodup, h.required, h.optional, has_append, has_append]
    by_cases hxy : id = x ∧ d.id = y
    · obtain ⟨rfl, rfl⟩ := hxy
      have hlink : Link known d.id d := ⟨rfl, ha⟩
      rw [if_pos ⟨rfl, rfl⟩]
      cases hr : d.required <;> simp [RequiredLink, hlink, hr]
    · have hno : ¬(x = id ∧ Link known y d) := fun h => hxy ⟨h.1.symm, h.2.1⟩
      have hno' : ¬(x = id ∧ RequiredLink known y d) := fun h => hno ⟨h.1, h.2.1⟩
      rw [if_neg hxy, or_iff_left hno, or_iff_left hno']

/-- Looking at a declaration that is not accepted keeps what is known: no edge is added, and its plugin is blamed if it
is required. -/
theorem Surveyed.look_not_accepted (h : Surveyed known looked s) (ha : ¬Accepted known.find? d) :
    Surveyed known (looked ++ [(id, d)]) (s.look known id d) := by
  have hgraph : (s.look known id d).graph = s.graph := by
    cases hr : d.required with
    | true => exact (look_of_rejected ⟨hr, ha⟩).2
    | false => exact (look_of_ignored hr ha).2
  have hlink : ∀ y, ¬Link known y d := fun y hl => ha hl.2
  have hrlink : ∀ y, ¬RequiredLink known y d := fun y hl => hlink y hl.1
  refine ⟨hgraph ▸ h.wellFormed, fun x => by rw [hgraph, h.nodes], fun x => ?_, fun x y => ?_, fun x y => ?_⟩
  · rw [has_append, ← h.causes]
    cases hr : d.required with
    | true =>
      have hrej : Rejected known d := ⟨hr, ha⟩
      rw [(look_of_rejected hrej).1, or_comm]
      simp [hrej]
    | false =>
      have hrej : ¬Rejected known d := fun hrej => by simp [hrej.1] at hr
      rw [(look_of_ignored hr ha).1]
      simp [hrej]
  · rw [hgraph, has_append, h.required]
    simp [hrlink]
  · rw [hgraph, has_append, has_append, h.optional]
    simp [hlink, hrlink]

/-! ## All looks -/

/-- Looking at declarations of known plugins one after the other keeps what is known. -/
theorem Surveyed.foldl : ∀ (ds : List Declaration) {looked : List Declaration} {s : Survey},
    Surveyed known looked s → (∀ p ∈ ds, p.1 ∈ known.keys) →
      Surveyed known (looked ++ ds) (ds.foldl (fun s p => s.look known p.1 p.2) s)
  | [], looked, s, h, _ => by simpa using h
  | (id, d) :: ds, looked, s, h, hds => by
    have hid : id ∈ known.keys := hds (id, d) List.mem_cons_self
    have hstep : Surveyed known (looked ++ [(id, d)]) (s.look known id d) := by
      by_cases ha : Accepted known.find? d
      · exact h.look_accepted ha hid
      · exact h.look_not_accepted ha
    have ih := Surveyed.foldl ds hstep fun p hp => hds p (List.mem_cons_of_mem _ hp)
    rwa [List.append_assoc] at ih

/-- All declarations, plugin by plugin. -/
def declarations (known : IdMap Container) : List Declaration :=
  known.entries.flatMap fun p => p.2.dependencies.map fun d => (p.1, d)

theorem mem_declarations {known : IdMap Container} {id : PluginId} {d : Dependency} :
    (id, d) ∈ declarations known ↔ Declares known.find? id d := by
  simp only [declarations, Declares, List.mem_flatMap, List.mem_map, Prod.mk.injEq]
  constructor
  · rintro ⟨⟨k, c⟩, hp, d', hd', rfl, rfl⟩
    exact ⟨c, IdMap.mem_entries_iff.mp hp, hd'⟩
  · rintro ⟨c, hc, hd⟩
    exact ⟨(id, c), IdMap.mem_entries_iff.mpr hc, d, hd, rfl, rfl⟩

theorem foldl_addNode : ∀ (ids : List PluginId) {g : Graph}, g.WellFormed → (ids.foldl Graph.addNode g).WellFormed ∧
    (ids.foldl Graph.addNode g).edges = g.edges ∧
    ∀ id, id ∈ (ids.foldl Graph.addNode g).nodes ↔ id ∈ ids ∨ id ∈ g.nodes
  | [], g, h => ⟨h, rfl, by simp⟩
  | x :: ids, g, h => by
    obtain ⟨h1, h2, h3⟩ := foldl_addNode ids (h.addNode x)
    refine ⟨h1, h2, fun id => ?_⟩
    rw [List.foldl_cons, h3, Graph.addNode, mem_insertAscending, List.mem_cons, or_left_comm, or_assoc]

/-- A survey looks at the declarations one after the other. -/
theorem survey_eq_foldl (known : IdMap Container) : survey known =
    (declarations known).foldl (fun s p => s.look known p.1 p.2) { graph := known.keys.foldl Graph.addNode {} } := by
  simp only [survey, declarations, List.foldl_flatMap, List.foldl_map]

theorem surveyed_survey (known : IdMap Container) : Surveyed known (declarations known) (survey known) := by
  obtain ⟨hwf, hedges, hnodes⟩ := foldl_addNode known.keys Graph.wellFormed_empty
  have hnone : ∀ e : Edge, e ∉ (known.keys.foldl Graph.addNode {}).edges := by
    intro e he
    rw [hedges] at he
    cases he
  have hempty : ∀ x P, ¬Has [] x P := fun x P h => by
    obtain ⟨d, hd, _⟩ := h
    cases hd
  have hstart : Surveyed known [] { graph := known.keys.foldl Graph.addNode {} } := by
    refine ⟨hwf, fun id => by simp [hnodes], fun id => ?_, fun x y => ?_, fun x y => ?_⟩
    · simp [hempty]
    · simp [hempty, hnone]
    · simp [hempty, hnone]
  have hknown : ∀ p ∈ declarations known, p.1 ∈ known.keys := by
    rintro ⟨id, d⟩ hp
    obtain ⟨c, hc, _⟩ := mem_declarations.mp hp
    exact IdMap.mem_keys_iff.mpr ⟨c, hc⟩
  rw [survey_eq_foldl]
  exact Surveyed.foldl (declarations known) hstart hknown

end PluginHost.Resolution
