import PluginHost.Graph.Basic
import PluginHost.Proofs.Ordered.Ascending

/-!
# Well-formed graphs

What every graph keeps that is built from nothing (`Graph.wellFormed_build`): nodes and edges are ascending, the ends of
an edge are nodes, and two nodes have at most one edge from the one to the other.
-/

namespace PluginHost

/-- Edges that are both required, or both not, stand in the order of their ends. -/
theorem Edge.lt_iff_of_required_eq {a b : Edge} (h : a.required = b.required) :
    a < b ↔ a.source < b.source ∨ a.source = b.source ∧ a.target < b.target := by
  rw [Edge.lt_iff, h]
  refine or_congr_right (and_congr_right fun _ => or_iff_left ?_)
  rintro ⟨_, hf, ht⟩
  rw [hf] at ht
  cases ht

instance : Std.Irrefl (α := Edge) (· < ·) where
  irrefl e h := by
    rcases Edge.lt_iff.mp h with h | ⟨_, h | ⟨_, h1, h2⟩⟩
    · exact String.lt_irrefl _ h
    · exact String.lt_irrefl _ h
    · rw [h1] at h2
      cases h2

namespace Graph

/-! ## Changes -/

/-- A change of a graph. -/
inductive Change where
  | addNode (id : PluginId)
  | addPlugin (c : Container)
  | addEdge (source target : PluginId) (required : Bool)
  | removeNode (id : PluginId)

/-- Makes a change; an edge that is refused changes nothing. -/
def change (g : Graph) : Change → Graph
  | .addNode id => g.addNode id
  | .addPlugin c => g.addPlugin c
  | .addEdge source target required =>
    match g.addEdge source target required with
    | .ok g => g
    | .error _ => g
  | .removeNode id => g.removeNode id

/-- The graph that some changes make from nothing. -/
def build (changes : List Change) : Graph := changes.foldl change {}

/-! ## The invariant -/

/-- What every graph keeps that is built from nothing. -/
structure WellFormed (g : Graph) : Prop where
  nodes : Ascending g.nodes
  edges : Ascending g.edges
  source_mem : ∀ e ∈ g.edges, e.source ∈ g.nodes
  target_mem : ∀ e ∈ g.edges, e.target ∈ g.nodes
  single : ∀ s t, ⟨s, t, true⟩ ∈ g.edges → (⟨s, t, false⟩ : Edge) ∉ g.edges

variable {g : Graph}

/-- Two graphs with the same nodes and the same edges are one. -/
theorem WellFormed.eq_of_mem_iff {g' : Graph} (h : g.WellFormed) (h' : g'.WellFormed)
    (hnodes : ∀ x, x ∈ g.nodes ↔ x ∈ g'.nodes) (hedges : ∀ e, e ∈ g.edges ↔ e ∈ g'.edges) : g = g' := by
  have hn : g.nodes = g'.nodes := h.nodes.ext h'.nodes hnodes
  have he : g.edges = g'.edges := h.edges.ext h'.edges hedges
  calc g = ⟨g.nodes, g.edges⟩ := rfl
    _ = g' := by rw [hn, he]

theorem wellFormed_empty : WellFormed {} where
  nodes := List.Pairwise.nil
  edges := List.Pairwise.nil
  source_mem _ h := by cases h
  target_mem _ h := by cases h
  single _ _ h := by cases h

/-- Adding a node keeps the invariant. -/
theorem WellFormed.addNode (h : g.WellFormed) (id : PluginId) : (g.addNode id).WellFormed where
  nodes := ascending_insertAscending h.nodes
  edges := h.edges
  source_mem e he := mem_insertAscending.mpr (Or.inr (h.source_mem e he))
  target_mem e he := mem_insertAscending.mpr (Or.inr (h.target_mem e he))
  single := h.single

/-! ## Edges -/

/-- The required edges after an edge was added: those before, and the new one if it is required. -/
theorem required_mem_insertEdge {e : Edge} {edges : List Edge} {s t : PluginId} :
    ⟨s, t, true⟩ ∈ insertEdge e edges ↔
      (⟨s, t, true⟩ : Edge) ∈ edges ∨ e.required = true ∧ e.source = s ∧ e.target = t := by
  obtain ⟨s', t', r'⟩ := e
  have hne : (⟨s, t, true⟩ : Edge) ≠ ⟨s', t', false⟩ := by simp
  cases r' with
  | true =>
    simp only [insertEdge, if_true, mem_insertAscending, List.mem_erase_of_ne hne, Edge.mk.injEq, and_true, true_and]
    constructor
    · rintro (⟨rfl, rfl⟩ | h)
      · exact Or.inr ⟨rfl, rfl⟩
      · exact Or.inl h
    · rintro (h | ⟨rfl, rfl⟩)
      · exact Or.inr h
      · exact Or.inl ⟨rfl, rfl⟩
  | false =>
    simp only [insertEdge, Bool.false_eq_true, if_false, false_and, or_false]
    split
    · rfl
    · rw [mem_insertAscending]
      exact ⟨fun h => h.resolve_left hne, Or.inr⟩

/-- The optional edges after an edge was added: the new one, if it is optional and there is no required one between its
nodes, and those before between other nodes. -/
theorem optional_mem_insertEdge {e : Edge} {edges : List Edge} (hn : edges.Nodup) {s t : PluginId} :
    ⟨s, t, false⟩ ∈ insertEdge e edges ↔
      if e.source = s ∧ e.target = t then e.required = false ∧ ((⟨s, t, true⟩ : Edge) ∉ edges ∨ ⟨s, t, false⟩ ∈ edges)
      else (⟨s, t, false⟩ : Edge) ∈ edges := by
  obtain ⟨s', t', r'⟩ := e
  cases r' with
  | true =>
    simp only [insertEdge, if_true, mem_insertAscending, hn.mem_erase_iff, Edge.mk.injEq]
    split
    · rename_i h
      obtain ⟨rfl, rfl⟩ := h
      simp
    · rename_i h
      constructor
      · rintro (⟨_, _, h'⟩ | ⟨_, h'⟩)
        · cases h'
        · exact h'
      · intro h'
        exact Or.inr ⟨fun e => h (by simpa using e.symm), h'⟩
  | false =>
    simp only [insertEdge, Bool.false_eq_true, if_false]
    by_cases hst : s' = s ∧ t' = t
    · obtain ⟨rfl, rfl⟩ := hst
      split
      · rename_i h
        simp [h]
      · rename_i h
        simp [mem_insertAscending, h]
    · have hne : (⟨s, t, false⟩ : Edge) ≠ ⟨s', t', false⟩ := fun e => hst (by simpa using e.symm)
      rw [if_neg hst]
      split
      · rfl
      · rw [mem_insertAscending]
        exact ⟨fun h => h.resolve_left hne, Or.inr⟩

theorem mem_of_mem_insertEdge {e e' : Edge} {edges : List Edge} (h : e' ∈ insertEdge e edges) :
    e' = e ∨ e' ∈ edges := by
  unfold insertEdge at h
  split at h
  · rcases mem_insertAscending.mp h with h | h
    · exact Or.inl h
    · exact Or.inr (List.mem_of_mem_erase h)
  · split at h
    · exact Or.inr h
    · exact mem_insertAscending.mp h

theorem ascending_insertEdge {e : Edge} {edges : List Edge} (h : Ascending edges) :
    Ascending (insertEdge e edges) := by
  unfold insertEdge
  split
  · exact ascending_insertAscending (h.sublist List.erase_sublist)
  · split
    · exact h
    · exact ascending_insertAscending h

theorem addEdge_eq_ok {s t : PluginId} (hs : s ∈ g.nodes) (ht : t ∈ g.nodes) (required : Bool) :
    g.addEdge s t required = .ok { g with edges := insertEdge ⟨s, t, required⟩ g.edges } := by
  simp [Graph.addEdge, contains, hs, ht]

theorem addEdge_eq_ok_iff {s t : PluginId} {required : Bool} {g' : Graph} : g.addEdge s t required = .ok g' ↔
    s ∈ g.nodes ∧ t ∈ g.nodes ∧ g' = { g with edges := insertEdge ⟨s, t, required⟩ g.edges } := by
  constructor
  · intro h
    simp only [Graph.addEdge, contains, Bool.not_eq_true', decide_eq_false_iff_not] at h
    split at h
    · cases h
    · rename_i hs
      split at h
      · cases h
      · rename_i ht
        exact ⟨not_not.mp hs, not_not.mp ht, (Except.ok.inj h).symm⟩
  · rintro ⟨hs, ht, rfl⟩
    exact addEdge_eq_ok hs ht required

theorem WellFormed.addEdge (h : g.WellFormed) {s t : PluginId} (hs : s ∈ g.nodes) (ht : t ∈ g.nodes)
    (required : Bool) : WellFormed { g with edges := insertEdge ⟨s, t, required⟩ g.edges } where
  nodes := h.nodes
  edges := ascending_insertEdge h.edges
  source_mem e he := by
    rcases mem_of_mem_insertEdge he with rfl | he
    · exact hs
    · exact h.source_mem e he
  target_mem e he := by
    rcases mem_of_mem_insertEdge he with rfl | he
    · exact ht
    · exact h.target_mem e he
  single s' t' hr ho := by
    have hr := required_mem_insertEdge.mp hr
    have ho := (optional_mem_insertEdge h.edges.nodup).mp ho
    split at ho
    · -- The new edge is optional, so the required one was there before.
      rename_i hst
      rcases hr with hr | ⟨hr, _⟩
      · exact ho.2.elim (fun hno => hno hr) (h.single s' t' hr)
      · rw [ho.1] at hr
        cases hr
    · rename_i hst
      rcases hr with hr | ⟨_, hr⟩
      · exact h.single s' t' hr ho
      · exact hst hr

/-! ## Removals -/

theorem nodes_removeNodes : ∀ (ids : List PluginId) (g : Graph),
    (g.removeNodes ids).nodes = g.nodes.filter fun x => x ∉ ids
  | [], g => by simp [removeNodes]
  | id :: ids, g => by
    have ih := nodes_removeNodes ids (g.removeNode id)
    rw [removeNodes] at ih ⊢
    rw [List.foldl_cons, ih, removeNode, List.filter_filter]
    refine List.filter_congr fun x _ => ?_
    rw [Bool.eq_iff_iff]
    simp [not_or, and_comm]

theorem mem_nodes_removeNodes {ids : List PluginId} {id : PluginId} :
    id ∈ (g.removeNodes ids).nodes ↔ id ∈ g.nodes ∧ id ∉ ids := by
  rw [nodes_removeNodes, List.mem_filter, decide_eq_true_eq]

theorem size_removeNodes_lt {ids : List PluginId} {id : PluginId} (hg : id ∈ g.nodes) (hid : id ∈ ids) :
    (g.removeNodes ids).size < g.size := by
  rw [size, nodes_removeNodes]
  exact List.length_filter_lt_length_iff_exists.mpr ⟨id, hg, by simpa using hid⟩

/-- The edges that are left after some nodes were removed. -/
theorem mem_edges_removeNodes {e : Edge} : ∀ {ids : List PluginId} {g : Graph},
    e ∈ (g.removeNodes ids).edges ↔ e ∈ g.edges ∧ e.source ∉ ids ∧ e.target ∉ ids
  | [], g => by simp [removeNodes]
  | x :: ids, g => by
    have ih : e ∈ ((g.removeNode x).removeNodes ids).edges ↔ _ := mem_edges_removeNodes
    rw [removeNodes] at ih ⊢
    rw [List.foldl_cons, ih]
    simp only [removeNode, List.mem_filter, decide_eq_true_eq, List.mem_cons, not_or]
    constructor
    · rintro ⟨⟨he, hs, ht⟩, hs', ht'⟩
      exact ⟨he, ⟨hs, hs'⟩, ⟨ht, ht'⟩⟩
    · rintro ⟨he, ⟨hs, hs'⟩, ⟨ht, ht'⟩⟩
      exact ⟨⟨he, hs, ht⟩, hs', ht'⟩

theorem WellFormed.removeNode (h : g.WellFormed) (id : PluginId) : (g.removeNode id).WellFormed where
  nodes := h.nodes.filter _
  edges := h.edges.filter _
  source_mem e he := by
    simp only [Graph.removeNode, List.mem_filter, decide_eq_true_eq] at he ⊢
    exact ⟨h.source_mem e he.1, he.2.1⟩
  target_mem e he := by
    simp only [Graph.removeNode, List.mem_filter, decide_eq_true_eq] at he ⊢
    exact ⟨h.target_mem e he.1, he.2.2⟩
  single s t hr ho := h.single s t (List.mem_filter.mp hr).1 (List.mem_filter.mp ho).1

theorem WellFormed.removeNodes : ∀ (ids : List PluginId) {g : Graph}, g.WellFormed → (g.removeNodes ids).WellFormed
  | [], _, h => h
  | id :: ids, _, h => WellFormed.removeNodes ids (h.removeNode id)

/-! ## Built graphs -/

theorem WellFormed.change (h : g.WellFormed) (c : Change) : (g.change c).WellFormed := by
  cases c with
  | addNode id => exact h.addNode id
  | addPlugin c => exact h.addNode c.id
  | removeNode id => exact h.removeNode id
  | addEdge s t required =>
    cases he : g.addEdge s t required with
    | error e =>
      simp only [Graph.change, he]
      exact h
    | ok g' =>
      obtain ⟨hs, ht, rfl⟩ := addEdge_eq_ok_iff.mp he
      simp only [Graph.change, he]
      exact h.addEdge hs ht required

/-- Every graph that is built from nothing is well-formed. -/
theorem wellFormed_build (changes : List Change) : (build changes).WellFormed := by
  have go : ∀ (changes : List Change) {g : Graph}, g.WellFormed → (changes.foldl change g).WellFormed := by
    intro changes
    induction changes with
    | nil => exact fun h => h
    | cons c changes ih => exact fun h => ih (h.change c)
  exact go changes wellFormed_empty

end Graph
end PluginHost
