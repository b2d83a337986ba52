import PluginHost.Proofs.Graph.Cycle

/-!
# Graphs and their history

What stands in a graph can be told from the changes that made it. A node stands in it when it was added and not removed
since. An edge does when it was added between two nodes neither of which was removed since, and it is required when one
of these additions was (`build_history`).

* `Since` says that a change did something that no later one undid; `since_concat` is what one more change does to it.
* A well-formed graph is known by its nodes and by the links between them (`WellFormed.ext_links`). A new edge adds to
  the links and takes none away (`links_of_addEdge`), so additions of edges commute (`WellFormed.addEdge_comm`).
-/

namespace PluginHost.Graph

variable {g g' : Graph} {changes : List Change} {c : Change} {x y s t : PluginId} {required requiredOnly : Bool}

/-! ## What was done and not undone -/

/-- One of some changes did something, seen from the changes before it, and none of those after it undid that. -/
def Since (does : List Change → Change → Prop) (undoes : Change → Prop) (changes : List Change) : Prop :=
  ∃ before c after, changes = before ++ c :: after ∧ does before c ∧ ∀ c' ∈ after, ¬undoes c'

section Since

variable {does : List Change → Change → Prop} {undoes : Change → Prop}

theorem not_since_nil : ¬Since does undoes [] := by
  rintro ⟨before, c, after, he, _⟩
  simp at he

theorem since_concat :
    Since does undoes (changes ++ [c]) ↔ does changes c ∨ Since does undoes changes ∧ ¬undoes c := by
  constructor
  · rintro ⟨before, c', after, he, hdoes, hafter⟩
    rcases List.eq_nil_or_concat after with rfl | ⟨after, last, rfl⟩
    · obtain ⟨rfl, hc⟩ := List.append_inj' he rfl
      obtain rfl := List.singleton_inj.mp hc
      exact Or.inl hdoes
    · have he' : changes ++ [c] = (before ++ c' :: after) ++ [last] := by simpa using he
      obtain ⟨rfl, hc⟩ := List.append_inj' he' rfl
      obtain rfl := List.singleton_inj.mp hc
      exact Or.inr ⟨⟨before, c', after, rfl, hdoes, fun c hc => hafter c (by simp [hc])⟩,
        hafter c (by simp)⟩
  · rintro (hdoes | ⟨⟨before, c', after, rfl, hdoes, hafter⟩, hc⟩)
    · exact ⟨changes, c, [], rfl, hdoes, by simp⟩
    · refine ⟨before, c', after ++ [c], by simp, hdoes, fun c'' hc'' => ?_⟩
      rcases List.mem_append.mp hc'' with hc'' | hc''
      · exact hafter c'' hc''
      · obtain rfl := List.mem_singleton.mp hc''
        exact hc

end Since

theorem build_concat : build (changes ++ [c]) = (build changes).change c := by
  rw [build, List.foldl_append]
  rfl

theorem change_of_ok (ha : g.addEdge s t required = .ok g') : g.change (.addEdge s t required) = g' := by
  simp only [change, ha]

theorem change_of_error {e : PluginError} (he : g.addEdge s t required = .error e) :
    g.change (.addEdge s t required) = g := by
  simp only [change, he]

/-! ## Nodes -/

/-- A change that adds a node. -/
def Change.AddsNode (x : PluginId) : Change → Prop
  | addNode id => id = x
  | addPlugin p => p.id = x
  | addEdge .. => False
  | removeNode _ => False

theorem mem_nodes_change : x ∈ (g.change c).nodes ↔ c.AddsNode x ∨ x ∈ g.nodes ∧ c ≠ .removeNode x := by
  cases c with
  | addNode id => simp [change, addNode, mem_insertAscending, Change.AddsNode, eq_comm (a := x)]
  | addPlugin p => simp [change, addPlugin, addNode, mem_insertAscending, Change.AddsNode, eq_comm (a := x)]
  | addEdge s t required =>
    have hnodes : (g.change (.addEdge s t required)).nodes = g.nodes := by
      cases ha : g.addEdge s t required with
      | error e => rw [change_of_error ha]
      | ok g' =>
        obtain ⟨_, _, rfl⟩ := addEdge_eq_ok_iff.mp ha
        rw [change_of_ok ha]
    simp [hnodes, Change.AddsNode]
  | removeNode id => simp [change, removeNode, Change.AddsNode, eq_comm (a := x)]

/-- The nodes are those that were added and not removed since. -/
theorem mem_nodes_build_iff :
    x ∈ (build changes).nodes ↔ Since (fun _ c => c.AddsNode x) (· = .removeNode x) changes := by
  induction changes using List.reverseRecOn with
  | nil => exact iff_of_false (by simp [build]) not_since_nil
  | append_singleton changes c ih => rw [build_concat, mem_nodes_change, ih, since_concat]

/-! ## Links -/

/-- An edge leads from one node to another; with `requiredOnly`, a required one. -/
def Links (g : Graph) (requiredOnly : Bool) (s t : PluginId) : Prop :=
  ∃ required, (required = true ∨ requiredOnly = false) ∧ (⟨s, t, required⟩ : Edge) ∈ g.edges

theorem links_true : g.Links true s t ↔ g.Requires s t := by
  simp [Links, Requires]

theorem links_false : g.Links false s t ↔ (⟨s, t, true⟩ : Edge) ∈ g.edges ∨ ⟨s, t, false⟩ ∈ g.edges := by
  simp [Links, or_comm]

theorem WellFormed.mem_edges_iff (h : g.WellFormed) :
    (⟨s, t, required⟩ : Edge) ∈ g.edges ↔ g.Links false s t ∧ (required = true ↔ g.Links true s t) := by
  rw [links_true, links_false, Requires]
  have hsingle := h.single s t
  cases required with
  | true =>
    simp only [true_iff]
    exact ⟨fun he => ⟨Or.inl he, he⟩, fun he => he.2⟩
  | false =>
    simp only [Bool.false_eq_true, false_iff]
    exact ⟨fun he => ⟨Or.inr he, fun hr => hsingle hr he⟩, fun he => he.1.resolve_left he.2⟩

/-- A well-formed graph is known by its nodes and the links between them. -/
theorem WellFormed.ext_links (h : g.WellFormed) (h' : g'.WellFormed) (hnodes : g.nodes = g'.nodes)
    (hlinks : ∀ requiredOnly s t, g.Links requiredOnly s t ↔ g'.Links requiredOnly s t) : g = g' := by
  refine h.eq_of_mem_iff h' (fun x => by rw [hnodes]) ?_
  rintro ⟨s, t, required⟩
  rw [h.mem_edges_iff, h'.mem_edges_iff, hlinks, hlinks]

/-- A new edge adds to the links and takes none away. -/
theorem links_of_addEdge (h : g.WellFormed) (ha : g.addEdge x y required = .ok g') :
    g'.Links requiredOnly s t ↔
      (required = true ∨ requiredOnly = false) ∧ x = s ∧ y = t ∨ g.Links requiredOnly s t := by
  obtain ⟨_, _, rfl⟩ := addEdge_eq_ok_iff.mp ha
  cases requiredOnly with
  | true =>
    simp only [links_true, Requires, required_mem_insertEdge, Bool.true_eq_false, or_false]
    exact or_comm
  | false =>
    simp only [links_false, required_mem_insertEdge, optional_mem_insertEdge h.edges.nodup, or_true, true_and]
    by_cases hends : x = s ∧ y = t
    · obtain ⟨rfl, rfl⟩ := hends
      cases required with
      | true => simp
      | false =>
        simp only [and_self, if_true, true_and, true_or, iff_true]
        tauto
    · simp [hends]

/-! ## Edges -/

/-- A change that takes out one of two nodes. -/
def Change.Parts (s t : PluginId) (c : Change) : Prop := c = .removeNode s ∨ c = .removeNode t

/-- An edge was added, between two nodes as otherwise it is refused, and neither of them was removed since. -/
def Added (changes : List Change) (s t : PluginId) (required : Bool) : Prop :=
  Since (fun before c => c = .addEdge s t required ∧ ∃ g, (build before).addEdge s t required = .ok g)
    (Change.Parts s t) changes

/-- The links after a change: those before that it does not part, and the one that it adds. -/
theorem links_change (h : g.WellFormed) : (g.change c).Links requiredOnly s t ↔
    (∃ required, (required = true ∨ requiredOnly = false) ∧ c = .addEdge s t required ∧
      ∃ g', g.addEdge s t required = .ok g') ∨ g.Links requiredOnly s t ∧ ¬c.Parts s t := by
  cases c with
  | addNode id => simp [Change.Parts, change, addNode, Links]
  | addPlugin p => simp [Change.Parts, change, addPlugin, addNode, Links]
  | removeNode id =>
    simp only [Change.Parts, change, removeNode, Links, List.mem_filter, reduceCtorEq, false_and, and_false,
      exists_false, false_or, Change.removeNode.injEq, decide_eq_true_eq, not_or]
    constructor
    · rintro ⟨r, hr, he, hs, ht⟩
      exact ⟨⟨r, hr, he⟩, Ne.symm hs, Ne.symm ht⟩
    · rintro ⟨⟨r, hr, he⟩, hs, ht⟩
      exact ⟨r, hr, he, Ne.symm hs, Ne.symm ht⟩
  | addEdge x y required =>
    have hparts : ¬(Change.addEdge x y required).Parts s t := by simp [Change.Parts]
    simp only [hparts, not_false_eq_true, and_true]
    cases ha : g.addEdge x y required with
    | error e =>
      rw [change_of_error ha, or_iff_right]
      rintro ⟨_, _, hc, g', hok⟩
      obtain ⟨rfl, rfl, rfl⟩ := Change.addEdge.inj hc
      rw [ha] at hok
      cases hok
    | ok g' =>
      rw [change_of_ok ha, links_of_addEdge h ha]
      refine or_congr_left ⟨?_, ?_⟩
      · rintro ⟨hr, rfl, rfl⟩
        exact ⟨required, hr, rfl, g', ha⟩
      · rintro ⟨_, hr, hc, _⟩
        obtain ⟨rfl, rfl, rfl⟩ := Change.addEdge.inj hc
        exact ⟨hr, rfl, rfl⟩

/-- The links are those that were added and not parted since. -/
theorem links_build_iff : (build changes).Links requiredOnly s t ↔
    ∃ required, (required = true ∨ requiredOnly = false) ∧ Added changes s t required := by
  induction changes using List.reverseRecOn with
  | nil =>
    refine iff_of_false ?_ fun ⟨_, _, h⟩ => not_since_nil h
    rintro ⟨_, _, he⟩
    cases he
  | append_singleton changes c ih =>
    rw [build_concat, links_change (wellFormed_build changes), ih]
    simp only [Added, since_concat]
    constructor
    · rintro (⟨r, hr, hadds⟩ | ⟨⟨r, hr, hadded⟩, hparts⟩)
      · exact ⟨r, hr, Or.inl hadds⟩
      · exact ⟨r, hr, Or.inr ⟨hadded, hparts⟩⟩
    · rintro ⟨r, hr, hadds | ⟨hadded, hparts⟩⟩
      · exact Or.inl ⟨r, hr, hadds⟩
      · exact Or.inr ⟨⟨r, hr, hadded⟩, hparts⟩

/-- Between two nodes there is an edge when one was added since, and it is required when one of these was. -/
theorem mem_edges_build_iff : (⟨s, t, required⟩ : Edge) ∈ (build changes).edges ↔
    (∃ r, Added changes s t r) ∧ (required = true ↔ Added changes s t true) := by
  rw [(wellFormed_build changes).mem_edges_iff, links_build_iff, links_build_iff]
  simp

theorem WellFormed.single_edge (h : g.WellFormed) :
    g.edges.Pairwise fun e e' => ¬(e.source = e'.source ∧ e.target = e'.target) := by
  refine List.Pairwise.imp_of_mem ?_ h.edges
  rintro ⟨s, t, r⟩ ⟨s', t', r'⟩ he he' hlt ⟨hs, ht⟩
  simp only at hs ht
  subst hs ht
  have hr : r = true ↔ r' = true := ((h.mem_edges_iff.mp he).2).trans (h.mem_edges_iff.mp he').2.symm
  rw [Bool.eq_iff_iff.mpr hr] at hlt
  exact Std.Irrefl.irrefl _ hlt

/-! ## Changes that change nothing, and changes in any order -/

/-- An edge is refused for an end of it that is no node. -/
theorem addEdge_eq_error {e : PluginError} (he : g.addEdge s t required = .error e) :
    ∃ z, (z = s ∨ z = t) ∧ z ∉ g.nodes ∧ e = .notFound z := by
  simp only [addEdge, contains, Bool.not_eq_true', decide_eq_false_iff_not] at he
  split at he
  · rename_i hs
    exact ⟨s, Or.inl rfl, hs, (Except.error.inj he).symm⟩
  · split at he
    · rename_i ht
      exact ⟨t, Or.inr rfl, ht, (Except.error.inj he).symm⟩
    · cases he

theorem WellFormed.removeNode_of_not_mem (h : g.WellFormed) (hx : x ∉ g.nodes) : g.removeNode x = g := by
  refine (h.removeNode x).eq_of_mem_iff h (fun z => ?_) fun e => ?_
  · rw [Graph.removeNode, List.mem_filter, decide_eq_true_eq, and_iff_left_of_imp]
    rintro hz rfl
    exact hx hz
  · rw [Graph.removeNode, List.mem_filter, decide_eq_true_eq, and_iff_left_of_imp]
    intro he
    exact ⟨fun hs => hx (hs ▸ h.source_mem e he), fun ht => hx (ht ▸ h.target_mem e he)⟩

theorem WellFormed.of_addEdge (h : g.WellFormed) (ha : g.addEdge s t required = .ok g') :
    g'.WellFormed ∧ g'.nodes = g.nodes := by
  obtain ⟨hs, ht, rfl⟩ := addEdge_eq_ok_iff.mp ha
  exact ⟨h.addEdge hs ht required, rfl⟩

theorem exists_addEdge_ok (hs : s ∈ g.nodes) (ht : t ∈ g.nodes) (required : Bool) :
    ∃ g', g.addEdge s t required = .ok g' :=
  ⟨_, addEdge_eq_ok hs ht required⟩

/-- Edges between nodes can be added in either order. -/
theorem WellFormed.addEdge_comm (h : g.WellFormed) {s' t' : PluginId} (r r' : Bool) (hs : s ∈ g.nodes)
    (ht : t ∈ g.nodes) (hs' : s' ∈ g.nodes) (ht' : t' ∈ g.nodes) :
    ∃ g', (g.addEdge s t r).bind (·.addEdge s' t' r') = .ok g' ∧
      (g.addEdge s' t' r').bind (·.addEdge s t r) = .ok g' := by
  obtain ⟨g₁, h₁⟩ := exists_addEdge_ok hs ht r
  obtain ⟨g₂, h₂⟩ := exists_addEdge_ok hs' ht' r'
  obtain ⟨hw₁, hn₁⟩ := h.of_addEdge h₁
  obtain ⟨hw₂, hn₂⟩ := h.of_addEdge h₂
  obtain ⟨g₁₂, h₁₂⟩ := exists_addEdge_ok (hn₁ ▸ hs') (hn₁ ▸ ht') r'
  obtain ⟨g₂₁, h₂₁⟩ := exists_addEdge_ok (hn₂ ▸ hs) (hn₂ ▸ ht) r
  obtain ⟨hw₁₂, hn₁₂⟩ := hw₁.of_addEdge h₁₂
  obtain ⟨hw₂₁, hn₂₁⟩ := hw₂.of_addEdge h₂₁
  have hnodes : g₁₂.nodes = g₂₁.nodes := (hn₁₂.trans hn₁).trans (hn₂₁.trans hn₂).symm
  have hsame : g₁₂ = g₂₁ := hw₁₂.ext_links hw₂₁ hnodes fun requiredOnly x y => by
    rw [links_of_addEdge hw₁ h₁₂, links_of_addEdge h h₁, links_of_addEdge hw₂ h₂₁, links_of_addEdge h h₂, or_left_comm]
  refine ⟨g₁₂, ?_, ?_⟩
  · rw [h₁]
    exact h₁₂
  · rw [h₂, hsame]
    exact h₂₁

/-- An edge that was added can be added once more, and that changes nothing. -/
theorem WellFormed.addEdge_twice (h : g.WellFormed) (ha : g.addEdge s t required = .ok g') :
    g'.addEdge s t required = .ok g' := by
  obtain ⟨hw, hnodes⟩ := h.of_addEdge ha
  obtain ⟨hs, ht, _⟩ := addEdge_eq_ok_iff.mp ha
  obtain ⟨g'', ha'⟩ := exists_addEdge_ok (hnodes ▸ hs) (hnodes ▸ ht) required
  obtain ⟨hw', hnodes'⟩ := hw.of_addEdge ha'
  have hsame : g'' = g' := hw'.ext_links hw hnodes' fun requiredOnly x y => by
    rw [links_of_addEdge hw ha', links_of_addEdge h ha, ← or_assoc, or_self]
  rw [ha', hsame]

/-- A graph is told from the changes that made it. Its nodes are those that were added and not removed since. The ends
of its edges are nodes, and from one node to another there is one edge at most: it is there when an edge was added since
either node was last removed, and required when one of these was required. An edge is refused for an end that is no
node, which changes nothing, nor does the removal of what is no node. Edges between nodes can be added in either order,
and adding one once more changes nothing. -/
theorem build_history (changes : List Change) :
    let g := build changes
    (∀ x, x ∈ g.nodes ↔ Since (fun _ c => c.AddsNode x) (· = .removeNode x) changes) ∧
    (∀ e ∈ g.edges, e.source ∈ g.nodes ∧ e.target ∈ g.nodes) ∧
    (g.edges.Pairwise fun e e' => ¬(e.source = e'.source ∧ e.target = e'.target)) ∧
    (∀ s t required, (⟨s, t, required⟩ : Edge) ∈ g.edges ↔
      (∃ r, Added changes s t r) ∧ (required = true ↔ Added changes s t true)) ∧
    (∀ s t required e, g.addEdge s t required = .error e →
      (∃ z, (z = s ∨ z = t) ∧ z ∉ g.nodes ∧ e = .notFound z) ∧ build (changes ++ [.addEdge s t required]) = g) ∧
    (∀ x, x ∉ g.nodes → build (changes ++ [.removeNode x]) = g) ∧
    (∀ s t r s' t' r', s ∈ g.nodes → t ∈ g.nodes → s' ∈ g.nodes → t' ∈ g.nodes →
      ∃ g', (g.addEdge s t r).bind (·.addEdge s' t' r') = .ok g' ∧
        (g.addEdge s' t' r').bind (·.addEdge s t r) = .ok g') ∧
    ∀ s t required g', g.addEdge s t required = .ok g' → g'.addEdge s t required = .ok g' := by
  intro g
  have h : g.WellFormed := wellFormed_build changes
  refine ⟨fun x => mem_nodes_build_iff, fun e he => ⟨h.source_mem e he, h.target_mem e he⟩, h.single_edge,
    fun s t required => mem_edges_build_iff, fun s t required e he => ⟨addEdge_eq_error he, ?_⟩, fun x hx => ?_,
    fun s t r s' t' r' hs ht hs' ht' => h.addEdge_comm r r' hs ht hs' ht', fun s t required g' => h.addEdge_twice⟩
  · rw [build_concat]
    exact change_of_error he
  · rw [build_concat]
    exact h.removeNode_of_not_mem hx

-- A node that comes back has lost its edges, and whether they were required.
example :
    let edges := fun (changes : List Change) =>
      (build ([.addNode "a", .addNode "b", .addEdge "a" "b" true] ++ changes)).edges
    edges [.addEdge "a" "b" false] = [⟨"a", "b", true⟩] ∧
      edges [.removeNode "b", .addNode "b"] = [] ∧
      edges [.removeNode "b", .addNode "b", .addEdge "a" "b" false] = [⟨"a", "b", false⟩] := by
  decide

end PluginHost.Graph
