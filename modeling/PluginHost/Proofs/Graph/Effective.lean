import PluginHost.Graph.Order
import PluginHost.Proofs.Graph.Cycle
import PluginHost.Proofs.Graph.Spread

/-!
# The edges that count

`Graph.Effective` says which edges count, with paths in place of the search: required edges do, and each optional edge
in turn does unless its target leads to its source by then.

* `mem_effectiveRelation_iff`: the relation that is computed holds exactly these pairs.
* `acyclic_effective`: it has no cycle when the required edges have none.
* `effective_leads_back`: an optional edge that was left out would close a cycle in the end, too.
-/

namespace PluginHost

open Relation (TransGen ReflTransGen)

/-- The two ends of an edge. -/
def Edge.ends (e : Edge) : PluginId × PluginId := (e.source, e.target)

theorem Edge.eq_of_ends {e e' : Edge} (hends : e.ends = e'.ends) (hr : e.required = e'.required) : e = e' := by
  obtain ⟨s, t, r⟩ := e
  obtain ⟨s', t', r'⟩ := e'
  obtain ⟨hs, ht⟩ := Prod.mk.inj hends
  simp only [Edge.mk.injEq]
  exact ⟨hs, ht, hr⟩

namespace Graph

/-- A relation and an optional edge, which counts unless its target leads back to its source. -/
def TakeIn (R : PluginId → PluginId → Prop) (e : Edge) : PluginId → PluginId → Prop :=
  fun x y => R x y ∨ x = e.source ∧ y = e.target ∧ ¬ReflTransGen R e.target e.source

/-- The optional edges. -/
def optionalEdges (g : Graph) : List Edge := g.edges.filter (!·.required)

/-- The edges that count: the required ones, and the optional ones that are taken in one after the other. -/
def Effective (g : Graph) : PluginId → PluginId → Prop := g.optionalEdges.foldl TakeIn g.Requires

variable {g : Graph} {R S : PluginId → PluginId → Prop} {x y : PluginId}

theorem mem_optionalEdges {e : Edge} : e ∈ g.optionalEdges ↔ e ∈ g.edges ∧ e.required = false := by
  simp [optionalEdges]

/-- The optional edges come in ascending order of their ends. -/
theorem WellFormed.pairwise_optionalEdges (h : g.WellFormed) : g.optionalEdges.Pairwise fun e e' =>
    e.source < e'.source ∨ e.source = e'.source ∧ e.target < e'.target := by
  refine List.Pairwise.imp_of_mem ?_ (h.edges.filter _)
  intro e e' he he' hlt
  have hr : e.required = e'.required := (mem_optionalEdges.mp he).2.trans (mem_optionalEdges.mp he').2.symm
  exact (Edge.lt_iff_of_required_eq hr).mp hlt

/-! ## Taking in edges -/

theorem TakeIn.mono {e : Edge} (h : R x y) : TakeIn R e x y := Or.inl h

theorem foldl_takeIn_mono : ∀ (es : List Edge) {R : PluginId → PluginId → Prop}, R x y → es.foldl TakeIn R x y
  | [], _, h => h
  | _ :: es, _, h => foldl_takeIn_mono es (TakeIn.mono h)

/-- A pair that counts in the end was there at the start, or is one of the edges. -/
theorem of_foldl_takeIn : ∀ (es : List Edge) {R : PluginId → PluginId → Prop}, es.foldl TakeIn R x y →
    R x y ∨ ∃ e ∈ es, e.source = x ∧ e.target = y
  | [], _, h => Or.inl h
  | e :: es, R, h => by
    rcases of_foldl_takeIn es h with h | ⟨e', he', h'⟩
    · rcases h with h | ⟨rfl, rfl, _⟩
      · exact Or.inl h
      · exact Or.inr ⟨e, List.mem_cons_self, rfl, rfl⟩
    · exact Or.inr ⟨e', List.mem_cons_of_mem _ he', h'⟩

/-- An edge that is taken in closes no cycle. -/
theorem acyclic_takeIn (h : Acyclic R) (e : Edge) : Acyclic (TakeIn R e) := by
  by_cases hback : ReflTransGen R e.target e.source
  · refine h.mono ?_
    rintro x y (hxy | ⟨_, _, hno⟩)
    · exact hxy
    · exact absurd hback hno
  · refine (h.addPair hback).mono ?_
    rintro x y (hxy | ⟨hx, hy, _⟩)
    · exact Or.inl hxy
    · exact Or.inr ⟨hx, hy⟩

theorem acyclic_foldl_takeIn : ∀ (es : List Edge) {R : PluginId → PluginId → Prop}, Acyclic R →
    Acyclic (es.foldl TakeIn R)
  | [], _, h => h
  | e :: es, _, h => acyclic_foldl_takeIn es (acyclic_takeIn h e)

/-- An edge that does not count in the end was left out, and its target still leads to its source. -/
theorem leads_back_of_not_foldl_takeIn : ∀ (es : List Edge) {R : PluginId → PluginId → Prop} {e : Edge}, e ∈ es →
    ¬es.foldl TakeIn R e.source e.target → ReflTransGen (es.foldl TakeIn R) e.target e.source
  | e' :: es, R, e, he, hno => by
    rcases List.mem_cons.mp he with rfl | he
    · by_cases hback : ReflTransGen R e.target e.source
      · exact ReflTransGen.mono (fun _ _ h => foldl_takeIn_mono es (TakeIn.mono h)) _ _ hback
      · exact absurd (foldl_takeIn_mono es (Or.inr ⟨rfl, rfl, hback⟩)) hno
    · exact leads_back_of_not_foldl_takeIn es he hno

/-! ## The relation of a graph -/

theorem acyclic_effective (h : Acyclic g.Requires) : Acyclic g.Effective :=
  acyclic_foldl_takeIn g.optionalEdges h

/-- An optional edge that was left out would close a cycle with those that count. -/
theorem effective_leads_back {e : Edge} (he : e ∈ g.optionalEdges) (hno : ¬g.Effective e.source e.target) :
    ReflTransGen g.Effective e.target e.source :=
  leads_back_of_not_foldl_takeIn g.optionalEdges he hno

theorem effective_of_requires (h : g.Requires x y) : g.Effective x y := foldl_takeIn_mono g.optionalEdges h

theorem exists_edge_of_effective (h : g.Effective x y) : ∃ e ∈ g.edges, e.source = x ∧ e.target = y := by
  rcases of_foldl_takeIn g.optionalEdges h with h | ⟨e, he, hends⟩
  · exact ⟨⟨x, y, true⟩, h, rfl, rfl⟩
  · exact ⟨e, (mem_optionalEdges.mp he).1, hends⟩

/-- When all edges together have no cycle, all of them count. -/
theorem effective_of_acyclic (h : Acyclic fun x y => ∃ e ∈ g.edges, e.source = x ∧ e.target = y) {e : Edge}
    (he : e ∈ g.edges) : g.Effective e.source e.target := by
  by_cases hr : e.required = true
  · apply effective_of_requires
    obtain ⟨s, t, r⟩ := e
    obtain rfl : r = true := hr
    exact he
  · apply Classical.byContradiction
    intro hno
    have hback := effective_leads_back (mem_optionalEdges.mpr ⟨he, by simpa using hr⟩) hno
    have hback' : ReflTransGen (fun x y => ∃ e ∈ g.edges, e.source = x ∧ e.target = y) e.target e.source :=
      ReflTransGen.mono (fun _ _ h => exists_edge_of_effective h) _ _ hback
    exact h e.source (TransGen.head' ⟨e, he, rfl, rfl⟩ hback')

/-! ## The relation that is computed -/

/-- Looking whether an edge would close a cycle takes it in or leaves it out. -/
theorem mem_countOptional {nodes : List PluginId} {r : Relation} (hr : ∀ p ∈ r, p.2 ∈ nodes) {e : Edge} :
    (countOptional nodes r e).Step x y ↔ TakeIn r.Step e x y := by
  unfold countOptional TakeIn Relation.Step
  split
  · rename_i hback
    have hback' := (Relation.reaches_iff hr).mp hback
    constructor
    · exact Or.inl
    · rintro (h | ⟨_, _, hno⟩)
      · exact h
      · exact absurd hback' hno
  · rename_i hno
    have hno' : ¬ReflTransGen r.Step e.target e.source := fun h => hno ((Relation.reaches_iff hr).mpr h)
    rw [List.mem_append, List.mem_singleton, Prod.mk.injEq]
    constructor
    · rintro (h | ⟨hx, hy⟩)
      · exact Or.inl h
      · exact Or.inr ⟨hx, hy, hno'⟩
    · rintro (h | ⟨hx, hy, _⟩)
      · exact Or.inl h
      · exact Or.inr ⟨hx, hy⟩

/-- Taking in edges one after the other, the pairs stay between nodes and are those that are taken in. -/
theorem mem_foldl_countOptional {nodes : List PluginId} : ∀ (es : List Edge) {r : Relation},
    (∀ p ∈ r, p.2 ∈ nodes) → (∀ e ∈ es, e.target ∈ nodes) → ∀ x y,
      ((es.foldl (countOptional nodes) r).Step x y ↔ es.foldl TakeIn r.Step x y)
  | [], _, _, _, _, _ => Iff.rfl
  | e :: es, r, hr, hes, x, y => by
    have hstep : (countOptional nodes r e).Step = TakeIn r.Step e := by
      funext x y
      exact propext (mem_countOptional hr)
    have hr' : ∀ p ∈ countOptional nodes r e, p.2 ∈ nodes := by
      rintro ⟨a, b⟩ hp
      rcases (mem_countOptional hr).mp hp with h | ⟨_, rfl, _⟩
      · exact hr _ h
      · exact hes e List.mem_cons_self
    have ih := mem_foldl_countOptional es hr' (fun e' he' => hes e' (List.mem_cons_of_mem _ he')) x y
    rw [hstep] at ih
    exact ih

theorem mem_requiredRelation : g.requiredRelation.Step x y ↔ g.Requires x y := by
  simp only [Relation.Step, requiredRelation, Requires, List.mem_map, List.mem_filter, Prod.mk.injEq]
  constructor
  · rintro ⟨⟨s, t, r⟩, ⟨he, rfl⟩, rfl, rfl⟩
    exact he
  · intro h
    exact ⟨⟨x, y, true⟩, ⟨h, rfl⟩, rfl, rfl⟩

/-- The relation that is computed holds exactly the edges that count. -/
theorem mem_effectiveRelation_iff (h : g.WellFormed) : g.effectiveRelation.Step x y ↔ g.Effective x y := by
  have hreq : g.requiredRelation.Step = g.Requires := by
    funext x y
    exact propext mem_requiredRelation
  have hr : ∀ p ∈ g.requiredRelation, p.2 ∈ g.nodes := by
    rintro ⟨a, b⟩ hp
    exact (h.requires_mem (mem_requiredRelation.mp hp)).2
  have hes : ∀ e ∈ g.optionalEdges, e.target ∈ g.nodes := fun e he => h.target_mem e (mem_optionalEdges.mp he).1
  have := mem_foldl_countOptional g.optionalEdges hr hes x y
  rw [hreq] at this
  exact this

/-- Taking in edges adds some of their ends, in their order. -/
theorem foldl_countOptional_sublist {nodes : List PluginId} : ∀ (es : List Edge) (r : Relation),
    (es.foldl (countOptional nodes) r).Sublist (r ++ es.map Edge.ends)
  | [], r => by simp
  | e :: es, r => by
    refine (foldl_countOptional_sublist es (countOptional nodes r e)).trans ?_
    unfold countOptional
    split
    · exact List.Sublist.append_left ((List.sublist_cons_self _ _)) r
    · simp [Edge.ends]

theorem nodup_effectiveRelation (h : g.WellFormed) : g.effectiveRelation.Nodup := by
  have hnodup : ∀ p : Edge → Bool, ∀ b : Bool, (∀ e, p e = true → e.required = b) →
      ((g.edges.filter p).map Edge.ends).Nodup := by
    intro p b hp
    refine List.Nodup.map_on ?_ (h.edges.nodup.filter p)
    intro e he e' he' hends
    have he := List.mem_filter.mp he
    have he' := List.mem_filter.mp he'
    exact Edge.eq_of_ends hends ((hp e he.2).trans (hp e' he'.2).symm)
  refine List.Nodup.sublist (foldl_countOptional_sublist g.optionalEdges g.requiredRelation) ?_
  refine List.nodup_append'.mpr ⟨hnodup _ true (by simp), hnodup _ false (by simp), ?_⟩
  rintro ⟨x, y⟩ hreq hopt
  obtain ⟨e, he, hends⟩ := List.mem_map.mp hopt
  obtain ⟨s, t, r⟩ := e
  obtain ⟨he, rfl⟩ := mem_optionalEdges.mp he
  obtain ⟨rfl, rfl⟩ := Prod.mk.inj hends
  exact h.single _ _ (mem_requiredRelation.mp hreq) he

end Graph
end PluginHost
