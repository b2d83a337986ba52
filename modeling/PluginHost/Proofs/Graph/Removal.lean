import PluginHost.Proofs.Graph.Order

/-!
# Taking out a node

A node on which no other one depends can be taken out of a graph without a change of the order of the others
(`filter_leastOrder_of_removeNode`).

* No path between other nodes comes through it, so the same edges count between them (`effective_removeNode`).
* Nothing waits for it, so the others are ready at the same times, with it or without it (`filter_place`).
-/

open Relation (TransGen ReflTransGen)

namespace PluginHost.Graph

variable {g : Graph} {q : PluginId} {R S : PluginId → PluginId → Prop} {nodes order : List PluginId}

/-- No other node depends on a node. -/
def Unneeded (g : Graph) (q : PluginId) : Prop := ∀ e ∈ g.edges, e.target = q → e.source = q

/-- A relation between other ids than one. -/
def Apart (R : PluginId → PluginId → Prop) (q : PluginId) : PluginId → PluginId → Prop :=
  fun x y => R x y ∧ x ≠ q ∧ y ≠ q

/-! ## The edges that count -/

/-- A path that starts elsewhere does not come to an id to which no other one leads. -/
theorem path_apart (hR : ∀ x, R x q → x = q) {x y : PluginId} (hx : x ≠ q) (h : ReflTransGen R x y) :
    y ≠ q ∧ ReflTransGen (Apart R q) x y := by
  induction h with
  | refl => exact ⟨hx, .refl⟩
  | tail _ hyz ih =>
    have hz : _ ≠ q := fun e => ih.1 (hR _ (e ▸ hyz))
    exact ⟨hz, ih.2.tail ⟨hyz, ih.1, hz⟩⟩

theorem reflTransGen_apart_iff (hR : ∀ x, R x q → x = q) {x y : PluginId} (hx : x ≠ q) :
    ReflTransGen (Apart R q) x y ↔ ReflTransGen R x y :=
  ⟨fun h => ReflTransGen.mono (fun _ _ h => h.1) _ _ h, fun h => (path_apart hR hx h).2⟩

/-- Between other ids, an edge between other ids is taken in or left out alike. -/
theorem takeIn_apart (hR : ∀ x, R x q → x = q) {e : Edge} (hs : e.source ≠ q) (ht : e.target ≠ q) :
    TakeIn (Apart R q) e = Apart (TakeIn R e) q := by
  funext x y
  refine propext ?_
  unfold TakeIn
  rw [reflTransGen_apart_iff hR ht, Apart, Apart]
  constructor
  · rintro (⟨h, hxy⟩ | ⟨rfl, rfl, hno⟩)
    · exact ⟨Or.inl h, hxy⟩
    · exact ⟨Or.inr ⟨rfl, rfl, hno⟩, hs, ht⟩
  · rintro ⟨h | h, hxy⟩
    · exact Or.inl ⟨h, hxy⟩
    · exact Or.inr h

/-- Between other ids, an edge from the id changes nothing. -/
theorem apart_takeIn {e : Edge} (hs : e.source = q) : Apart (TakeIn R e) q = Apart R q := by
  funext x y
  refine propext ⟨?_, fun ⟨h, hxy⟩ => ⟨Or.inl h, hxy⟩⟩
  rintro ⟨h | ⟨rfl, _⟩, hxy⟩
  · exact ⟨h, hxy⟩
  · exact absurd hs hxy.1

/-- Taking in edges, none of which leads to the id from elsewhere. -/
theorem foldl_takeIn_apart : ∀ (es : List Edge) {R : PluginId → PluginId → Prop}, (∀ x, R x q → x = q) →
    (∀ e ∈ es, e.target = q → e.source = q) →
    (es.filter fun e => e.source ≠ q ∧ e.target ≠ q).foldl TakeIn (Apart R q) = Apart (es.foldl TakeIn R) q
  | [], _, _, _ => rfl
  | e :: es, R, hR, hes => by
    have he := hes e List.mem_cons_self
    have hR' : ∀ x, TakeIn R e x q → x = q := by
      rintro x (h | ⟨rfl, ht, _⟩)
      · exact hR x h
      · exact he ht.symm
    have ih := foldl_takeIn_apart es hR' fun e' he' => hes e' (List.mem_cons_of_mem _ he')
    by_cases hs : e.source = q
    · rw [List.filter_cons_of_neg (by simp [hs]), List.foldl_cons, ← ih, apart_takeIn hs]
    · have ht : e.target ≠ q := fun ht => hs (he ht)
      rw [List.filter_cons_of_pos (by simp [hs, ht]), List.foldl_cons, List.foldl_cons, ← ih, takeIn_apart hR hs ht]

theorem requires_removeNode : (g.removeNode q).Requires = Apart g.Requires q := by
  funext x y
  simp [Requires, removeNode, Apart]

/-- Without a node on which no other one depends, the same edges count between the others. -/
theorem effective_removeNode (hq : g.Unneeded q) : (g.removeNode q).Effective = Apart g.Effective q := by
  have hoptional : (g.removeNode q).optionalEdges =
      g.optionalEdges.filter fun e => e.source ≠ q ∧ e.target ≠ q := by
    rw [optionalEdges, optionalEdges, removeNode, List.filter_comm]
  rw [Effective, hoptional, requires_removeNode]
  exact foldl_takeIn_apart _ (fun x hx => hq _ hx rfl) fun e he => hq e (mem_optionalEdges.mp he).1

/-! ## The order -/

/-- There is one least order. -/
theorem LeastOrder.unique {other : List PluginId} (h : LeastOrder R nodes order) (h' : LeastOrder R nodes other) :
    order = other := by
  rcases h.least other h'.perm h'.respects with he | hlt
  · exact he
  · rcases h'.least order h.perm h.respects with he | hlt'
    · exact he.symm
    · exact absurd hlt' (List.lt_asymm hlt)

/-- What a relation says of other ids does not matter for an order. -/
theorem LeastOrder.congr (h : LeastOrder R nodes order) (hRS : ∀ x ∈ nodes, ∀ y ∈ nodes, (R x y ↔ S x y)) :
    LeastOrder S nodes order where
  perm := h.perm
  respects x hx y hy hxy := h.respects x hx y hy ((hRS x hx y hy).mpr hxy)
  least other hperm hres := h.least other hperm fun x hx y hy hxy => hres x hx y hy ((hRS x hx y hy).mp hxy)

variable {r : Relation} {left : List PluginId} {id : PluginId}

theorem without_cons_self : without (id :: left) id = without left id := List.filter_cons_of_neg (by simp)

theorem without_cons_of_ne (h : id ≠ q) : without (id :: left) q = id :: without left q :=
  List.filter_cons_of_pos (by simpa using h)

theorem without_of_not_mem (h : q ∉ left) : without left q = left :=
  List.filter_eq_self.mpr fun x hx => decide_eq_true fun e : x = q => h (e ▸ hx)

theorem ascending_without (h : Ascending left) : Ascending (without left id) := h.filter _

theorem without_comm : without (without left id) q = without (without left q) id := List.filter_comm _ _ _

/-- The others are ready at the same times without a node for which nothing waits. -/
theorem readyOf_without (hq : ∀ x, ¬r.Step x q) : readyOf r (without left q) = without (readyOf r left) q := by
  have hcount : ∀ x, openCount r (without left q) x = openCount r left x := by
    intro x
    refine List.countP_congr fun p hp => ?_
    have hne : p.2 ≠ q := fun e => hq p.1 (e ▸ hp)
    simp [mem_without, hne]
  simp only [readyOf, hcount]
  exact List.filter_comm _ _ _

/-- A node for which nothing waits is placed between the others and changes nothing of their order. -/
theorem filter_place (hr : r.Nodup) (hacyclic : Acyclic r.Step) (hq : ∀ x, ¬r.Step x q) (hl : Ascending left) :
    without (place r (.of r left)) q = place r (.of r (without left q)) := by
  induction hn : left.length using Nat.strong_induction_on generalizing left with
  | _ n ih =>
    have hready : readyOf r (without left q) = without (readyOf r left) q := readyOf_without hq
    cases h : readyOf r left with
    | nil =>
      rw [h] at hready
      rw [place_of_nil h, place_of_nil hready]
      rfl
    | cons id ready =>
      rw [place_of_cons hr hl h]
      by_cases hid : id = q
      · -- It is not placed again, so without it the others are what is left.
        subst hid
        have hmem : id ∉ place r (.of r (without left id)) := fun hx =>
          (mem_without.mp ((leastOrder_place hr hacyclic (ascending_without hl)).perm.subset hx)).2 rfl
        rw [without_cons_self, without_of_not_mem hmem]
      · have hleft : id ∈ left := (mem_readyOf.mp (by rw [h]; exact List.mem_cons_self)).1
        have hlt : (without left id).length < n := by
          rw [← hn]
          exact List.length_filter_lt_length_iff_exists.mpr ⟨id, hleft, by simp⟩
        rw [h, without_cons_of_ne hid] at hready
        rw [place_of_cons hr (ascending_without hl) hready, without_cons_of_ne hid, ih _ hlt (ascending_without hl) rfl,
          without_comm]

/-- Without a node on which no other one depends, the least order is that of the others. -/
theorem filter_leastOrder_of_removeNode (h : g.WellFormed) (hacyclic : Acyclic g.Requires) (hq : g.Unneeded q)
    {rest : List PluginId} (horder : LeastOrder g.Effective g.nodes order)
    (hrest : LeastOrder (g.removeNode q).Effective (g.removeNode q).nodes rest) : order.filter (· ≠ q) = rest := by
  have hstep : g.effectiveRelation.Step = g.Effective := by
    funext x y
    exact propext (mem_effectiveRelation_iff h)
  have heff : Acyclic g.Effective := acyclic_effective hacyclic
  have hfree : ∀ x, ¬g.effectiveRelation.Step x q := by
    intro x hx
    rw [hstep] at hx
    obtain ⟨e, he, rfl, ht⟩ := exists_edge_of_effective hx
    rw [hq e he ht] at hx
    exact heff q (.single hx)
  have hr := nodup_effectiveRelation h
  have hplaced : ∀ {left}, Ascending left →
      LeastOrder g.Effective left (place g.effectiveRelation (.of g.effectiveRelation left)) := by
    intro left hl
    have hleast := leastOrder_place hr (hstep ▸ heff) hl
    rwa [hstep] at hleast
  rw [horder.unique (hplaced h.nodes)]
  refine (filter_place hr (hstep ▸ heff) hfree h.nodes).trans (LeastOrder.unique ?_ hrest)
  refine (hplaced (ascending_without h.nodes)).congr fun x hx y hy => ?_
  rw [effective_removeNode hq]
  exact ⟨fun hxy => ⟨hxy, (mem_without.mp hx).2, (mem_without.mp hy).2⟩, fun hxy => hxy.1⟩

end PluginHost.Graph
