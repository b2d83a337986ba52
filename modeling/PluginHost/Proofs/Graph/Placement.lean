import PluginHost.Graph.Order
import PluginHost.Proofs.Graph.Path
import PluginHost.Proofs.Graph.Spread
import PluginHost.Proofs.Ordered.Ascending
import PluginHost.Proofs.Ordered.Precedes

/-!
# Placing nodes

The frontier is at all times what the nodes that are left make it (`Frontier.of`): each waits for as many as there are
pairs to nodes that are left, and those that wait for none are ready. So placing is taking the least node that waits
for none of those that are left (`place_of_cons`).

* `leastOrder_place`: without a cycle every node is placed once and after those it waits for, and of all orders that do
  so the one that is found is lexicographically least.
-/

namespace PluginHost.Graph

/-- The nodes for which a node waits, counted among those that are left. -/
def openCount (r : Relation) (left : List PluginId) (id : PluginId) : Nat := r.countP fun p => p.1 = id ∧ p.2 ∈ left

/-- The nodes that are left once a node was placed. -/
def without (left : List PluginId) (id : PluginId) : List PluginId := left.filter (· ≠ id)

/-- The nodes that wait for none of those that are left. -/
def readyOf (r : Relation) (left : List PluginId) : List PluginId := left.filter fun x => openCount r left x = 0

/-- The frontier that the nodes that are left make. -/
def Frontier.of (r : Relation) (left : List PluginId) : Frontier :=
  { waiting := (left.filter fun x => openCount r left x ≠ 0).map fun x => (x, openCount r left x)
    ready := readyOf r left }

variable {r : Relation} {left : List PluginId} {id x y : PluginId}

theorem mem_without : x ∈ without left id ↔ x ∈ left ∧ x ≠ id := by simp [without]

theorem mem_readyOf : x ∈ readyOf r left ↔ x ∈ left ∧ openCount r left x = 0 := by simp [readyOf]

/-- A node waits for none exactly when no step leads from it to a node that is left. -/
theorem openCount_eq_zero_iff : openCount r left x = 0 ↔ ∀ y ∈ left, ¬r.Step x y := by
  simp only [openCount, List.countP_eq_zero, decide_eq_true_eq, Relation.Step]
  constructor
  · intro h y hy hxy
    exact h (x, y) hxy ⟨rfl, hy⟩
  · rintro h ⟨a, b⟩ hp ⟨rfl, hb⟩
    exact h b hb hp

/-- Once a node was placed, those with a pair to it wait for one less. -/
theorem openCount_without (hr : r.Nodup) (hid : id ∈ left) :
    openCount r left x = openCount r (without left id) x + if (x, id) ∈ r then 1 else 0 := by
  induction r with
  | nil => rfl
  | cons p r ih =>
    obtain ⟨a, b⟩ := p
    have ih := ih (List.nodup_cons.mp hr).2
    have hp : (a, b) ∉ r := (List.nodup_cons.mp hr).1
    simp only [openCount, List.countP_cons, decide_eq_true_eq, mem_without, List.mem_cons, Prod.mk.injEq] at ih ⊢
    rw [ih]
    by_cases hb : b = id
    · subst hb
      by_cases ha : x = a
      · subst ha
        simp [hid, hp]
      · simp [ha, Ne.symm ha]
    · have hb' : ¬id = b := fun e => hb e.symm
      by_cases ha : a = x ∧ b ∈ left
      · simp [ha, hb, hb']
        omega
      · have hno : ¬(a = x ∧ b ∈ left ∧ b ≠ id) := fun h => ha ⟨h.1, h.2.1⟩
        simp [ha, hno, hb']

theorem openCount_without_le (hr : r.Nodup) (hid : id ∈ left) :
    openCount r (without left id) x ≤ openCount r left x := by
  have := openCount_without (x := x) hr hid
  omega

/-! ## The frontier -/

namespace Frontier

/-- Moving the nodes that wait for none, when the counts are given by a function. -/
theorem settle_map (ids ready : List PluginId) (count : PluginId → Nat) :
    settle (ids.map fun x => (x, count x)) ready =
      { waiting := (ids.filter fun x => count x ≠ 0).map fun x => (x, count x)
        ready := (ids.filter fun x => count x = 0).foldl (fun ready id => insertAscending id ready) ready } := by
  simp only [settle, List.filter_map, List.map_map, Function.comp_def, List.map_id']

/-- Before any node is placed, the frontier is that of all nodes. -/
theorem start_eq_of {nodes : List PluginId} (hn : Ascending nodes) (hr : ∀ p ∈ r, p.2 ∈ nodes) :
    start nodes r = of r nodes := by
  have hcount : ∀ x, (r.countP fun p => p.1 = x) = openCount r nodes x := by
    intro x
    refine List.countP_congr fun p hp => ?_
    simp [hr p hp]
  have hready : (readyOf r nodes).foldl (fun ready id => insertAscending id ready) [] = readyOf r nodes := by
    refine Ascending.ext (ascending_foldl_insertAscending _ List.Pairwise.nil) (hn.filter _) fun x => ?_
    rw [mem_foldl_insertAscending]
    simp
  simp only [start, hcount, settle_map]
  rw [of, ← hready]
  rfl

/-- The other nodes that are ready. -/
theorem mem_tail_readyOf (hl : Ascending left) {ready : List PluginId} (h : readyOf r left = id :: ready) :
    x ∈ ready ↔ (x ∈ left ∧ openCount r left x = 0) ∧ x ≠ id := by
  have hasc : Ascending (id :: ready) := h ▸ hl.filter _
  rw [← mem_readyOf, h, List.mem_cons]
  constructor
  · intro hx
    exact ⟨Or.inr hx, fun e => (List.nodup_cons.mp hasc.nodup).1 (e ▸ hx)⟩
  · rintro ⟨hx, hne⟩
    exact hx.resolve_left hne

/-- Once a node was placed, the counts of the nodes that wait are those among the nodes that are left. -/
theorem map_waiting_of (hr : r.Nodup) (hid : id ∈ left) :
    (of r left).waiting.map (fun p =>
      (p.1, if p.1 ∈ (r.filter fun p => p.2 = id).map Prod.fst then p.2 - 1 else p.2)) =
    (left.filter fun x => openCount r left x ≠ 0).map fun x => (x, openCount r (without left id) x) := by
  rw [of, List.map_map]
  refine List.map_congr_left fun x _ => ?_
  have hmem : x ∈ (r.filter fun p => p.2 = id).map Prod.fst ↔ (x, id) ∈ r := by simp
  have hcount := openCount_without (x := x) hr hid
  simp only [Function.comp, hmem, Prod.mk.injEq, true_and]
  split <;> simp_all

/-- Of the nodes that waited, those that still wait are all that wait once a node was placed. -/
theorem filter_waiting_without (hr : r.Nodup) (hid : id ∈ left) (hzero : openCount r left id = 0) :
    (left.filter fun x => openCount r left x ≠ 0).filter (fun x => openCount r (without left id) x ≠ 0) =
      (without left id).filter fun x => openCount r (without left id) x ≠ 0 := by
  rw [without, List.filter_filter, List.filter_filter, ← without]
  refine List.filter_congr fun x _ => ?_
  have hle := openCount_without_le (x := x) hr hid
  rw [Bool.eq_iff_iff]
  simp only [Bool.and_eq_true, decide_eq_true_eq]
  constructor
  · rintro ⟨hc', hc⟩
    exact ⟨hc', fun e => hc (e ▸ hzero)⟩
  · rintro ⟨hc', _⟩
    exact ⟨hc', by omega⟩

/-- The nodes that wait no more join those that were ready, and these are all that are ready once a node was placed. -/
theorem foldl_insert_ready (hr : r.Nodup) (hl : Ascending left) {ready : List PluginId}
    (h : readyOf r left = id :: ready) :
    ((left.filter fun x => openCount r left x ≠ 0).filter fun x =>
      openCount r (without left id) x = 0).foldl (fun ready id => insertAscending id ready) ready =
      readyOf r (without left id) := by
  have hid : id ∈ left ∧ openCount r left id = 0 := mem_readyOf.mp (by rw [h]; exact List.mem_cons_self)
  have hasc : Ascending (id :: ready) := h ▸ hl.filter _
  refine Ascending.ext (ascending_foldl_insertAscending _ (List.pairwise_cons.mp hasc).2)
    ((hl.filter _).filter _) fun x => ?_
  have hle := openCount_without_le (x := x) hr hid.1
  rw [mem_foldl_insertAscending, mem_tail_readyOf hl h, mem_readyOf, mem_without]
  simp only [List.mem_filter, decide_eq_true_eq]
  constructor
  · rintro (⟨⟨hx, hc⟩, hc'⟩ | ⟨⟨hx, hc⟩, hne⟩)
    · exact ⟨⟨hx, fun e => hc (e ▸ hid.2)⟩, hc'⟩
    · exact ⟨⟨hx, hne⟩, by omega⟩
  · rintro ⟨⟨hx, hne⟩, hc'⟩
    by_cases hc : openCount r left x = 0
    · exact Or.inr ⟨⟨hx, hc⟩, hne⟩
    · exact Or.inl ⟨⟨hx, hc⟩, hc'⟩

/-- Placing a node that is ready leaves the frontier of the nodes that are left. -/
theorem release_of (hr : r.Nodup) (hl : Ascending left) {ready : List PluginId} (h : readyOf r left = id :: ready) :
    ({ of r left with ready } : Frontier).release r id = of r (without left id) := by
  have hid : id ∈ left ∧ openCount r left id = 0 := mem_readyOf.mp (by rw [h]; exact List.mem_cons_self)
  simp only [release]
  rw [map_waiting_of hr hid.1, settle_map, filter_waiting_without hr hid.1 hid.2, foldl_insert_ready hr hl h, of]

end Frontier

/-! ## The order -/

theorem place_of_nil (h : readyOf r left = []) : place r (.of r left) = [] := by
  have hready : (Frontier.of r left).ready = [] := h
  rw [place]
  split
  · rfl
  · rename_i hcons
    rw [hready] at hcons
    cases hcons

/-- Placing is taking the least node that is ready, and going on with those that are left. -/
theorem place_of_cons {ready : List PluginId} (hr : r.Nodup) (hl : Ascending left) (h : readyOf r left = id :: ready) :
    place r (.of r left) = id :: place r (.of r (without left id)) := by
  have hready : (Frontier.of r left).ready = id :: ready := h
  rw [place]
  split
  · rename_i hnil
    rw [hready] at hnil
    cases hnil
  · rename_i hcons
    rw [hready] at hcons
    cases hcons
    rw [Frontier.release_of hr hl h]

/-- The lexicographically least among the orders of some nodes in which every step leads to an earlier node. -/
structure LeastOrder (R : PluginId → PluginId → Prop) (nodes order : List PluginId) : Prop where
  perm : order.Perm nodes
  respects : ∀ x ∈ nodes, ∀ y ∈ nodes, R x y → Precedes order y x
  least : ∀ other : List PluginId, other.Perm nodes → (∀ x ∈ nodes, ∀ y ∈ nodes, R x y → Precedes other y x) →
    order = other ∨ List.Lex (· < ·) order other

/-- Every order in which steps lead to earlier nodes starts with a node that is ready. -/
theorem head_mem_readyOf {other : List PluginId} (hl : left.Nodup) (hperm : (y :: other).Perm left)
    (hres : ∀ x ∈ left, ∀ z ∈ left, r.Step x z → Precedes (y :: other) z x) : y ∈ readyOf r left := by
  have hy : y ∈ left := hperm.subset List.mem_cons_self
  have hn : y ∉ other := (List.nodup_cons.mp (hperm.nodup_iff.mpr hl)).1
  refine mem_readyOf.mpr ⟨hy, openCount_eq_zero_iff.mpr fun z hz hyz => ?_⟩
  rcases Precedes.cons_iff.mp (hres y hy z hz hyz) with ⟨_, h⟩ | h
  · exact hn h
  · exact hn h.right_mem

/-- Without one node, there are the steps among the others. -/
theorem respects_without {other : List PluginId}
    (hres : ∀ x ∈ left, ∀ z ∈ left, r.Step x z → Precedes (id :: other) z x) :
    ∀ x ∈ without left id, ∀ z ∈ without left id, r.Step x z → Precedes other z x := by
  intro x hx z hz hxz
  have hx := mem_without.mp hx
  have hz := mem_without.mp hz
  rcases Precedes.cons_iff.mp (hres x hx.1 z hz.1 hxz) with ⟨h, _⟩ | h
  · exact absurd h.symm hz.2
  · exact h

theorem perm_without (hl : left.Nodup) {other : List PluginId} (hperm : (id :: other).Perm left) :
    other.Perm (without left id) := by
  have hn := List.nodup_cons.mp (hperm.nodup_iff.mpr hl)
  refine (List.perm_ext_iff_of_nodup hn.2 (hl.filter _)).mpr fun x => ?_
  rw [← without, mem_without, ← hperm.mem_iff, List.mem_cons]
  constructor
  · exact fun hx => ⟨Or.inr hx, fun e => hn.1 (e ▸ hx)⟩
  · rintro ⟨hx, hne⟩
    exact hx.resolve_left hne

/-- The least node that is ready, and the least order of the others, are the least order of all. -/
theorem LeastOrder.cons {rest ready : List PluginId} (hl : Ascending left) (h : readyOf r left = id :: ready)
    (hrest : LeastOrder r.Step (without left id) rest) : LeastOrder r.Step left (id :: rest) := by
  have hid : id ∈ left ∧ openCount r left id = 0 := mem_readyOf.mp (by rw [h]; exact List.mem_cons_self)
  have hfree : ∀ y ∈ left, ¬r.Step id y := openCount_eq_zero_iff.mp hid.2
  have hasc : Ascending (id :: ready) := h ▸ hl.filter _
  have hmem : ∀ x, x ∈ rest ↔ x ∈ left ∧ x ≠ id := fun x => by rw [hrest.perm.mem_iff, mem_without]
  constructor
  · have hn : (id :: rest).Nodup := by
      refine List.nodup_cons.mpr ⟨fun hx => ((hmem id).mp hx).2 rfl, ?_⟩
      exact hrest.perm.nodup_iff.mpr (hl.nodup.filter _)
    refine (List.perm_ext_iff_of_nodup hn hl.nodup).mpr fun x => ?_
    rw [List.mem_cons, hmem]
    constructor
    · rintro (rfl | hx)
      · exact hid.1
      · exact hx.1
    · intro hx
      by_cases hne : x = id
      · exact Or.inl hne
      · exact Or.inr ⟨hx, hne⟩
  · intro x hx y hy hxy
    have hxid : x ≠ id := by
      rintro rfl
      exact hfree y hy hxy
    refine Precedes.cons_iff.mpr ?_
    by_cases hyid : y = id
    · exact Or.inl ⟨hyid.symm, (hmem x).mpr ⟨hx, hxid⟩⟩
    · exact Or.inr (hrest.respects x (mem_without.mpr ⟨hx, hxid⟩) y (mem_without.mpr ⟨hy, hyid⟩) hxy)
  · intro other hperm hres
    cases other with
    | nil =>
      rw [List.nil_perm.mp hperm] at hid
      cases hid.1
    | cons y other =>
      have hy : y ∈ id :: ready := h ▸ head_mem_readyOf hl.nodup hperm hres
      rcases List.mem_cons.mp hy with rfl | hy
      · -- The same head: what follows is an order of the others.
        rcases hrest.least other (perm_without hl.nodup hperm) (respects_without hres) with rfl | hlt
        · exact Or.inl rfl
        · exact Or.inr (.cons hlt)
      · exact Or.inr (.rel (hasc.head_lt hy))

/-- Without a cycle, placing gives the least order of the nodes that are left. -/
theorem leastOrder_place (hr : r.Nodup) (hacyclic : Acyclic r.Step) (hl : Ascending left) :
    LeastOrder r.Step left (place r (.of r left)) := by
  induction hn : left.length using Nat.strong_induction_on generalizing left with
  | _ n ih =>
    cases h : readyOf r left with
    | nil =>
      have hnil : left = [] := by
        by_contra hne
        obtain ⟨x, hx, hmin⟩ := hacyclic.exists_minimal hne
        have hmem : x ∈ readyOf r left := mem_readyOf.mpr ⟨hx, openCount_eq_zero_iff.mpr hmin⟩
        rw [h] at hmem
        cases hmem
      subst hnil
      rw [place_of_nil h]
      exact ⟨.nil, by simp, fun other hperm _ => Or.inl (List.perm_nil.mp hperm).symm⟩
    | cons id ready =>
      have hid : id ∈ left := (mem_readyOf.mp (by rw [h]; exact List.mem_cons_self)).1
      have hlt : (without left id).length < n := by
        rw [← hn]
        exact List.length_filter_lt_length_iff_exists.mpr ⟨id, hid, by simp⟩
      rw [place_of_cons hr hl h]
      exact LeastOrder.cons hl h (ih _ hlt (hl.filter _) rfl)

end PluginHost.Graph
