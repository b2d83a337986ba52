import PluginHost.Graph.Counting
import PluginHost.Proofs.Graph.Order
import PluginHost.Proofs.Ordered.IdMap

/-!
# Counting is safe

Counting places the nodes as the frontier does, and nothing goes wrong with its counters (`countedOrder_eq`). The
invariant is that every counter is what the nodes that are left make it (`openCount`), also that of a node that was
placed; while a node is counted off, the counters of the waiters that are still to come are one above (`Counted`).

* `SafeOrder`: the order of a graph is found without a fault, or its required edges have the cycle that is told.
-/

namespace PluginHost.Graph

variable {r : Relation} {nodes left ids targets : List PluginId} {count : PluginId → Nat} {c : Counting}
  {waiters : IdMap (List PluginId)} {n : Nat} {x y : PluginId}

/-! ## Targets and waiters -/

theorem mem_targets : y ∈ r.targets x ↔ r.Step x y := by
  rw [Relation.targets, mem_foldl_insertAscending]
  simp [Relation.Step]

theorem nodup_targets : (r.targets x).Nodup :=
  Ascending.nodup (ascending_foldl_insertAscending _ List.Pairwise.nil)

/-- A node waits for as many nodes as there are pairs from it. -/
theorem length_targets (hr : r.Nodup) (hnodes : ∀ p ∈ r, p.2 ∈ nodes) : (r.targets x).length = openCount r nodes x := by
  have hn : ((r.filter fun p => p.1 = x).map Prod.snd).Nodup := by
    refine List.Nodup.map_on ?_ (hr.filter _)
    rintro ⟨a, b⟩ hp ⟨a', b'⟩ hp' rfl
    obtain rfl : a = x := by simpa using (List.mem_filter.mp hp).2
    obtain rfl : a' = a := by simpa using (List.mem_filter.mp hp').2
    rfl
  have hperm : (r.targets x).Perm ((r.filter fun p => p.1 = x).map Prod.snd) :=
    (List.perm_ext_iff_of_nodup nodup_targets hn).mpr fun y => by
      rw [mem_targets]
      simp [Relation.Step]
  rw [hperm.length_eq, List.length_map, ← List.countP_eq_length_filter]
  refine List.countP_congr fun p hp => ?_
  simp [hnodes p hp]

/-- A node that is written down at its targets stands last in the list of each. -/
theorem getD_enlist : ∀ {targets : List PluginId} {waiters : IdMap (List PluginId)}, targets.Nodup →
    ((enlist waiters x targets).find? y).getD [] =
      (waiters.find? y).getD [] ++ if y ∈ targets then [x] else []
  | [], _, _ => by simp [enlist]
  | t :: targets, waiters, hn => by
    obtain ⟨ht, hn⟩ := List.nodup_cons.mp hn
    have ih : ((enlist (waiters.insert t ((waiters.find? t).getD [] ++ [x])) x targets).find? y).getD [] = _ :=
      getD_enlist hn
    rw [enlist] at ih ⊢
    rw [List.foldl_cons, ih, IdMap.find?_insert]
    by_cases hy : y = t
    · subst hy
      simp [ht]
    · simp [hy]

/-- The waiters of a node are the nodes with a pair to it, in ascending order. -/
theorem getD_waitersOf (nodes : List PluginId) (r : Relation) (y : PluginId) :
    ((waitersOf nodes r).find? y).getD [] = nodes.filter fun x => (x, y) ∈ r := by
  have go : ∀ (nodes : List PluginId) (waiters : IdMap (List PluginId)),
      ((nodes.foldl (fun waiters x => enlist waiters x (r.targets x)) waiters).find? y).getD [] =
        (waiters.find? y).getD [] ++ nodes.filter fun x => (x, y) ∈ r := by
    intro nodes
    induction nodes with
    | nil => simp
    | cons x nodes ih =>
      intro waiters
      rw [List.foldl_cons, ih, getD_enlist nodup_targets, List.append_assoc, List.filter_cons]
      have hy : y ∈ r.targets x ↔ (x, y) ∈ r := mem_targets
      by_cases h : (x, y) ∈ r <;> simp [hy, h]
  rw [waitersOf, go, IdMap.find?_empty]
  rfl

/-! ## The invariant -/

/-- The counters tell for each node a given number, and of the nodes that are left those are ready that have none to
wait for, and no other node is. -/
structure Counted (nodes left : List PluginId) (count : PluginId → Nat) (c : Counting) : Prop where
  remaining : ∀ x, c.remaining.find? x = if x ∈ nodes then some (count x) else none
  ascending : Ascending c.ready
  ready : ∀ x, x ∈ c.ready ↔ x ∈ left ∧ count x = 0
  placed : ∀ x ∈ c.order, count x = 0

/-- Before any node is placed, each counter is the number of nodes that the node waits for. -/
theorem counted_start (hr : r.Nodup) (hn : nodes.Nodup) (hnodes : ∀ p ∈ r, p.2 ∈ nodes) :
    Counted nodes nodes (openCount r nodes) (.start nodes r) := by
  have hfind : ∀ x, (Counting.start nodes r).remaining.find? x =
      if x ∈ nodes then some (openCount r nodes x) else none := by
    intro x
    split
    · rename_i hx
      rw [← length_targets hr hnodes]
      exact @IdMap.find?_foldl_insert_of_mem Nat _ id (fun x => (r.targets x).length) x nodes _ (by simpa using hn) hx
    · rename_i hx
      exact @IdMap.find?_foldl_insert_of_not_mem Nat _ id (fun x => (r.targets x).length) x nodes _ (by simpa using hx)
  refine ⟨hfind, ?_, fun x => ?_, by simp [Counting.start]⟩
  · exact (Counting.start nodes r).remaining.ascending.sublist (List.filter_sublist.map Prod.fst)
  · have hready : x ∈ (Counting.start nodes r).ready ↔ (Counting.start nodes r).remaining.find? x = some 0 := by
      rw [← IdMap.mem_entries_iff]
      simp [Counting.start]
    rw [hready, hfind]
    simp

/-- A node that waits for some is counted down, without a fault. -/
theorem Counted.countOff (h : Counted nodes left count c) (hnode : x ∈ nodes) (hx : x ∈ left)
    (hcount : count x = n + 1) : ∃ c', c.countOff x = .ok c' ∧ c'.order = c.order ∧
      Counted nodes left (Function.update count x n) c' := by
  have hnot : x ∉ c.ready ∧ x ∉ c.order := by
    constructor
    · intro hready
      have hzero := ((h.ready x).mp hready).2
      omega
    · intro horder
      have hzero := h.placed x horder
      omega
  have hnew : ¬(n = 0 ∧ (x ∈ c.ready ∨ x ∈ c.order)) := fun hagain => hagain.2.elim hnot.1 hnot.2
  have hfind : c.remaining.find? x = some (n + 1) := by rw [h.remaining, if_pos hnode, hcount]
  have hstep : c.countOff x = .ok { c with
      remaining := c.remaining.insert x n
      ready := if n = 0 then insertAscending x c.ready else c.ready } := by
    simp only [Counting.countOff, hfind, if_neg hnew]
  refine ⟨_, hstep, rfl, fun y => ?_, ?_, fun y => ?_, fun y hy => ?_⟩
  · rw [IdMap.find?_insert, h.remaining]
    by_cases hy : y = x
    · subst hy
      simp [hnode]
    · simp [hy]
  · dsimp only
    split
    · exact ascending_insertAscending h.ascending
    · exact h.ascending
  · by_cases hy : y = x
    · subst hy
      by_cases hzero : n = 0 <;> simp [hzero, mem_insertAscending, hx, hnot.1]
    · by_cases hzero : n = 0 <;> simp [hzero, hy, mem_insertAscending, h.ready]
  · have hne : y ≠ x := fun e => hnot.2 (e ▸ hy)
    rw [Function.update_of_ne hne]
    exact h.placed y hy

/-- Waiters whose counters are one above are counted down one after the other. -/
theorem Counted.foldlM_countOff (hleft : ∀ x ∈ left, x ∈ nodes) : ∀ (ids : List PluginId) {c : Counting}, ids.Nodup →
    (∀ x ∈ ids, x ∈ left) → Counted nodes left (fun x => count x + if x ∈ ids then 1 else 0) c →
    ∃ c', ids.foldlM Counting.countOff c = .ok c' ∧ c'.order = c.order ∧ Counted nodes left count c'
  | [], c, _, _, h => ⟨c, rfl, rfl, by simpa using h⟩
  | x :: ids, c, hn, hids, h => by
    obtain ⟨hx, hn⟩ := List.nodup_cons.mp hn
    have hxl : x ∈ left := hids x List.mem_cons_self
    obtain ⟨c₁, hc₁, horder₁, h₁⟩ := h.countOff (n := count x) (hleft x hxl) hxl (by simp)
    have hcount : Function.update (fun y => count y + if y ∈ x :: ids then 1 else 0) x (count x) =
        fun y => count y + if y ∈ ids then 1 else 0 := by
      funext y
      by_cases hy : y = x
      · subst hy
        simp [hx]
      · simp [hy]
    rw [hcount] at h₁
    obtain ⟨c₂, hc₂, horder₂, h₂⟩ := foldlM_countOff hleft ids hn (fun y hy => hids y (List.mem_cons_of_mem _ hy)) h₁
    refine ⟨c₂, ?_, horder₂.trans horder₁, h₂⟩
    rw [List.foldlM_cons, hc₁]
    exact hc₂

/-! ## The run -/

/-- What holds before a node is placed: the counters are those that the nodes that are left make, for all nodes. -/
structure Underway (r : Relation) (nodes left : List PluginId) (c : Counting) : Prop where
  counted : Counted nodes left (openCount r left) c
  ascending : Ascending left
  within : ∀ x ∈ left, x ∈ nodes
  /-- A node that is not left waits for none of those that are. -/
  free : ∀ x ∈ nodes, x ∉ left → openCount r left x = 0

theorem Underway.ready_eq (h : Underway r nodes left c) : c.ready = readyOf r left :=
  h.counted.ascending.ext (h.ascending.filter _) fun x => by rw [h.counted.ready, mem_readyOf]

/-- The least node that is ready is placed and counted off at all its waiters, without a fault. -/
theorem Underway.place {ready : List PluginId} {id : PluginId} (h : Underway r nodes left c) (hr : r.Nodup)
    (hn : nodes.Nodup) (hsources : ∀ p ∈ r, p.1 ∈ nodes) (hready : c.ready = id :: ready) :
    ∃ c', (((waitersOf nodes r).find? id).getD []).foldlM Counting.countOff
        { c with ready, order := c.order ++ [id] } = .ok c' ∧
      c'.order = c.order ++ [id] ∧ Underway r nodes (without left id) c' := by
  have hid : id ∈ left ∧ openCount r left id = 0 := (h.counted.ready id).mp (by rw [hready]; exact List.mem_cons_self)
  have hwithin : ∀ x ∈ without left id, x ∈ nodes := fun x hx => h.within x (mem_without.mp hx).1
  have hcount : ∀ x, openCount r left x =
      openCount r (without left id) x + if x ∈ nodes.filter fun x => (x, id) ∈ r then 1 else 0 := by
    intro x
    have hmem : x ∈ (nodes.filter fun x => (x, id) ∈ r) ↔ (x, id) ∈ r := by
      simp only [List.mem_filter, decide_eq_true_eq]
      exact ⟨fun hx => hx.2, fun hx => ⟨hsources _ hx, hx⟩⟩
    rw [openCount_without hr hid.1]
    simp only [hmem]
  -- A node that waits for `id` is left, because `id` is, and it is not `id` itself, which waits for none.
  have hwaiters : ∀ x ∈ nodes.filter fun x => (x, id) ∈ r, x ∈ without left id := by
    intro x hx
    have hpos : openCount r left x ≠ 0 := by
      rw [hcount, if_pos hx]
      omega
    refine mem_without.mpr ⟨?_, fun e => hpos (e ▸ hid.2)⟩
    by_contra hleft
    exact hpos (h.free x (List.mem_filter.mp hx).1 hleft)
  have hcounted : Counted nodes (without left id)
      (fun x => openCount r (without left id) x + if x ∈ nodes.filter fun x => (x, id) ∈ r then 1 else 0)
      { c with ready, order := c.order ++ [id] } := by
    simp only [← hcount]
    refine ⟨h.counted.remaining, ?_, fun x => ?_, fun x hx => ?_⟩
    · have hasc := h.counted.ascending
      rw [hready] at hasc
      exact (List.pairwise_cons.mp hasc).2
    · rw [Frontier.mem_tail_readyOf h.ascending (h.ready_eq.symm.trans hready), mem_without, and_right_comm]
    · rcases List.mem_append.mp hx with hx | hx
      · exact h.counted.placed x hx
      · obtain rfl := List.mem_singleton.mp hx
        exact hid.2
  obtain ⟨c', hc', horder, hcounted'⟩ := hcounted.foldlM_countOff hwithin _ (hn.filter _) hwaiters
  refine ⟨c', by rw [getD_waitersOf]; exact hc', horder, hcounted', h.ascending.filter _, hwithin, fun x hx hno => ?_⟩
  have hle := openCount_without_le (x := x) hr hid.1
  have hzero : openCount r left x = 0 := by
    by_cases hxl : x ∈ left
    · have hxid : x = id := by
        by_contra hne
        exact hno (mem_without.mpr ⟨hxl, hne⟩)
      exact hxid ▸ hid.2
    · exact h.free x hx hxl
  omega

/-- Counting goes through without a fault, and places the nodes that are left as the frontier does. -/
theorem Underway.run (hr : r.Nodup) (hn : nodes.Nodup) (hsources : ∀ p ∈ r, p.1 ∈ nodes) {left : List PluginId}
    {c : Counting} (h : Underway r nodes left c) :
    c.run (waitersOf nodes r) = .ok (c.order ++ Graph.place r (.of r left)) := by
  induction hl : left.length using Nat.strong_induction_on generalizing left c with
  | _ n ih =>
    rw [Counting.run]
    split
    · rename_i hready
      rw [place_of_nil (h.ready_eq.symm.trans hready), List.append_nil]
    · rename_i id ready hready
      obtain ⟨c', hc', horder, h'⟩ := h.place hr hn hsources hready
      have hready' : readyOf r left = id :: ready := h.ready_eq.symm.trans hready
      have hid : id ∈ left := (mem_readyOf.mp (by rw [hready']; exact List.mem_cons_self)).1
      have hlt : (without left id).length < n := by
        rw [← hl]
        exact List.length_filter_lt_length_iff_exists.mpr ⟨id, hid, by simp⟩
      split
      · rename_i fault hfault
        rw [hc'] at hfault
        cases hfault
      · rename_i c'' hc''
        obtain rfl := Except.ok.inj (hc'.symm.trans hc'')
        rw [ih _ hlt h' rfl, horder, place_of_cons hr h.ascending hready', List.append_assoc, List.singleton_append]

/-! ## The order of a graph -/

variable {g : Graph}

/-- In a well-formed graph counting goes through without a fault, and places the nodes as the frontier does. -/
theorem WellFormed.countedOrder_eq (h : g.WellFormed) :
    g.countedOrder = .ok (place g.effectiveRelation (.start g.nodes g.effectiveRelation)) := by
  have hends : ∀ p ∈ g.effectiveRelation, p.1 ∈ g.nodes ∧ p.2 ∈ g.nodes := fun p hp =>
    h.effective_mem ((mem_effectiveRelation_iff h).mp hp)
  have hr : g.effectiveRelation.Nodup := nodup_effectiveRelation h
  have htargets : ∀ p ∈ g.effectiveRelation, p.2 ∈ g.nodes := fun p hp => (hends p hp).2
  have hstart : Underway g.effectiveRelation g.nodes g.nodes (.start g.nodes g.effectiveRelation) :=
    ⟨counted_start hr h.nodes.nodup htargets, h.nodes, fun _ hx => hx, fun x hx hno => absurd hx hno⟩
  rw [Frontier.start_eq_of h.nodes htargets]
  exact hstart.run hr h.nodes.nodup fun p hp => (hends p hp).1

/-- The order of a graph is found without a fault, unless there is a cycle, which is told then. -/
structure SafeOrder (g : Graph) : Prop where
  /-- Counting has no fault, and without a cycle it places all nodes, in the order that is answered. -/
  counted : ∃ order, g.countedOrder = .ok order ∧
    (g.findCycle? = none → g.orderOrCycle = .ok order ∧ order.Perm g.nodes)
  /-- An error is the cycle that was found, and never the nodes that would be left over. -/
  error : ∀ path, g.orderOrCycle = .error path → g.findCycle? = some path ∧ IsCycle g.Requires path ∧
    path.head? = path.getLast? ∧ 2 ≤ path.length

theorem WellFormed.safeOrder (h : g.WellFormed) : g.SafeOrder where
  counted := by
    refine ⟨_, h.countedOrder_eq, fun hnone => ?_⟩
    have hleast := leastOrder_place_effectiveRelation h ((findCycle?_eq_none_iff h).mp hnone)
    exact ⟨by simp only [orderOrCycle, hnone, if_pos hleast.perm.length_eq], hleast.perm⟩
  error path he := by
    have hcycle : ¬Acyclic g.Requires := by
      intro hacyclic
      obtain ⟨order, ho, _⟩ := exists_orderOrCycle_ok h hacyclic
      rw [ho] at he
      cases he
    obtain ⟨c, hc, ho, hcyc⟩ := exists_orderOrCycle_error h hcycle
    obtain rfl := Except.error.inj (ho.symm.trans he)
    refine ⟨hc, hcyc, ?_⟩
    obtain ⟨a, mid, rfl, _⟩ := hcyc
    refine ⟨?_, by simp⟩
    rw [List.getLast?_append]
    rfl

/-- The faults are told: with a waiter written down twice, its counter is spent when it is to go down again. -/
example : (Counting.start ["a", "b"] [("a", "b")]).run (IdMap.ofList [("b", ["a", "a"])]) = .error (.spent "a") := by
  cbv

end PluginHost.Graph
