import PluginHost.Graph.Order
import PluginHost.Ordered.IdMap

/-!
# The order by counting

How the order of a graph is worked out step by step. Every node has a counter, the number of nodes it still waits for; a
node that was placed is counted off at each of its waiters. The counters and the lists of waiters are made one apart
from the other, so what could go wrong between them is told: a counter that is spent before all was counted off, and a
node that becomes ready for a second time.

* `weight_countOff_le`: counting off makes no more to do, which bounds the number of steps.
-/

namespace PluginHost.Graph

/-- What can go wrong while nodes are counted off. -/
inductive CountFault where
  /-- A placed node is to be counted off at a node that waits for none. -/
  | spent (id : PluginId)
  /-- A node becomes ready that was ready before. -/
  | again (id : PluginId)
deriving DecidableEq, Repr

/-- The nodes that a node waits for, each once. -/
def Relation.targets (r : Relation) (id : PluginId) : List PluginId :=
  ((r.filter fun p => p.1 = id).map Prod.snd).foldl (fun targets t => insertAscending t targets) []

/-- Writes a node down as a waiter of each of some nodes. -/
def enlist (waiters : IdMap (List PluginId)) (id : PluginId) (targets : List PluginId) : IdMap (List PluginId) :=
  targets.foldl (fun waiters t => waiters.insert t ((waiters.find? t).getD [] ++ [id])) waiters

/-- The waiters of each node, written down node by node. -/
def waitersOf (nodes : List PluginId) (r : Relation) : IdMap (List PluginId) :=
  nodes.foldl (fun waiters id => enlist waiters id (r.targets id)) .empty

/-- The counters, the nodes that are ready in ascending order, and those that were placed. -/
structure Counting where
  remaining : IdMap Nat
  ready : List PluginId
  order : List PluginId := []

namespace Counting

/-- Before any node is placed, the counter of each is the number of nodes it waits for. -/
def start (nodes : List PluginId) (r : Relation) : Counting :=
  let remaining : IdMap Nat := nodes.foldl (fun m id => m.insert id (r.targets id).length) .empty
  { remaining, ready := (remaining.entries.filter (·.2 = 0)).map Prod.fst }

/-- Counts a placed node off at one of its waiters, which becomes ready when it waits for no more. -/
def countOff (c : Counting) (id : PluginId) : Except CountFault Counting :=
  match c.remaining.find? id with
  | none => .ok c
  | some 0 => .error (.spent id)
  | some (n + 1) =>
    if n = 0 ∧ (id ∈ c.ready ∨ id ∈ c.order) then .error (.again id)
    else .ok { c with
      remaining := c.remaining.insert id n
      ready := if n = 0 then insertAscending id c.ready else c.ready }

/-- What is left to do: the nodes to place and the counts to count off. -/
def weight (c : Counting) : Nat := c.ready.length + c.remaining.values.foldr (· + ·) 0

/-- A counter that goes down takes the sum of all counters down. -/
theorem sum_insert {id : PluginId} {n m : Nat} : ∀ {l : List (PluginId × Nat)}, (l.map Prod.fst).Pairwise (· < ·) →
    l.lookup id = some n →
      ((Keyed.insert id m l).map Prod.snd).foldr (· + ·) 0 + n = (l.map Prod.snd).foldr (· + ·) 0 + m
  | [], _, h => by simp at h
  | (k, v) :: rest, hl, h => by
    obtain ⟨hk, hrest⟩ := List.pairwise_cons.mp hl
    rw [Keyed.lookup_cons] at h
    rw [Keyed.insert]
    split
    · -- The place of a smaller key is in front of the list, where `id` does not stand.
      rename_i hlt
      have hne : id ≠ k := fun e => String.lt_irrefl k (e ▸ hlt)
      rw [if_neg hne, IdMap.lookup_eq_none_of_lt fun k' hk' => String.lt_trans hlt (hk k' hk')] at h
      cases h
    · split at h
      · rename_i hlt he
        subst he
        obtain rfl := Option.some.inj h
        simp only [if_true, List.map_cons, List.foldr_cons]
        omega
      · rename_i hlt hne
        have ih := sum_insert (m := m) hrest h
        simp only [if_neg hne, List.map_cons, List.foldr_cons]
        omega

/-- Counting off makes no more to do. -/
theorem weight_countOff_le {c c' : Counting} {id : PluginId} (h : c.countOff id = .ok c') : c'.weight ≤ c.weight := by
  unfold countOff at h
  split at h
  · cases h
    exact Nat.le_refl _
  · cases h
  · rename_i n hn
    split at h
    · cases h
    · cases h
      have hsum := sum_insert (m := n) c.remaining.ascending hn
      have hlength := length_insertAscending_le id c.ready
      simp only [weight, IdMap.values, IdMap.insert]
      split <;> omega

theorem weight_foldlM_countOff_le : ∀ (ids : List PluginId) {c c' : Counting}, ids.foldlM countOff c = .ok c' →
    c'.weight ≤ c.weight
  | [], _, _, h => by
    cases h
    exact Nat.le_refl _
  | id :: ids, c, c', h => by
    rw [List.foldlM_cons] at h
    cases hc : c.countOff id with
    | error fault =>
      rw [hc] at h
      cases h
    | ok c₁ =>
      rw [hc] at h
      exact Nat.le_trans (weight_foldlM_countOff_le ids h) (weight_countOff_le hc)

/-- Places the least node that is ready and counts it off at its waiters, as long as there is one. -/
def run (waiters : IdMap (List PluginId)) (c : Counting) : Except CountFault (List PluginId) :=
  match _h : c.ready with
  | [] => .ok c.order
  | id :: ready =>
    match _hc : ((waiters.find? id).getD []).foldlM countOff { c with ready, order := c.order ++ [id] } with
    | .error fault => .error fault
    | .ok c => run waiters c
termination_by c.weight
decreasing_by
  have := weight_foldlM_countOff_le _ _hc
  simp only [weight, _h, List.length_cons] at this ⊢
  omega

end Counting

/-- The nodes in the order in which counting places them, for the edges that count. -/
def countedOrder (g : Graph) : Except CountFault (List PluginId) :=
  let r := g.effectiveRelation
  (Counting.start g.nodes r).run (waitersOf g.nodes r)

end PluginHost.Graph
