import Mathlib.Data.List.Infix
import PluginHost.Proofs.Graph.Alike
import PluginHost.Proofs.Graph.Cycle

/-!
# The cycle that is found

Of all cycles of a graph the walk finds one that can be told without it (`findCycle?_build`): go from the least node
that leads to a cycle always on to the least node that does, until a node is met for the second time.

* `ends_of_visitAll`: the walk leaves nodes that lead to no cycle behind, and never turns back from one that does.
* `Closes.unique`: steps that leave no choice end with one cycle from each start.
-/

open Relation (TransGen ReflTransGen)

namespace PluginHost

variable {R S : PluginId → PluginId → Prop} {x y z s a : PluginId} {walk walk' cycle cycle' : List PluginId}

/-- A path of any number of steps leads to a cycle. -/
def Cyclic (R : PluginId → PluginId → Prop) (x : PluginId) : Prop := ∃ y, ReflTransGen R x y ∧ TransGen R y y

/-- A step to the least id that leads to a cycle. -/
def LeastStep (R : PluginId → PluginId → Prop) (x y : PluginId) : Prop :=
  (R x y ∧ Cyclic R y) ∧ ∀ z, R x z → Cyclic R z → y ≤ z

/-- A walk that meets no id twice until it comes back to one of its own, where it ends; the cycle is the walk from the
first visit of that id on. -/
def Ends (R : PluginId → PluginId → Prop) (walk cycle : List PluginId) : Prop :=
  ∃ front a mid, walk = front ++ cycle ∧ cycle = a :: mid ++ [a] ∧ (front ++ a :: mid).Nodup ∧ walk.IsChain R

/-- A walk from some id ends with a cycle. -/
def Closes (R : PluginId → PluginId → Prop) (s : PluginId) (cycle : List PluginId) : Prop :=
  ∃ rest, Ends R (s :: rest) cycle

/-! ## Ids that lead to a cycle -/

theorem Cyclic.exists_step (h : Cyclic R x) : ∃ y, R x y ∧ Cyclic R y := by
  obtain ⟨y, hxy, hcycle⟩ := h
  rcases hxy.cases_head with rfl | ⟨z, hxz, hzy⟩
  · obtain ⟨z, hxz, hzx⟩ := TransGen.head'_iff.mp hcycle
    exact ⟨z, hxz, x, hzx, hcycle⟩
  · exact ⟨z, hxz, y, hzy, hcycle⟩

theorem Cyclic.of_reaches (hy : Cyclic R y) (hxy : ReflTransGen R x y) : Cyclic R x := by
  obtain ⟨z, hyz, hcycle⟩ := hy
  exact ⟨z, hxy.trans hyz, hcycle⟩

theorem not_cyclic_of_acc (h : Acc (fun y x => R x y) x) : ¬Cyclic R x := by
  induction h with
  | intro x _ ih =>
    intro hx
    obtain ⟨y, hxy, hy⟩ := hx.exists_step
    exact ih y hxy hy

/-- No step is the least one to more than one id. -/
theorem LeastStep.unique (h : LeastStep R x y) (h' : LeastStep R x z) : y = z :=
  String.le_antisymm (h.2 z h'.1.1 h'.1.2) (h'.2 y h.1.1 h.1.2)

/-! ## Walks that end with a cycle -/

theorem Ends.chain (h : Ends R walk cycle) : walk.IsChain R := by
  obtain ⟨_, _, _, _, _, _, hchain⟩ := h
  exact hchain

/-- Everything on the walk leads to its cycle. -/
theorem Ends.cyclic (h : Ends R walk cycle) (hx : x ∈ walk) : Cyclic R x := by
  obtain ⟨front, a, mid, rfl, rfl, _, hchain⟩ := h
  have hcycle : (a :: mid ++ [a]).IsChain R := (List.isChain_append.mp hchain).2.1
  have hpairs : (front ++ (a :: mid ++ [a])).Pairwise (TransGen R) := (hchain.imp fun _ _ => TransGen.single).pairwise
  rcases List.mem_append.mp hx with hx | hx
  · have hxa : TransGen R x a := (List.pairwise_append.mp hpairs).2.2 x hx a (by simp)
    exact ⟨a, hxa.to_reflTransGen, transGen_self_of_closed hcycle List.mem_cons_self⟩
  · exact ⟨x, .refl, transGen_self_of_closed hcycle (mem_closed_iff.mp hx)⟩

theorem Ends.mem_walk (h : Ends R walk cycle) (hx : x ∈ cycle) : x ∈ walk := by
  obtain ⟨front, a, mid, rfl, _⟩ := h
  exact List.mem_append_right front hx

theorem Ends.imp (h : Ends R walk cycle) (hS : ∀ x y, x ∈ walk → y ∈ walk → R x y → S x y) : Ends S walk cycle := by
  obtain ⟨front, a, mid, hwalk, hcycle, hn, hchain⟩ := h
  exact ⟨front, a, mid, hwalk, hcycle, hn, hchain.imp_of_mem_imp hS⟩

theorem Closes.cyclic (h : Closes (LeastStep R) s cycle) (hx : x ∈ cycle) : Cyclic R x := by
  obtain ⟨rest, h⟩ := h
  exact (h.imp fun _ _ _ _ hxy => hxy.1.1).cyclic (h.mem_walk hx)

/-- The walk says which cycle it ends with. -/
theorem Ends.unique (h : Ends R walk cycle) (h' : Ends R walk cycle') : cycle = cycle' := by
  obtain ⟨front, a, mid, rfl, rfl, _, _⟩ := h
  obtain ⟨front', a', mid', he, rfl, hn', _⟩ := h'
  have hconcat : front ++ a :: mid ++ [a] = front' ++ a' :: mid' ++ [a'] := by simpa using he
  obtain ⟨hinit, ha⟩ := List.append_inj' hconcat rfl
  obtain rfl : a = a' := by simpa using ha
  have ha' : a ∉ front' ++ mid' := (List.nodup_cons.mp (List.nodup_middle.mp hn')).1
  rw [List.mem_append, not_or] at ha'
  obtain ⟨_, _, rfl⟩ := (List.append_cons_inj_of_notMem ha'.1 ha'.2).mp hinit.symm
  rfl

/-- A walk that ended does not go on. -/
theorem Ends.eq_of_prefix (h : Ends R walk cycle) (h' : Ends R walk' cycle') (hp : walk <+: walk') : walk = walk' := by
  obtain ⟨front, a, mid, rfl, rfl, _, _⟩ := h
  obtain ⟨front', a', mid', rfl, rfl, hn', _⟩ := h'
  have hconcat : front' ++ (a' :: mid' ++ [a']) = front' ++ a' :: mid' ++ [a'] := by simp
  rw [hconcat] at hp ⊢
  -- Otherwise the first walk is part of the second one without its end, which repeats nothing.
  refine (List.prefix_concat_iff.mp hp).resolve_right fun hp => ?_
  have hcycle : (a :: mid ++ [a]).Nodup := (List.nodup_append.mp (hn'.sublist hp.sublist)).2.1
  simp at hcycle

/-- Of two walks from one start, with steps that leave no choice, one goes on where the other one ends. -/
theorem prefix_or_prefix (hR : ∀ x y z, R x y → R x z → y = z) : ∀ {s : PluginId} {l l' : List PluginId},
    (s :: l).IsChain R → (s :: l').IsChain R → s :: l <+: s :: l' ∨ s :: l' <+: s :: l
  | _, [], _, _, _ => Or.inl (by simp)
  | _, _ :: _, [], _, _ => Or.inr (by simp)
  | s, x :: l, y :: l', h, h' => by
    obtain ⟨hx, hl⟩ := List.isChain_cons_cons.mp h
    obtain ⟨hy, hl'⟩ := List.isChain_cons_cons.mp h'
    obtain rfl := hR s x y hx hy
    simpa only [List.prefix_cons_inj] using prefix_or_prefix hR hl hl'

/-- Steps that leave no choice end with one cycle from each start. -/
theorem Closes.unique (hR : ∀ x y z, R x y → R x z → y = z) (h : Closes R s cycle) (h' : Closes R s cycle') :
    cycle = cycle' := by
  obtain ⟨rest, h⟩ := h
  obtain ⟨rest', h'⟩ := h'
  have hwalk : s :: rest = s :: rest' := by
    rcases prefix_or_prefix hR h.chain h'.chain with hp | hp
    · exact h.eq_of_prefix h' hp
    · exact (h'.eq_of_prefix h hp).symm
  rw [hwalk] at h
  exact h.unique h'

namespace Graph

variable {deps : PluginId → List PluginId} {nodes room path done ds ds' ds'' : List PluginId} {d : PluginId}
  {c : List PluginId}

/-! ## The walk -/

/-- The second list is what is left of the first one when ids at its front are passed over that lead to no cycle. -/
def Past (deps : PluginId → List PluginId) (ds ds' : List PluginId) : Prop :=
  ∃ before, ds = before ++ ds' ∧ ∀ z ∈ before, ¬Cyclic (DependsOn deps) z

theorem Past.refl : Past deps ds ds := ⟨[], rfl, by simp⟩

theorem Past.trans (h : Past deps ds ds') (h' : Past deps ds' ds'') : Past deps ds ds'' := by
  obtain ⟨before, rfl, hbefore⟩ := h
  obtain ⟨before', rfl, hbefore'⟩ := h'
  refine ⟨before ++ before', by simp, fun z hz => ?_⟩
  exact (List.mem_append.mp hz).elim (hbefore z) (hbefore' z)

theorem Past.of_not_cyclic (hd : ¬Cyclic (DependsOn deps) d) : Past deps (d :: ds) ds :=
  ⟨[d], rfl, by simpa using hd⟩

/-- A step to a dependency, when those before it lead to no cycle. -/
def FirstStep (deps : PluginId → List PluginId) (x y : PluginId) : Prop := ∃ ds, Past deps (deps x) (y :: ds)

/-- The way a walk came: it took first steps, and what it did not meet is in the room. -/
structure OnFirstPath (deps : PluginId → List PluginId) (nodes room path : List PluginId) : Prop
    extends OnPath deps room path where
  first : path.IsChain fun x y => FirstStep deps y x
  cover : ∀ x ∈ nodes, x ∈ room ∨ x ∈ path

theorem FirstStep.dependsOn (h : FirstStep deps x y) : DependsOn deps x y := by
  obtain ⟨ds, before, he, _⟩ := h
  simp [DependsOn, he]

theorem OnFirstPath.step (h : OnFirstPath deps nodes room path) (hd : d ∈ room)
    (hhead : ∀ x ∈ path.head?, FirstStep deps x d) : OnFirstPath deps nodes (room.erase d) (d :: path) where
  toOnPath := h.toOnPath.step hd fun x hx => (hhead x hx).dependsOn
  first := List.isChain_cons.mpr ⟨fun x hx => hhead x hx, h.first⟩
  cover x hx := by
    by_cases hxd : x = d
    · exact Or.inr (by simp [hxd])
    · exact (h.cover x hx).imp (List.mem_erase_of_ne hxd).mpr (List.mem_cons_of_mem _)

/-- A first step from the end of a path back to one of its nodes ends the walk. -/
theorem OnFirstPath.ends (h : OnFirstPath deps nodes room path) (hd : d ∈ path)
    (hhead : ∀ x ∈ path.head?, FirstStep deps x d) :
    Ends (FirstStep deps) (path.reverse ++ [d]) (closeCycle path d) := by
  obtain ⟨l₁, l₂, rfl⟩ := List.append_of_mem hd
  refine ⟨l₂.reverse, d, l₁.reverse, ?_, ?_, ?_, ?_⟩
  · rw [closeCycle, dropWhile_reverse h.nodup]
    simp
  · rw [closeCycle, dropWhile_reverse h.nodup]
  · simpa using List.nodup_reverse.mpr h.nodup
  · refine List.isChain_append.mpr ⟨List.isChain_reverse.mpr h.first, by simp, fun x hx y hy => ?_⟩
    obtain rfl : d = y := by simpa using hy
    exact hhead x (by rwa [List.getLast?_reverse] at hx)

/-- A walk that ends with a cycle goes on from its path to the first node that leads to a cycle, and so on. -/
theorem ends_of_visitAll (hdeps : ∀ x ∈ nodes, ∀ y ∈ deps x, y ∈ nodes) : ∀ (room ds : List PluginId)
    {path done : List PluginId}, OnFirstPath deps nodes room path → (∀ d ∈ ds, d ∈ nodes) →
      (∀ x ∈ done, Acc (fun y x => DependsOn deps x y) x) → (∀ x ∈ path.head?, Past deps (deps x) ds) →
      visitAll deps room path done ds = .error c →
      ∃ d after rest, Past deps ds (d :: after) ∧ Ends (FirstStep deps) (path.reverse ++ d :: rest) c
  | room, [], path, done, _, _, _, _, he => by
    rw [visitAll] at he
    cases he
  | room, d :: ds, path, done, h, hds, hdone, hhead, he => by
    have hd : d ∈ nodes := hds d List.mem_cons_self
    have hds' : ∀ d ∈ ds, d ∈ nodes := fun x hx => hds x (List.mem_cons_of_mem _ hx)
    have hfirst : ∀ x ∈ path.head?, FirstStep deps x d := fun x hx => ⟨ds, hhead x hx⟩
    -- When `d` leads to no cycle, the walk is the one to the other nodes.
    have hpass : ∀ {done}, Acc (fun y x => DependsOn deps x y) d →
        (∀ x ∈ done, Acc (fun y x => DependsOn deps x y) x) → visitAll deps room path done ds = .error c →
        ∃ d' after rest, Past deps (d :: ds) (d' :: after) ∧ Ends (FirstStep deps) (path.reverse ++ d' :: rest) c := by
      intro done hacc hdone he
      have hpast : Past deps (d :: ds) ds := .of_not_cyclic (not_cyclic_of_acc hacc)
      obtain ⟨d', after, rest, hd', hends⟩ :=
        ends_of_visitAll hdeps room ds h hds' hdone (fun x hx => (hhead x hx).trans hpast) he
      exact ⟨d', after, rest, hpast.trans hd', hends⟩
    rw [visitAll] at he
    split at he
    · rename_i hp
      cases he
      exact ⟨d, ds, [], .refl, h.ends hp hfirst⟩
    · rename_i hp
      split at he
      · rename_i hdn
        exact hpass (hdone d hdn) hdone he
      · have hr : d ∈ room := (h.cover d hd).resolve_right hp
        have hlt := List.length_erase_of_mem hr
        have hpos := List.length_pos_of_mem hr
        rw [dif_pos hr, visit] at he
        cases hv : visitAll deps (room.erase d) (d :: path) done (deps d) with
        | error c' =>
          -- The cycle was found on the walk on from `d`.
          rw [hv] at he
          cases he
          have hself : ∀ x ∈ (d :: path).head?, Past deps (deps x) (deps d) := by
            intro x hx
            obtain rfl : d = x := by simpa using hx
            exact .refl
          obtain ⟨d', after, rest, _, hends⟩ :=
            ends_of_visitAll hdeps (room.erase d) (deps d) (h.step hr hfirst) (hdeps d hd) hdone hself hv
          exact ⟨d, ds, d' :: rest, .refl, by simpa using hends⟩
        | ok done₀ =>
          rw [hv] at he
          have hwalked :=
            walkedTo_of_visitAll hdeps (room.erase d) (deps d) (h.step hr hfirst).cover (hdeps d hd) hdone hv
          have hacc : Acc (fun y x => DependsOn deps x y) d :=
            Acc.intro d fun y hy => hwalked.acc y (hwalked.reaches y hy)
          exact hpass hacc (by simpa [hacc] using hwalked.acc) he
termination_by room ds => (room.length, ds.length)
decreasing_by
  · exact Prod.Lex.right _ (by simp)
  · exact Prod.Lex.left _ _ (by omega)

/-! ## The cycle of a graph -/

/-- In ascending order, the first id that leads to a cycle is the least one. -/
theorem Past.le (hds : Ascending ds) (h : Past deps ds (d :: ds')) (hx : x ∈ ds) (hcyclic : Cyclic (DependsOn deps) x) :
    d ≤ x := by
  obtain ⟨before, rfl, hbefore⟩ := h
  rcases List.mem_append.mp hx with hx | hx
  · exact absurd hcyclic (hbefore x hx)
  · rcases List.mem_cons.mp hx with rfl | hx
    · exact Std.le_refl x
    · exact Std.le_of_lt ((List.pairwise_cons.mp (List.pairwise_append.mp hds).2.1).1 x hx)

variable {g : Graph}

theorem dependsOn_dependenciesOf : DependsOn (g.dependenciesOf · true) = g.Requires := by
  funext x y
  exact propext mem_dependenciesOf

/-- The least node that leads to a cycle. -/
def LeastCyclic (g : Graph) (s : PluginId) : Prop := Cyclic g.Requires s ∧ ∀ x, Cyclic g.Requires x → s ≤ x

/-- The cycle that is found ends the walk of least steps from the least node that leads to a cycle. -/
theorem WellFormed.closes_of_findCycle? (h : g.WellFormed) (hc : g.findCycle? = some c) :
    ∃ s, g.LeastCyclic s ∧ Closes (LeastStep g.Requires) s c := by
  have hclosed : ∀ x ∈ g.nodes, ∀ y ∈ g.dependenciesOf x true, y ∈ g.nodes :=
    fun x _ y hy => (h.requires_mem (mem_dependenciesOf.mp hy)).2
  have hpath : OnFirstPath (g.dependenciesOf · true) g.nodes g.nodes [] :=
    ⟨⟨List.isChain_nil, List.nodup_nil, h.nodes.nodup, by simp⟩, List.isChain_nil, fun _ hx => Or.inl hx⟩
  unfold findCycle? at hc
  split at hc
  · rename_i c' he
    cases hc
    obtain ⟨s, after, rest, hs, hends⟩ :=
      ends_of_visitAll hclosed g.nodes g.nodes hpath (fun _ hd => hd) (by simp) (by simp) he
    have hcyclic : ∀ x ∈ s :: rest, Cyclic g.Requires x := fun x hx =>
      dependsOn_dependenciesOf ▸ (hends.imp fun _ _ _ _ => FirstStep.dependsOn).cyclic hx
    refine ⟨s, ⟨hcyclic s List.mem_cons_self, fun x hx => ?_⟩, rest, hends.imp fun x y _ hy hxy => ?_⟩
    · obtain ⟨y, hxy, _⟩ := hx.exists_step
      exact hs.le h.nodes (h.requires_mem hxy).1 (dependsOn_dependenciesOf.symm ▸ hx)
    · refine ⟨⟨mem_dependenciesOf.mp hxy.dependsOn, hcyclic y hy⟩, fun z hz hzc => ?_⟩
      obtain ⟨after, hpast⟩ := hxy
      exact hpast.le (h.ascending_dependenciesOf x) (mem_dependenciesOf.mpr hz) (dependsOn_dependenciesOf.symm ▸ hzc)
  · cases hc

/-- No cycle is found exactly when the required edges have none. Otherwise the cycle that is found is the one that ends
the walk from the least node that leads to a cycle, always on to the least one that does, until a node is met for the
second time: it starts and ends there, meets no other node twice, and goes along required edges. -/
theorem findCycle?_build (changes : List Change) :
    let g := build changes
    (g.findCycle? = none ↔ Acyclic g.Requires) ∧
    (∀ c, g.findCycle? = some c ↔ ∃ s, g.LeastCyclic s ∧ Closes (LeastStep g.Requires) s c) ∧
    ∀ c, g.findCycle? = some c → IsCycle g.Requires c := by
  intro g
  have h : g.WellFormed := wellFormed_build changes
  clear_value g
  refine ⟨findCycle?_eq_none_iff h, fun c => ⟨h.closes_of_findCycle?, ?_⟩, fun c => isCycle_of_findCycle? h⟩
  rintro ⟨s, hs, hclose⟩
  cases hc : g.findCycle? with
  | none =>
    obtain ⟨y, _, hcycle⟩ := hs.1
    exact absurd hcycle ((findCycle?_eq_none_iff h).mp hc y)
  | some c' =>
    obtain ⟨s', hs', hclose'⟩ := h.closes_of_findCycle? hc
    obtain rfl : s = s' := String.le_antisymm (hs.2 s' hs'.1) (hs'.2 s hs.1)
    obtain rfl : c = c' := hclose.unique (fun _ _ _ hxy hxz => hxy.unique hxz) hclose'
    rfl

-- The walk starts at the least node, which is on no cycle, and passes by the loop at `b`.
example :
    let edge := fun s t : PluginId => Change.addEdge s t true
    (build ([Change.addNode "a", .addNode "b", .addNode "c", .addNode "d"] ++
      [edge "a" "c", edge "b" "b", edge "c" "d", edge "d" "c"])).findCycle? = some ["c", "d", "c"] := by
  cbv

end Graph
end PluginHost
