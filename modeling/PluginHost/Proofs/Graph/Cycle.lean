import PluginHost.Graph.Cycle
import PluginHost.Proofs.Graph.Path
import PluginHost.Proofs.Graph.WellFormed

/-!
# The walk for cycles

The walk answers with a cycle (`isCycle_of_visitAll`), or is done with all nodes (`walkedTo_of_visitAll`). What it is
done with is accessible along dependencies, so that no cycle can be reached from there.

* `isCycle_of_findCycle?`, `acc_of_findCycle?`: the two cases for a graph.
* `findCycle?_eq_none_iff`: a graph is without a cycle exactly when its required edges are acyclic.
-/

open Relation (TransGen)

namespace PluginHost.Graph

variable {deps : PluginId → List PluginId} {room path done : List PluginId} {c : List PluginId} {d : PluginId}

/-- One id depends on another. -/
def DependsOn (deps : PluginId → List PluginId) (x y : PluginId) : Prop := y ∈ deps x

/-! ## A cycle is found -/

/-- The way a walk came, last node first, and the nodes it has left to walk to. -/
structure OnPath (deps : PluginId → List PluginId) (room path : List PluginId) : Prop where
  chain : path.IsChain fun x y => DependsOn deps y x
  nodup : path.Nodup
  room_nodup : room.Nodup
  fresh : ∀ x ∈ room, x ∉ path

/-- Walking on to a node of the room. -/
theorem OnPath.step (h : OnPath deps room path) (hd : d ∈ room) (hhead : ∀ x ∈ path.head?, DependsOn deps x d) :
    OnPath deps (room.erase d) (d :: path) where
  chain := List.isChain_cons.mpr ⟨fun x hx => hhead x hx, h.chain⟩
  nodup := List.nodup_cons.mpr ⟨h.fresh d hd, h.nodup⟩
  room_nodup := h.room_nodup.erase d
  fresh x hx := by
    have hx' := (h.room_nodup.mem_erase_iff).mp hx
    exact List.not_mem_cons_of_ne_of_not_mem hx'.1 (h.fresh x hx'.2)

/-- Where a path without duplicates is cut at one of its nodes. -/
theorem dropWhile_reverse {l₁ l₂ : List PluginId} (hn : (l₁ ++ d :: l₂).Nodup) :
    (l₁ ++ d :: l₂).reverse.dropWhile (· ≠ d) = d :: l₁.reverse := by
  have hd : ∀ x ∈ l₂.reverse, decide (x ≠ d) = true := by
    intro x hx
    have hne : d ∉ l₂ := (List.nodup_cons.mp (List.nodup_append.mp hn).2.1).1
    refine decide_eq_true ?_
    rintro rfl
    exact hne (List.mem_reverse.mp hx)
  rw [List.reverse_append, List.reverse_cons, List.append_assoc, List.dropWhile_append_of_pos hd]
  simp

/-- A step from the end of a path back to one of its nodes closes a cycle. -/
theorem isCycle_closeCycle (h : OnPath deps room path) (hd : d ∈ path) (hhead : ∀ x ∈ path.head?, DependsOn deps x d) :
    IsCycle (DependsOn deps) (closeCycle path d) := by
  obtain ⟨l₁, l₂, rfl⟩ := List.append_of_mem hd
  have hpre : ((l₁ ++ [d]).reverse).IsChain (DependsOn deps) := by
    have hc : (l₁ ++ [d] ++ l₂).IsChain fun x y => DependsOn deps y x := by simpa using h.chain
    rw [List.isChain_reverse]
    exact (List.isChain_append.mp hc).1
  have hn : (d :: l₁.reverse).Nodup := by
    have hs : (l₁ ++ [d]).Nodup := h.nodup.sublist (by simp)
    have hr := List.nodup_reverse.mpr hs
    simpa using hr
  rw [closeCycle, dropWhile_reverse h.nodup]
  refine ⟨d, l₁.reverse, rfl, hn, ?_⟩
  have hlast : ∀ x ∈ (d :: l₁.reverse).getLast?, DependsOn deps x d := by
    intro x hx
    apply hhead
    have : (l₁ ++ [d]).reverse.getLast? = some x := by simpa using hx
    rw [List.getLast?_reverse] at this
    cases l₁ <;> simpa using this
  refine List.isChain_append.mpr ⟨by simpa using hpre, by simp, ?_⟩
  intro x hx y hy
  obtain rfl : d = y := by simpa using hy
  exact hlast x hx

/-- An error of the walk is a cycle. -/
theorem isCycle_of_visitAll : ∀ (room ds : List PluginId) {path done : List PluginId}, OnPath deps room path →
    (∀ x ∈ path.head?, ∀ d ∈ ds, DependsOn deps x d) → visitAll deps room path done ds = .error c →
    IsCycle (DependsOn deps) c
  | room, [], path, done, _, _, he => by
    rw [visitAll] at he
    cases he
  | room, d :: ds, path, done, h, hhead, he => by
    have hd : ∀ x ∈ path.head?, DependsOn deps x d := fun x hx => hhead x hx d List.mem_cons_self
    have hds : ∀ x ∈ path.head?, ∀ d ∈ ds, DependsOn deps x d :=
      fun x hx d' hd' => hhead x hx d' (List.mem_cons_of_mem _ hd')
    rw [visitAll] at he
    split at he
    · rename_i hp
      cases he
      exact isCycle_closeCycle h hp hd
    · split at he
      · exact isCycle_of_visitAll room ds h hds he
      · split at he
        · rename_i hr
          rw [visit] at he
          cases hv : visitAll deps (room.erase d) (d :: path) done (deps d) with
          | error c' =>
            -- The cycle was found on the walk on from `d`.
            rw [hv] at he
            cases he
            have hlt := List.length_erase_of_mem hr
            have hpos := List.length_pos_of_mem hr
            refine isCycle_of_visitAll (room.erase d) (deps d) (h.step hr hd) ?_ hv
            intro x hx y hy
            obtain rfl : d = x := by simpa using hx
            exact hy
          | ok done₀ =>
            rw [hv] at he
            exact isCycle_of_visitAll room ds h hds he
        · exact isCycle_of_visitAll room ds h hds he
termination_by room ds => (room.length, ds.length)
decreasing_by
  · exact Prod.Lex.right _ (by simp)
  · exact Prod.Lex.left _ _ (by omega)
  · exact Prod.Lex.right _ (by simp)
  · exact Prod.Lex.right _ (by simp)

/-! ## No cycle is found -/

/-- What a walk does when it finds no cycle: it keeps what it was done with, is done with the nodes it was to walk to,
and all it is done with is accessible along dependencies. -/
structure WalkedTo (deps : PluginId → List PluginId) (done ds done' : List PluginId) : Prop where
  keeps : ∀ x ∈ done, x ∈ done'
  reaches : ∀ d ∈ ds, d ∈ done'
  acc : ∀ x ∈ done', Acc (fun y x => DependsOn deps x y) x

/-- One node and then the others. -/
theorem WalkedTo.cons {ds done₁ done₂ : List PluginId} (hd : d ∈ done₁) (hkeeps : ∀ x ∈ done, x ∈ done₁)
    (h : WalkedTo deps done₁ ds done₂) : WalkedTo deps done (d :: ds) done₂ where
  keeps x hx := h.keeps x (hkeeps x hx)
  reaches x hx := by
    rcases List.mem_cons.mp hx with rfl | hx
    · exact h.keeps x hd
    · exact h.reaches x hx
  acc := h.acc

/-- A walk in which every node is in the room or on the path is, without an error, done with the nodes it was to
walk to. -/
theorem walkedTo_of_visitAll {nodes : List PluginId} (hdeps : ∀ x ∈ nodes, ∀ y ∈ deps x, y ∈ nodes) :
    ∀ (room ds : List PluginId) {path done done' : List PluginId}, (∀ x ∈ nodes, x ∈ room ∨ x ∈ path) →
      (∀ d ∈ ds, d ∈ nodes) → (∀ x ∈ done, Acc (fun y x => DependsOn deps x y) x) →
      visitAll deps room path done ds = .ok done' → WalkedTo deps done ds done'
  | room, [], path, done, done', _, _, hdone, he => by
    rw [visitAll] at he
    cases he
    exact ⟨fun _ hx => hx, by simp, hdone⟩
  | room, d :: ds, path, done, done', hcover, hds, hdone, he => by
    have hd : d ∈ nodes := hds d List.mem_cons_self
    have hds' : ∀ d ∈ ds, d ∈ nodes := fun x hx => hds x (List.mem_cons_of_mem _ hx)
    rw [visitAll] at he
    split at he
    · cases he
    · rename_i hp
      split at he
      · rename_i hdn
        exact (walkedTo_of_visitAll hdeps room ds hcover hds' hdone he).cons hdn fun _ hx => hx
      · have hr : d ∈ room := (hcover d hd).resolve_right hp
        rw [dif_pos hr, visit] at he
        cases hv : visitAll deps (room.erase d) (d :: path) done (deps d) with
        | error c' =>
          rw [hv] at he
          cases he
        | ok done₀ =>
          rw [hv] at he
          have hlt := List.length_erase_of_mem hr
          have hpos := List.length_pos_of_mem hr
          have hcover' : ∀ x ∈ nodes, x ∈ room.erase d ∨ x ∈ d :: path := by
            intro x hx
            by_cases hxd : x = d
            · exact Or.inr (by simp [hxd])
            · rcases hcover x hx with h | h
              · exact Or.inl ((List.mem_erase_of_ne hxd).mpr h)
              · exact Or.inr (List.mem_cons_of_mem _ h)
          have h0 := walkedTo_of_visitAll hdeps (room.erase d) (deps d) hcover' (hdeps d hd) hdone hv
          have hacc : ∀ x ∈ d :: done₀, Acc (fun y x => DependsOn deps x y) x := by
            intro x hx
            rcases List.mem_cons.mp hx with rfl | hx
            · exact Acc.intro x fun y hy => h0.acc y (h0.reaches y hy)
            · exact h0.acc x hx
          have h1 := walkedTo_of_visitAll hdeps room ds hcover hds' hacc he
          exact h1.cons List.mem_cons_self fun x hx => List.mem_cons_of_mem _ (h0.keeps x hx)
termination_by room ds => (room.length, ds.length)
decreasing_by
  · exact Prod.Lex.left _ _ (by omega)
  · exact Prod.Lex.right _ (by simp)
  · exact Prod.Lex.right _ (by simp)

/-! ## Cycles of a graph -/

variable {g : Graph}

/-- One node requires another directly. -/
def Requires (g : Graph) (x y : PluginId) : Prop := (⟨x, y, true⟩ : Edge) ∈ g.edges

theorem requires_eq_true_iff {x y : PluginId} : g.requires x y = true ↔ g.Requires x y := by
  simp [requires, Requires]

theorem mem_dependenciesOf {x y : PluginId} : y ∈ g.dependenciesOf x true ↔ g.Requires x y := by
  simp only [dependenciesOf, List.mem_map, List.mem_filter, Requires]
  constructor
  · rintro ⟨⟨s, t, r⟩, ⟨he, hx⟩, rfl⟩
    obtain ⟨rfl, rfl⟩ : s = x ∧ r = true := by simpa using hx
    exact he
  · intro h
    exact ⟨⟨x, y, true⟩, ⟨h, by simp⟩, rfl⟩

theorem WellFormed.requires_mem (h : g.WellFormed) {x y : PluginId} (hxy : g.Requires x y) :
    x ∈ g.nodes ∧ y ∈ g.nodes :=
  ⟨h.source_mem _ hxy, h.target_mem _ hxy⟩

/-- What is found is a cycle of required edges. -/
theorem isCycle_of_findCycle? (h : g.WellFormed) (hc : g.findCycle? = some c) : IsCycle g.Requires c := by
  unfold findCycle? at hc
  split at hc
  · rename_i c' he
    cases hc
    have hpath : OnPath (g.dependenciesOf · true) g.nodes [] :=
      ⟨List.isChain_nil, List.nodup_nil, h.nodes.nodup, by simp⟩
    obtain ⟨a, mid, rfl, hn, hchain⟩ := isCycle_of_visitAll g.nodes g.nodes hpath (by simp) he
    exact ⟨a, mid, rfl, hn, hchain.imp fun _ _ hxy => mem_dependenciesOf.mp hxy⟩
  · cases hc

/-- When nothing is found, every node is accessible along required edges. -/
theorem acc_of_findCycle? (h : g.WellFormed) (hc : g.findCycle? = none) {x : PluginId} (hx : x ∈ g.nodes) :
    Acc (fun y x => g.Requires x y) x := by
  unfold findCycle? at hc
  split at hc
  · cases hc
  · rename_i done he
    have hdeps : ∀ x ∈ g.nodes, ∀ y ∈ g.dependenciesOf x true, y ∈ g.nodes :=
      fun x _ y hy => (h.requires_mem (mem_dependenciesOf.mp hy)).2
    have hw := walkedTo_of_visitAll hdeps g.nodes g.nodes (fun x hx => Or.inl hx) (fun _ hd => hd) (by simp) he
    refine Subrelation.accessible ?_ (hw.acc x (hw.reaches x hx))
    intro y x hyx
    exact mem_dependenciesOf.mpr hyx

/-- A graph is without a cycle exactly when its required edges are acyclic. -/
theorem findCycle?_eq_none_iff (h : g.WellFormed) : g.findCycle? = none ↔ Acyclic g.Requires := by
  constructor
  · intro hc x hx
    obtain ⟨y, hxy, _⟩ := TransGen.head'_iff.mp hx
    exact not_transGen_of_acc (acc_of_findCycle? h hc (h.requires_mem hxy).1) hx
  · intro hacyclic
    cases hc : g.findCycle? with
    | none => rfl
    | some c =>
      obtain ⟨a, mid, rfl, _, hchain⟩ := isCycle_of_findCycle? h hc
      exact absurd (transGen_self_of_closed hchain List.mem_cons_self) (hacyclic a)

end PluginHost.Graph
