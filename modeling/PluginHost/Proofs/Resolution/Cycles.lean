import Mathlib
import PluginHost.Proofs.Graph.Walk
import PluginHost.Proofs.Resolution.Explanation

/-!
# Plugins on cycles

When all that is required is accepted, the plugins that lead to a cycle are excluded. What is told of each depends on
the order in which cycles are found (`ofContainers_cycles`): the first found cycle that a plugin leads to decides, and
a plugin that is on another cycle, but not on this one, is told to have a failed dependency.

* `Found` says which cycles are found without rounds of exclusion. Of a plugin that is left, all that it depends on is
  left, so that a walk of least steps is the same in every round (`Peeling.leastStep`).
-/

open Relation (TransGen ReflTransGen)

namespace PluginHost.Resolution

variable {R : PluginId → PluginId → Prop} {known : IdMap Container} {base graph : Graph}
  {excluded : IdMap PluginError} {P : PluginId → Prop} {cycles : List (List PluginId)} {c mid : List PluginId}
  {a x y : PluginId} {e : PluginError}

/-- A path of any number of steps leads to an id of a cycle. -/
def Leads (R : PluginId → PluginId → Prop) (x : PluginId) (cycle : List PluginId) : Prop :=
  ∃ y ∈ cycle, ReflTransGen R x y

/-- An id that leads to a cycle, but to none of some cycles. -/
def CyclicApart (R : PluginId → PluginId → Prop) (cycles : List (List PluginId)) (x : PluginId) : Prop :=
  Cyclic R x ∧ ∀ c ∈ cycles, ¬Leads R x c

/-- Cycles that are found one after the other. Each one ends the walk of least steps from the least id that leads to a
cycle, but to none that was found before. -/
inductive Found (R : PluginId → PluginId → Prop) : List (List PluginId) → Prop
  | nil : Found R []
  | concat {cycles : List (List PluginId)} {s : PluginId} {c : List PluginId} (found : Found R cycles)
      (start : CyclicApart R cycles s) (least : ∀ x, CyclicApart R cycles x → s ≤ x)
      (closes : Closes (LeastStep R) s c) : Found R (cycles ++ [c])

/-- The first one of some cycles that an id leads to. -/
def FirstLed (R : PluginId → PluginId → Prop) (cycles : List (List PluginId)) (x : PluginId) (c : List PluginId) :
    Prop :=
  ∃ before after, cycles = before ++ c :: after ∧ (∀ c' ∈ before, ¬Leads R x c') ∧ Leads R x c

/-- What is told of a plugin on account of a cycle it leads to: its members are told the cycle, each from itself on,
and others that something they require failed. -/
inductive Told (R : PluginId → PluginId → Prop) (x : PluginId) (c : List PluginId) : PluginError → Prop
  | member {path : List PluginId} (on : x ∈ c) (cycle : IsCycle R path) (start : path.head? = some x)
      (same : ∀ y, y ∈ path ↔ y ∈ c) : Told R x c (.cycleDetected path)
  | behind {y : PluginId} (off : x ∉ c) (requires : R x y) : Told R x c (.dependencyFailed x y)

theorem FirstLed.append (h : FirstLed R cycles x c) (more : List (List PluginId)) :
    FirstLed R (cycles ++ more) x c := by
  obtain ⟨before, after, rfl, hrest⟩ := h
  exact ⟨before, after ++ more, by simp, hrest⟩

/-- Who is told a cycle is on one. -/
theorem Told.on_cycle {path : List PluginId} (h : Told R x c (.cycleDetected path)) : TransGen R x x := by
  cases h with
  | member _ cycle start _ =>
    obtain ⟨a, mid, rfl, _, hchain⟩ := cycle
    obtain rfl : a = x := by simpa using start
    exact transGen_self_of_closed hchain List.mem_cons_self

/-! ## What a round keeps of the walks -/

namespace Peeling

/-- Who is left does not require an excluded plugin. -/
theorem left_of_requires (h : Peeling P base graph excluded) (hx : x ∉ excluded.keys) (hxy : base.Requires x y) :
    y ∉ excluded.keys :=
  fun hy => hx (h.closed x y hxy hy)

/-- A path from a plugin that is left stays among those that are left. -/
theorem reaches (h : Peeling P base graph excluded) (hx : x ∉ excluded.keys) (hxy : ReflTransGen base.Requires x y) :
    ReflTransGen graph.Requires x y ∧ y ∉ excluded.keys := by
  induction hxy with
  | refl => exact ⟨.refl, hx⟩
  | tail _ hyz ih => exact ⟨ih.1.tail (h.requires_iff.mpr ⟨hyz, ih.2⟩), h.left_of_requires ih.2 hyz⟩

/-- Who leads to a cycle does so among those that are left, unless it is excluded. -/
theorem cyclic_iff (h : Peeling P base graph excluded) :
    Cyclic graph.Requires x ↔ Cyclic base.Requires x ∧ x ∉ excluded.keys := by
  have hmono : ∀ y z, graph.Requires y z → base.Requires y z := fun y z hyz => (h.requires_iff.mp hyz).1
  constructor
  · intro hx
    obtain ⟨z, hxz, _⟩ := hx.exists_step
    obtain ⟨y, hxy, hcycle⟩ := hx
    exact ⟨⟨y, ReflTransGen.mono hmono _ _ hxy, TransGen.mono hmono _ _ hcycle⟩, (h.requires_iff.mp hxz).2⟩
  · rintro ⟨⟨y, hxy, hcycle⟩, hx⟩
    obtain ⟨hxy', hy⟩ := h.reaches hx hxy
    obtain ⟨z, hyz, hzy⟩ := TransGen.head'_iff.mp hcycle
    have hback := h.reaches (h.left_of_requires hy hyz) hzy
    exact ⟨y, hxy', TransGen.head' (h.requires_iff.mpr ⟨hyz, hy⟩) hback.1⟩

/-- A least step among the plugins that are left is one among all. -/
theorem leastStep (h : Peeling P base graph excluded) (hxy : LeastStep graph.Requires x y) :
    LeastStep base.Requires x y := by
  obtain ⟨hbase, hx⟩ := h.requires_iff.mp hxy.1.1
  refine ⟨⟨hbase, (h.cyclic_iff.mp hxy.1.2).1⟩, fun z hxz hz => ?_⟩
  exact hxy.2 z (h.requires_iff.mpr ⟨hxz, hx⟩) (h.cyclic_iff.mpr ⟨hz, h.left_of_requires hx hxz⟩)

end Peeling

/-! ## The rounds -/

/-- What holds between two rounds when nothing was rejected: the cycles that were found so far say who is excluded, and
what is told. -/
structure Classified (known : IdMap Container) (cycles : List (List PluginId)) (graph : Graph)
    (excluded : IdMap PluginError) : Prop extends Resolving known graph excluded where
  found : Found (survey known).graph.Requires cycles
  keys : ∀ x, x ∈ excluded.keys ↔ ∃ c ∈ cycles, Leads (survey known).graph.Requires x c
  told : ∀ x e, excluded.find? x = some e →
    ∃ c, FirstLed (survey known).graph.Requires cycles x c ∧ Told (survey known).graph.Requires x c e

/-- With nothing rejected, the first round excludes nobody. -/
theorem classified_excludeDependents (hcauses : (survey known).causes.keys = []) :
    Classified known [] (excludeDependents (survey known).graph (survey known).causes (survey known).causes.keys).1
      (excludeDependents (survey known).graph (survey known).causes (survey known).causes.keys).2 := by
  have he : Excluded (survey known).graph (survey known).causes (survey known).causes.keys _ _ :=
    excluded_excludeDependents (surveyed_survey known).wellFormed fun _ _ hx => hx
  have hnone : ∀ x, x ∉ (excludeDependents (survey known).graph (survey known).causes
      (survey known).causes.keys).2.keys := by
    intro x hx
    rcases he.reason x hx with hx | ⟨q, hq, _⟩
    · simp [hcauses] at hx
    · simp [hcauses] at hq
  refine ⟨resolving_excludeDependents known, .nil, fun x => by simp [hnone x], fun x e hx => ?_⟩
  exact absurd (IdMap.mem_keys_iff.mpr ⟨e, hx⟩) (hnone x)

/-- After the round of a cycle, those are excluded who were so before, and those who lead to the cycle. -/
theorem Resolving.mem_keys_excludeCycle_iff (h : Resolving known graph excluded)
    (hcyc : IsCycle graph.Requires (a :: mid ++ [a])) : x ∈ (excludeCycle graph excluded (a :: mid)).2.keys ↔
      x ∈ excluded.keys ∨ Leads (survey known).graph.Requires x (a :: mid ++ [a]) := by
  have he := h.excluded_excludeCycle (a :: mid)
  constructor
  · intro hx
    rcases he.reason x hx with hx | ⟨q, hq, hpath⟩
    · rcases mem_keys_blameCycle.mp hx with hx | hx
      · exact Or.inr ⟨x, mem_closed_iff.mpr hx, .refl⟩
      · exact Or.inl hx
    · refine Or.inr ⟨q, mem_closed_iff.mpr hq, ?_⟩
      have hstep : ∀ y z, Spreads graph (blameCycle excluded (a :: mid)) y z → (survey known).graph.Requires z y :=
        fun y z hyz => (h.requires_iff.mp (spreads_iff.mp hyz).2).1
      clear hx
      induction hpath with
      | single hqx => exact .single (hstep _ _ hqx)
      | tail _ hyx ih => exact .head (hstep _ _ hyx) ih
  · rintro (hx | ⟨y, hy, hxy⟩)
    · exact he.keeps x (mem_keys_blameCycle.mpr (Or.inr hx))
    · have hyk := he.keeps y (mem_keys_blameCycle.mpr (Or.inl (mem_closed_iff.mp hy)))
      induction hxy using ReflTransGen.head_induction_on with
      | refl => exact hyk
      | head hxz _ ih => exact (resolving_excludeCycle h hcyc).closed _ _ hxz ih

/-- In the round of a cycle, its members are told the cycle, and the others that something they require failed. -/
theorem Resolving.told_excludeCycle (h : Resolving known graph excluded)
    (hcyc : IsCycle graph.Requires (a :: mid ++ [a])) (hnew : x ∉ excluded.keys)
    (he : (excludeCycle graph excluded (a :: mid)).2.find? x = some e) :
    Told (survey known).graph.Requires x (a :: mid ++ [a]) e := by
  have hreq : ∀ y z, graph.Requires y z → (survey known).graph.Requires y z := fun y z hyz => (h.requires_iff.mp hyz).1
  by_cases hx : x ∈ a :: mid
  · obtain ⟨front, back, hsplit, hf⟩ := exists_find?_blameCycle excluded (isCycle_closed_iff.mp hcyc).1 hx
    rw [excludeCycle, find?_excludeDependents_of_mem (mem_keys_blameCycle.mpr (Or.inl hx)), hf] at he
    obtain rfl := Option.some.inj he
    refine .member (mem_closed_iff.mpr hx) ((hcyc.rotate hsplit).mono hreq) rfl fun y => ?_
    rw [mem_closed_iff, mem_closed_iff, hsplit]
    simp only [List.mem_append, List.mem_cons]
    tauto
  · have hblamed : x ∉ (blameCycle excluded (a :: mid)).keys := fun hk => (mem_keys_blameCycle.mp hk).elim hx hnew
    obtain ⟨y, rfl, hxy⟩ := handed_of_find?_excludeDependents h.wellFormed.nodes.nodup hblamed he
    exact .behind (mt mem_closed_iff.mp hx) (hreq x y hxy)

namespace Classified

/-- The cycle that is found next is as it should be. -/
theorem found_concat (h : Classified known cycles graph excluded) (hc : graph.findCycle? = some c) :
    Found (survey known).graph.Requires (cycles ++ [c]) := by
  obtain ⟨s, ⟨hs, hleast⟩, rest, hends⟩ := h.wellFormed.closes_of_findCycle? hc
  have hapart : ∀ x, CyclicApart (survey known).graph.Requires cycles x ↔ Cyclic graph.Requires x := by
    intro x
    rw [h.cyclic_iff, h.keys, not_exists]
    simp only [CyclicApart, not_and]
  exact .concat h.found ((hapart s).mpr hs) (fun x hx => hleast x ((hapart x).mp hx))
    ⟨rest, hends.imp fun _ _ _ _ => h.leastStep⟩

/-- Every round finds one more cycle, and tells those who lead to it and were left. -/
theorem excludeCycle (h : Classified known cycles graph excluded)
    (hc : graph.findCycle? = some (a :: mid ++ [a])) (hcyc : IsCycle graph.Requires (a :: mid ++ [a])) :
    Classified known (cycles ++ [a :: mid ++ [a]]) (excludeCycle graph excluded (a :: mid)).1
      (excludeCycle graph excluded (a :: mid)).2 := by
  refine ⟨resolving_excludeCycle h.toResolving hcyc, h.found_concat hc, fun x => ?_, fun x e he => ?_⟩
  · rw [h.mem_keys_excludeCycle_iff hcyc, h.keys]
    simp only [List.mem_append, List.mem_singleton, or_and_right, exists_or, exists_eq_left]
  · by_cases hx : x ∈ excluded.keys
    · have hblamed : x ∉ a :: mid := fun hmem => h.left_of_cycle hcyc hmem hx
      rw [Resolution.excludeCycle, find?_excludeDependents_of_mem (mem_keys_blameCycle.mpr (Or.inr hx)),
        find?_blameCycle_of_not_mem hblamed] at he
      obtain ⟨c, hfirst, htold⟩ := h.told x e he
      exact ⟨c, hfirst.append _, htold⟩
    · have hleads := (h.mem_keys_excludeCycle_iff hcyc).mp (IdMap.mem_keys_iff.mpr ⟨e, he⟩)
      refine ⟨_, ⟨cycles, [], rfl, fun c hmem hled => ?_, hleads.resolve_left hx⟩, h.told_excludeCycle hcyc hx he⟩
      exact hx ((h.keys x).mpr ⟨c, hmem, hled⟩)

end Classified

/-! ## The resolution -/

theorem Found.cyclic (h : Found R cycles) (hc : c ∈ cycles) (hx : x ∈ c) : Cyclic R x := by
  induction h with
  | nil => cases hc
  | concat _ _ _ closes ih =>
    rcases List.mem_append.mp hc with hc | hc
    · exact ih hc
    · obtain rfl := List.mem_singleton.mp hc
      exact closes.cyclic hx

theorem requires_survey_eq (haccepted : ∀ x d, Declares known.find? x d → d.required = true → Accepted known.find? d) :
    (survey known).graph.Requires = Demands known.find? := by
  funext x y
  rw [eq_iff_iff, requires_survey_iff]
  constructor
  · rintro ⟨d, hd, hid, _, hr⟩
    exact ⟨d, hd, hr, hid⟩
  · rintro ⟨d, hd, hr, hid⟩
    exact ⟨d, hd, hid, haccepted x d hd hr, hr⟩

theorem classified_ofContainers (containers : List Container)
    (hcauses : (survey (knownOf containers)).causes.keys = []) :
    let r := ofContainers containers
    (∃ cycles, Classified (knownOf containers) cycles r.graph r.excluded) ∧ Acyclic r.graph.Requires := by
  have h := ofContainers_induction (I := fun graph excluded => ∃ cycles, Classified (knownOf containers) cycles graph
    excluded) containers (fun _ _ ⟨_, h⟩ => h.wellFormed) ⟨_, classified_excludeDependents hcauses⟩
    fun _ _ _ _ ⟨_, h⟩ hc hcyc => ⟨_, h.excludeCycle hc hcyc⟩
  exact ⟨h.1, h.2.1⟩

/-- What is told when all that is required is accepted. Excluded is who leads to a cycle. Who is told a cycle is on one,
and who is on none is told that something it requires failed. Which one is told of the others is decided by the first
found cycle that they lead to: a plugin on this cycle is told the cycle, from itself on, and a plugin that is not on it
is told a failed dependency, even when it is on another cycle. -/
theorem ofContainers_cycles {containers : List Container}
    (haccepted : ∀ x d, Declares (latest? containers) x d → d.required = true → Accepted (latest? containers) d) :
    let R := Demands (latest? containers)
    let excluded := (ofContainers containers).excluded
    (∀ p, p ∈ excluded.keys ↔ Cyclic R p) ∧
    (∀ p path, excluded.find? p = some (.cycleDetected path) → TransGen R p p) ∧
    (∀ p, Cyclic R p → ¬TransGen R p p → ∃ d, excluded.find? p = some (.dependencyFailed p d)) ∧
    ∃ cycles, Found R cycles ∧
      ∀ p, Cyclic R p → ∃ c e, FirstLed R cycles p c ∧ excluded.find? p = some e ∧ Told R p c e := by
  intro R excluded
  rw [← find?_knownOf] at haccepted
  have hR : (survey (knownOf containers)).graph.Requires = R := by
    rw [requires_survey_eq haccepted, find?_knownOf]
  have hcauses : (survey (knownOf containers)).causes.keys = [] := by
    refine List.eq_nil_iff_forall_not_mem.mpr fun x hx => ?_
    obtain ⟨d, hd, hr, hno⟩ := ((surveyed_survey _).causes x).mp hx
    exact hno (haccepted x d (mem_declarations.mp hd) hr)
  obtain ⟨⟨cycles, h⟩, hacyclic⟩ := classified_ofContainers containers hcauses
  have hkeys : ∀ p, p ∈ excluded.keys ↔ Cyclic R p := by
    intro p
    rw [← hR]
    constructor
    · intro hp
      obtain ⟨c, hc, y, hy, hpy⟩ := (h.keys p).mp hp
      exact (h.found.cyclic hc hy).of_reaches hpy
    · intro hp
      by_contra hleft
      obtain ⟨y, _, hcycle⟩ := h.cyclic_iff.mpr ⟨hp, hleft⟩
      exact hacyclic y hcycle
  have htold : ∀ p e, excluded.find? p = some e → ∃ c, FirstLed R cycles p c ∧ Told R p c e := hR ▸ h.told
  refine ⟨hkeys, fun p path hp => ?_, fun p hp hoff => ?_, cycles, hR ▸ h.found, fun p hp => ?_⟩
  · obtain ⟨c, _, hpath⟩ := htold p _ hp
    exact hpath.on_cycle
  · obtain ⟨e, he⟩ := IdMap.mem_keys_iff.mp ((hkeys p).mpr hp)
    obtain ⟨c, _, hcause⟩ := htold p e he
    cases e with
    | cycleDetected path => exact absurd hcause.on_cycle hoff
    | dependencyFailed q d =>
      cases hcause with
      | behind _ _ => exact ⟨d, he⟩
    | _ => cases hcause
  · obtain ⟨e, he⟩ := IdMap.mem_keys_iff.mp ((hkeys p).mpr hp)
    obtain ⟨c, hfirst, hcause⟩ := htold p e he
    exact ⟨c, e, hfirst, he, hcause⟩

/-- A plugin that stands at a version and requires others, which may have any. -/
def requiring (id : PluginId) (dependencies : List PluginId) : Container :=
  { manifest := { id, version := "1.0.0", dependencies := dependencies.map fun dependency => { id := dependency } } }

/-- Two cycles that share a plugin. -/
def sharing : List Container := [requiring "a" ["b", "c"], requiring "b" ["a"], requiring "c" ["a"]]

/-- The cycle that is found leads from the shared plugin to the lesser one of the other two. The other one of them is on
a cycle, too, and is told that the shared plugin failed. -/
theorem ofContainers_cycles_sharing :
    let R := Demands (latest? sharing)
    let excluded := (ofContainers sharing).excluded
    excluded.find? "b" = some (.cycleDetected ["b", "a", "b"]) ∧
    TransGen R "c" "c" ∧ excluded.find? "c" = some (.dependencyFailed "c" "a") ∧
    ∃ cycles c, Found R cycles ∧ FirstLed R cycles "c" c ∧ "c" ∉ c := by
  intro R excluded
  have haccepted : ∀ x d, Declares (latest? sharing) x d → d.required = true → Accepted (latest? sharing) d := by
    rintro x d ⟨c, hc, hd⟩ -
    have hmem : c ∈ sharing := List.mem_reverse.mp (List.mem_of_find?_eq_some hc)
    have hall : ∀ c ∈ sharing, ∀ d ∈ c.dependencies, (latest? sharing d.id).any (d.accepts ·.version) = true := by
      decide
    exact Option.any_eq_true _ _ |>.mp (hall c hmem d hd)
  have hca : R "c" "a" := ⟨{ id := "a" }, ⟨requiring "c" ["a"], by cbv, .head _⟩, rfl, rfl⟩
  have hac : R "a" "c" := ⟨{ id := "c" }, ⟨requiring "a" ["b", "c"], by cbv, .tail _ (.head _)⟩, rfl, rfl⟩
  have hon : TransGen R "c" "c" := .tail (.single hca) hac
  have hb : (ofContainers sharing).excluded.find? "b" = some (.cycleDetected ["b", "a", "b"]) := by cbv
  have hc : (ofContainers sharing).excluded.find? "c" = some (.dependencyFailed "c" "a") := by cbv
  obtain ⟨_, _, _, cycles, hfound, htold⟩ := ofContainers_cycles haccepted
  obtain ⟨c, e, hfirst, he, hcause⟩ := htold "c" ⟨"c", .refl, hon⟩
  obtain rfl := Option.some.inj (hc.symm.trans he)
  cases hcause with
  | behind off _ => exact ⟨hb, hon, hc, cycles, c, hfound, hfirst, off⟩

end PluginHost.Resolution
