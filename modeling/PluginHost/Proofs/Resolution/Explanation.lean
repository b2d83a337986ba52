import Mathlib
import PluginHost.Proofs.Resolution.Causes
import PluginHost.Proofs.Resolution.Exact

/-!
# Why plugins are excluded

Every cause that a resolution tells is true of its plugin, and a failure that is handed on comes from a plugin with a
cause of its own (`excluded_explained`).

* A cause that is told is kept: every round blames only plugins that are still in the graph, which have no cause yet.
* Failures are handed on in the order in which plugins are reached, so a plugin that is blamed for the failure of
  another one has its cause before (`grounded_handOn`).
-/

open Relation (TransGen)

namespace PluginHost.Resolution

variable {known : IdMap Container} {graph : Graph} {excluded excluded' : IdMap PluginError} {failed : List PluginId}
  {x y : PluginId} {e : PluginError}

/-! ## Blame -/

/-- The cause of one plugin is that another one failed. -/
def Blames (excluded : IdMap PluginError) (x y : PluginId) : Prop := excluded.find? x = some (.dependencyFailed x y)

/-- From plugin to plugin that is blamed, one comes to a cause that is not handed on. -/
inductive Grounded (excluded : IdMap PluginError) : PluginId → Prop
  | own {x : PluginId} {e : PluginError} (found : excluded.find? x = some e) (root : isRoot e = true) :
      Grounded excluded x
  | handed {x y : PluginId} (blames : Blames excluded x y) (grounded : Grounded excluded y) : Grounded excluded x

theorem Grounded.mono (hext : excluded.Extends excluded') (h : Grounded excluded x) : Grounded excluded' x := by
  induction h with
  | own found root => exact .own (hext _ _ found) root
  | handed blames _ ih => exact .handed (hext _ _ blames) ih

theorem Grounded.mem_keys (h : Grounded excluded x) : x ∈ excluded.keys := by
  cases h with
  | own found _ => exact IdMap.mem_keys_iff.mpr ⟨_, found⟩
  | handed blames _ => exact IdMap.mem_keys_iff.mpr ⟨_, blames⟩

theorem Grounded.of_blames (h : Grounded excluded x) (hxy : Blames excluded x y) : Grounded excluded y := by
  cases h with
  | own found root =>
    obtain rfl := Option.some.inj (found.symm.trans hxy)
    cases root
  | handed blames grounded =>
    obtain ⟨_, rfl⟩ := PluginError.dependencyFailed.inj (Option.some.inj (blames.symm.trans hxy))
    exact grounded

/-- Following the blame ends. -/
theorem Grounded.acc (h : Grounded excluded x) : Acc (fun y x => Blames excluded x y) x := by
  induction h with
  | own found root =>
    refine Acc.intro _ fun y hy => ?_
    obtain rfl := Option.some.inj (found.symm.trans hy)
    cases root
  | handed blames _ ih =>
    refine Acc.intro _ fun y hy => ?_
    obtain ⟨_, rfl⟩ := PluginError.dependencyFailed.inj (Option.some.inj (blames.symm.trans hy))
    exact ih

/-- The walk from a plugin to the cause that was handed on to it. -/
theorem Grounded.exists_walk (h : Grounded excluded x) : ∃ walk last e, (walk ++ [last]).head? = some x ∧
    (walk ++ [last]).IsChain (Blames excluded) ∧ (∀ y ∈ walk ++ [last], Grounded excluded y) ∧
    excluded.find? last = some e ∧ isRoot e = true := by
  induction h with
  | @own x e found root =>
    have hall : ∀ y ∈ [x], Grounded excluded y := by simpa using Grounded.own found root
    exact ⟨[], x, e, rfl, List.isChain_singleton x, hall, found, root⟩
  | @handed x y blames grounded ih =>
    obtain ⟨walk, last, e, hhead, hchain, hall, hlast⟩ := ih
    refine ⟨x :: walk, last, e, rfl, ?_, fun z hz => ?_, hlast⟩
    · refine List.isChain_cons.mpr ⟨fun z hz => ?_, hchain⟩
      obtain rfl := Option.some.inj (hhead.symm.trans hz)
      exact blames
    · rcases List.mem_cons.mp hz with rfl | hz
      · exact .handed blames grounded
      · exact hall z hz

/-- The walk from a plugin with a failure that was handed on to it repeats no plugin. -/
theorem Grounded.exists_walk_of_blames (h : Grounded excluded x) (hxy : Blames excluded x y) :
    ∃ mid last e, (x :: mid ++ [last]).IsChain (Blames excluded) ∧ (x :: mid ++ [last]).Nodup ∧
      excluded.find? last = some e ∧ isRoot e = true := by
  obtain ⟨walk, last, e, hhead, hchain, hall, hlast, hroot⟩ := h.exists_walk
  have hn : (walk ++ [last]).Nodup := nodup_of_isChain hchain fun z hz => not_transGen_of_acc (hall z hz).acc
  cases walk with
  | nil =>
    obtain rfl : last = x := by simpa using hhead
    obtain rfl := Option.some.inj (hlast.symm.trans hxy)
    cases hroot
  | cons z mid =>
    obtain rfl : z = x := by simpa using hhead
    exact ⟨mid, last, e, hchain, hn, hlast, hroot⟩

/-! ## Handing on failures -/

/-- The causes once failures were handed on. -/
def handOn (excluded : IdMap PluginError) (reached : List (PluginId × PluginId)) : IdMap PluginError :=
  reached.foldl (fun m p => m.insert p.1 (.dependencyFailed p.1 p.2)) excluded

theorem extends_handOn {reached : List (PluginId × PluginId)} (hnew : ∀ p ∈ reached, p.1 ∉ excluded.keys) :
    excluded.Extends (handOn excluded reached) :=
  IdMap.extends_foldl_insert hnew

theorem blames_handOn {reached : List (PluginId × PluginId)} (hn : (reached.map Prod.fst).Nodup)
    (h : (x, y) ∈ reached) : Blames (handOn excluded reached) x y :=
  @IdMap.find?_foldl_insert_of_mem PluginError _ Prod.fst (fun p => .dependencyFailed p.1 p.2) (x, y) reached excluded
    hn h

/-- Failures that are handed on in turn, from grounded plugins to others without a cause, leave these grounded. -/
theorem grounded_handOn : ∀ {reached : List (PluginId × PluginId)} {given : List PluginId}
    {excluded : IdMap PluginError}, InTurn given reached → (reached.map Prod.fst).Nodup →
    (∀ p ∈ reached, p.1 ∉ excluded.keys) → (∀ q ∈ given, Grounded excluded q) →
    ∀ p ∈ reached, Grounded (handOn excluded reached) p.1
  | [], _, _, _, _, _, _ => fun p hp => by cases hp
  | (x, c) :: reached, given, excluded, hturn, hn, hnew, hgiven => by
    obtain ⟨hx, hn⟩ := List.nodup_cons.mp hn
    have hext : excluded.Extends (excluded.insert x (.dependencyFailed x c)) :=
      @extends_handOn excluded [(x, c)] fun p hp => by
        obtain rfl := List.mem_singleton.mp hp
        exact hnew _ List.mem_cons_self
    have hground : Grounded (excluded.insert x (.dependencyFailed x c)) x := by
      refine .handed ?_ ((hgiven c hturn.1).mono hext)
      rw [Blames, IdMap.find?_insert, if_pos rfl]
    have hnew' : ∀ p ∈ reached, p.1 ∉ (excluded.insert x (.dependencyFailed x c)).keys := by
      intro p hp hk
      rcases IdMap.mem_keys_insert.mp hk with hk | hk
      · exact hx (List.mem_map.mpr ⟨p, hp, hk⟩)
      · exact hnew p (List.mem_cons_of_mem _ hp) hk
    have hext' := extends_handOn hnew'
    have hrest := grounded_handOn hturn.2 hn hnew' fun q hq => by
      rcases List.mem_cons.mp hq with rfl | hq
      · exact hground
      · exact (hgiven q hq).mono hext
    intro p hp
    rcases List.mem_cons.mp hp with rfl | hp
    · exact hground.mono hext'
    · exact hrest p hp

/-! ## Rounds -/

/-- A cause that is true of a plugin. A plugin with a declaration that is rejected gets no other cause. -/
inductive Explained (known : IdMap Container) (excluded : IdMap PluginError) (x : PluginId) : PluginError → Prop
  | rejected {e : PluginError} (found : (survey known).causes.find? x = some e) : Explained known excluded x e
  | cycle {mid : List PluginId} (fit : x ∉ (survey known).causes.keys)
      (cycle : IsCycle (survey known).graph.Requires (x :: mid ++ [x]))
      (members : ∀ y ∈ mid, ∃ path, excluded.find? y = some (.cycleDetected path)) :
      Explained known excluded x (.cycleDetected (x :: mid ++ [x]))
  | handed {y : PluginId} (fit : x ∉ (survey known).causes.keys) (requires : (survey known).graph.Requires x y) :
      Explained known excluded x (.dependencyFailed x y)

theorem Explained.mono (hext : excluded.Extends excluded') (h : Explained known excluded x e) :
    Explained known excluded' x e := by
  cases h with
  | rejected found => exact .rejected found
  | cycle fit cycle members =>
    refine .cycle fit cycle fun y hy => ?_
    obtain ⟨path, hpath⟩ := members y hy
    exact ⟨path, hext _ _ hpath⟩
  | handed fit requires => exact .handed fit requires

/-- Every cause is true, and leads to one that is not handed on. -/
structure Explains (known : IdMap Container) (excluded : IdMap PluginError) : Prop where
  explained : ∀ x e, excluded.find? x = some e → Explained known excluded x e
  grounded : ∀ x ∈ excluded.keys, Grounded excluded x

theorem Rejection.isRoot {given : PluginId → Option Container} {d : Dependency} (h : Rejection given x d e) :
    isRoot e = true := by
  cases h <;> rfl

/-- The causes of a survey are true. -/
theorem explains_survey (known : IdMap Container) : Explains known (survey known).causes where
  explained _ _ h := .rejected h
  grounded x hx := by
    obtain ⟨e, he⟩ := IdMap.mem_keys_iff.mp hx
    obtain ⟨d, _, hd⟩ := firstRejected_of_find?_causes he
    exact .own he hd.isRoot

/-- Whom a round of exclusion reaches, each with the plugin it is reached from. -/
abbrev handed (graph : Graph) (excluded : IdMap PluginError) (failed : List PluginId) : List (PluginId × PluginId) :=
  spread graph.requires (graph.nodes.filter fun id => !excluded.contains id) failed

/-- Who has a cause is not reached. -/
theorem new_of_mem_handed {p : PluginId × PluginId} (hp : p ∈ handed graph excluded failed) : p.1 ∉ excluded.keys := by
  intro hk
  have hroom := (List.mem_filter.mp (mem_of_mem_spread hp)).2
  simp [IdMap.contains_iff.mpr hk] at hroom

/-- A round of exclusion keeps the causes that are there. -/
theorem find?_excludeDependents_of_mem (hx : x ∈ excluded.keys) :
    (excludeDependents graph excluded failed).2.find? x = excluded.find? x := by
  show (handOn excluded (handed graph excluded failed)).find? x = _
  refine IdMap.find?_foldl_insert_of_not_mem excluded fun h => ?_
  obtain ⟨p, hp, rfl⟩ := List.mem_map.mp h
  exact new_of_mem_handed hp hx

/-- Who gets a cause in a round of exclusion gets it from a dependency. -/
theorem handed_of_find?_excludeDependents (hn : graph.nodes.Nodup) (hx : x ∉ excluded.keys)
    (he : (excludeDependents graph excluded failed).2.find? x = some e) :
    ∃ y, e = .dependencyFailed x y ∧ graph.Requires x y := by
  have hreached : x ∈ (handed graph excluded failed).map Prod.fst :=
    ((IdMap.mem_keys_foldl_insert _ _).mp (IdMap.mem_keys_iff.mpr ⟨e, he⟩)).resolve_right hx
  obtain ⟨⟨x, y⟩, hp, rfl⟩ := List.mem_map.mp hreached
  refine ⟨y, ?_, Graph.requires_eq_true_iff.mp (step_of_mem_spread hp)⟩
  exact Option.some.inj (he.symm.trans (blames_handOn (nodup_spread (hn.filter _)) hp))

/-- A round that hands on failures keeps the causes true. -/
theorem Explains.excludeDependents (h : Explains known excluded) (hn : graph.nodes.Nodup)
    (hreq : ∀ x y, graph.Requires x y → (survey known).graph.Requires x y)
    (hcauses : ∀ x ∈ (survey known).causes.keys, x ∈ excluded.keys) (hfailed : ∀ x ∈ failed, x ∈ excluded.keys) :
    Explains known (excludeDependents graph excluded failed).2 := by
  have hnew : ∀ p ∈ handed graph excluded failed, p.1 ∉ excluded.keys := fun p hp => new_of_mem_handed hp
  have hext : excluded.Extends (Resolution.excludeDependents graph excluded failed).2 := extends_handOn hnew
  refine ⟨fun x e he => ?_, fun x hx => ?_⟩
  · by_cases hx : x ∈ excluded.keys
    · rw [find?_excludeDependents_of_mem hx] at he
      exact (h.explained x e he).mono hext
    · obtain ⟨y, rfl, hxy⟩ := handed_of_find?_excludeDependents hn hx he
      exact .handed (fun hc => hx (hcauses x hc)) (hreq x y hxy)
  · rcases (IdMap.mem_keys_foldl_insert _ _).mp hx with hx | hx
    · obtain ⟨p, hp, rfl⟩ := List.mem_map.mp hx
      have hgrounded : ∀ q ∈ failed, Grounded excluded q := fun q hq => h.grounded q (hfailed q hq)
      exact grounded_handOn inTurn_spread (nodup_spread (hn.filter _)) hnew hgrounded p hp
    · exact (h.grounded x hx).mono hext

/-! ## Cycles -/

/-- Every member of a cycle is told with the cycle from there on. -/
theorem mem_rotations : ∀ (front : List PluginId) {before back : List PluginId} {m : PluginId},
    (m, m :: (back ++ (before ++ front)) ++ [m]) ∈ rotations before (front ++ m :: back)
  | [], before, back, m => by simp [rotations]
  | f :: front, before, back, m => by
    have ih : (m, m :: (back ++ (before ++ [f] ++ front)) ++ [m]) ∈ rotations (before ++ [f]) (front ++ m :: back) :=
      mem_rotations front
    rw [List.cons_append, rotations]
    exact List.mem_cons_of_mem _ (by simpa using ih)

theorem find?_blameCycle {front back : List PluginId} (hn : (front ++ x :: back).Nodup) :
    (blameCycle excluded (front ++ x :: back)).find? x = some (.cycleDetected (x :: (back ++ front) ++ [x])) := by
  have hn' : ((rotations [] (front ++ x :: back)).map Prod.fst).Nodup := by rwa [map_fst_rotations]
  exact @IdMap.find?_foldl_insert_of_mem PluginError _ Prod.fst (fun p => .cycleDetected p.2) _ _ excluded hn'
    (mem_rotations front)

/-- Every member of a cycle without repetition is told the cycle from itself on. -/
theorem exists_find?_blameCycle (excluded : IdMap PluginError) {members : List PluginId} (hn : members.Nodup)
    (hx : x ∈ members) :
    ∃ front back, members = front ++ x :: back ∧
      (blameCycle excluded members).find? x = some (.cycleDetected (x :: (back ++ front) ++ [x])) := by
  obtain ⟨front, back, rfl⟩ := List.append_of_mem hx
  exact ⟨front, back, rfl, find?_blameCycle hn⟩

theorem find?_blameCycle_of_not_mem {members : List PluginId} (hx : x ∉ members) :
    (blameCycle excluded members).find? x = excluded.find? x :=
  IdMap.find?_foldl_insert_of_not_mem excluded (by rwa [map_fst_rotations])

theorem extends_blameCycle {members : List PluginId} (hnew : ∀ x ∈ members, x ∉ excluded.keys) :
    excluded.Extends (blameCycle excluded members) := by
  refine IdMap.extends_foldl_insert fun p hp => hnew p.1 ?_
  have hfst := List.mem_map_of_mem (f := Prod.fst) hp
  rwa [map_fst_rotations] at hfst

/-- The members of a cycle in the graph that is left are not excluded. -/
theorem Resolving.left_of_cycle {a : PluginId} {mid : List PluginId} (h : Resolving known graph excluded)
    (hcyc : IsCycle graph.Requires (a :: mid ++ [a])) (hx : x ∈ a :: mid) : x ∉ excluded.keys := by
  obtain ⟨y, hxy, _⟩ := TransGen.head'_iff.mp (transGen_self_of_closed (isCycle_closed_iff.mp hcyc).2 hx)
  exact (h.requires_iff.mp hxy).2

/-- Blaming the members of a cycle in the graph that is left keeps the causes true. -/
theorem Explains.blameCycle {a : PluginId} {mid : List PluginId} (h : Explains known excluded)
    (hg : Resolving known graph excluded) (hcyc : IsCycle graph.Requires (a :: mid ++ [a])) :
    Explains known (blameCycle excluded (a :: mid)) := by
  have hn : (a :: mid).Nodup := (isCycle_closed_iff.mp hcyc).1
  have hnew : ∀ x ∈ a :: mid, x ∉ excluded.keys := fun x hx => hg.left_of_cycle hcyc hx
  have hext := extends_blameCycle hnew
  refine ⟨fun x e he => ?_, fun x hx => ?_⟩
  · by_cases hx : x ∈ a :: mid
    · obtain ⟨front, back, hsplit, hf⟩ := exists_find?_blameCycle _ hn hx
      obtain rfl := Option.some.inj (he.symm.trans hf)
      refine .cycle (fun hc => hnew x hx (hg.causes x hc)) ((hcyc.rotate hsplit).mono fun y z hyz =>
        (hg.requires_iff.mp hyz).1) fun y hy => ?_
      have hy' : y ∈ a :: mid := by
        rw [hsplit]
        simp only [List.mem_append, List.mem_cons] at hy ⊢
        tauto
      obtain ⟨_, _, _, hf'⟩ := exists_find?_blameCycle _ hn hy'
      exact ⟨_, hf'⟩
    · rw [find?_blameCycle_of_not_mem hx] at he
      exact (h.explained x e he).mono hext
  · rcases mem_keys_blameCycle.mp hx with hx | hx
    · obtain ⟨_, _, _, hf⟩ := exists_find?_blameCycle _ hn hx
      exact .own hf rfl
    · exact (h.grounded x hx).mono hext

/-! ## The resolution -/

theorem explains_ofContainers (containers : List Container) :
    Explains (knownOf containers) (ofContainers containers).excluded := by
  have h := ofContainers_induction (I := fun graph excluded => Resolving (knownOf containers) graph excluded ∧
      Explains (knownOf containers) excluded) containers (fun _ _ h => h.1.wellFormed)
    ⟨resolving_excludeDependents _, ?_⟩ ?_
  · exact h.1.2
  · exact (explains_survey _).excludeDependents (surveyed_survey _).wellFormed.nodes.nodup (fun _ _ h => h)
      (fun _ h => h) fun _ h => h
  · rintro graph excluded a mid ⟨hg, he⟩ - hcyc
    refine ⟨resolving_excludeCycle hg hcyc, ?_⟩
    exact (he.blameCycle hg hcyc).excludeDependents hg.wellFormed.nodes.nodup
      (fun x y hxy => (hg.requires_iff.mp hxy).1) (fun x hx => mem_keys_blameCycle.mpr (Or.inr (hg.causes x hx)))
      fun x hx => mem_keys_blameCycle.mpr (Or.inl hx)

/-- A plugin requires another one that is given with a version that will do. -/
def Relies (given : PluginId → Option Container) (x y : PluginId) : Prop :=
  ∃ d, Declares given x d ∧ d.id = y ∧ Accepted given d ∧ d.required = true

/-- The cause of an exclusion is true of its plugin. The first declaration that is rejected comes before all else. A
cycle is told from the plugin on, which stands at both ends, and each of its plugins relies on the next one. A failure
that was handed on comes from an excluded plugin that the plugin relies on, and the blame leads, without coming back to
a plugin, to a cause that is not handed on. -/
theorem excluded_explained {containers : List Container} {p : PluginId} {e : PluginError}
    (h : (ofContainers containers).excluded.find? p = some e) :
    let given := latest? containers
    let excluded := (ofContainers containers).excluded
    e.plugin? = some p ∧
    ((∃ d, FirstRejected given p d ∧ Rejection given p d e) ∨ (∃ path, e = .cycleDetected path) ∨
      ∃ y, e = .dependencyFailed p y) ∧
    ((∃ d, Declares given p d ∧ d.required = true ∧ ¬Accepted given d) →
      ∃ d, FirstRejected given p d ∧ Rejection given p d e) ∧
    (∀ path, e = .cycleDetected path →
      ∃ mid, path = p :: mid ++ [p] ∧ (p :: mid).Nodup ∧ path.IsChain (Relies given)) ∧
    ∀ x y, e = .dependencyFailed x y → Relies given p y ∧ y ∈ excluded.keys ∧
      ∃ mid last cause, (p :: mid ++ [last]).IsChain (Blames excluded) ∧ (p :: mid ++ [last]).Nodup ∧
        excluded.find? last = some cause ∧ isRoot cause = true := by
  have hall := explains_ofContainers containers
  rw [← find?_knownOf]
  generalize knownOf containers = known at hall
  intro given excluded
  have hrelies : ∀ x y, (survey known).graph.Requires x y → Relies known.find? x y := fun x y => requires_survey_iff.mp
  have hcause : ∀ x d, Declares known.find? x d → d.required = true → ¬Accepted known.find? d →
      x ∈ (survey known).causes.keys := fun x d hd hr hno =>
    ((surveyed_survey known).causes x).mpr ⟨d, mem_declarations.mpr hd, hr, hno⟩
  cases hall.explained p e h with
  | rejected found =>
    obtain ⟨d, hfirst, hrej⟩ := firstRejected_of_find?_causes found
    refine ⟨by cases hrej <;> rfl, Or.inl ⟨d, hfirst, hrej⟩, fun _ => ⟨d, hfirst, hrej⟩, ?_, ?_⟩
    · rintro path rfl
      cases hrej
    · rintro x y rfl
      cases hrej
  | @cycle mid fit cycle members =>
    refine ⟨rfl, Or.inr (Or.inl ⟨_, rfl⟩), ?_, ?_, ?_⟩
    · rintro ⟨d, hd, hr, hno⟩
      exact absurd (hcause p d hd hr hno) fit
    · rintro path hpath
      obtain rfl := PluginError.cycleDetected.inj hpath
      obtain ⟨hn, hchain⟩ := isCycle_closed_iff.mp cycle
      exact ⟨mid, rfl, hn, hchain.imp hrelies⟩
    · intro x y he
      cases he
  | @handed y fit requires =>
    refine ⟨rfl, Or.inr (Or.inr ⟨y, rfl⟩), ?_, ?_, ?_⟩
    · rintro ⟨d, hd, hr, hno⟩
      exact absurd (hcause p d hd hr hno) fit
    · intro path he
      cases he
    · intro x z he
      obtain ⟨rfl, rfl⟩ := PluginError.dependencyFailed.inj he
      have hp : Grounded excluded p := hall.grounded p (IdMap.mem_keys_iff.mpr ⟨_, h⟩)
      exact ⟨hrelies p y requires, (hp.of_blames h).mem_keys, hp.exists_walk_of_blames h⟩

/-- Two plugins on a cycle, and one that requires them: the failure is handed on to it from the cycle. -/
theorem excluded_explained_behind_cycle :
    let needs := fun id dependency : PluginId =>
      ({ manifest := { id, version := "1.0.0", dependencies := [{ id := dependency }] } } : Container)
    let containers := [needs "a" "b", needs "b" "a", needs "c" "a"]
    let excluded := (ofContainers containers).excluded
    excluded.find? "c" = some (.dependencyFailed "c" "a") ∧
    Relies (latest? containers) "c" "a" ∧ "a" ∈ excluded.keys ∧
    ∃ mid last cause, ("c" :: mid ++ [last]).IsChain (Blames excluded) ∧ ("c" :: mid ++ [last]).Nodup ∧
      excluded.find? last = some cause ∧ isRoot cause = true := by
  intro needs containers excluded
  have h : (ofContainers containers).excluded.find? "c" = some (.dependencyFailed "c" "a") := by cbv
  exact ⟨h, (excluded_explained h).2.2.2.2 "c" "a" rfl⟩

end PluginHost.Resolution
