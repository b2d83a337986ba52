import PluginHost.Proofs.Host.Intake

/-!
# The order of discovery errors

A directory is read before its containers are taken in. So the errors of artifacts that cannot be read all stand before
those of containers that repeat a plugin (`discoveryErrors_placed`), each kind in the order of the artifacts, and the
whole is in this order just when no artifact with a repeated plugin stands before one that cannot be read.
-/

namespace PluginHost

section Placed

variable {α β : Type} {give : α → List β} {l : List α}

/-- What the members of a list give, each with the place of the member. -/
def placed (give : α → List β) (l : List α) : List (Nat × β) := l.zipIdx.flatMap fun p => (give p.1).map (p.2, ·)

theorem map_snd_placed (give : α → List β) (l : List α) : (placed give l).map Prod.snd = l.flatMap give := by
  have hfst : l = l.zipIdx.map Prod.fst := (List.zipIdx_map_fst 0 l).symm
  conv_rhs => rw [hfst, List.flatMap_map]
  simp [placed, List.map_flatMap, Function.comp_def]

theorem mem_placed_iff {i : Nat} {b : β} : (i, b) ∈ placed give l ↔ ∃ a, l[i]? = some a ∧ b ∈ give a := by
  simp only [placed, List.mem_flatMap, List.mem_map, Prod.mk.injEq]
  constructor
  · rintro ⟨⟨a, j⟩, hp, b', hb, rfl, rfl⟩
    exact ⟨a, List.mem_zipIdx_iff_getElem?.mp hp, hb⟩
  · rintro ⟨a, ha, hb⟩
    exact ⟨(a, i), List.mem_zipIdx_iff_getElem?.mpr ha, b, hb, rfl, rfl⟩

/-- What is given stands in the order of the members. -/
theorem pairwise_placed : (placed give l).Pairwise (·.1 ≤ ·.1) := by
  have hplaces : l.zipIdx.Pairwise (·.2 < ·.2) := by
    have hrange : (l.zipIdx.map Prod.snd).Pairwise (· < ·) := by
      rw [List.zipIdx_map_snd]
      exact List.pairwise_lt_range'
    exact List.pairwise_map.mp hrange
  refine List.pairwise_flatMap.mpr ⟨fun p _ => ?_, hplaces.imp fun {p q} hpq x hx y hy => ?_⟩
  · exact List.pairwise_map.mpr (List.pairwise_of_forall fun _ _ => Nat.le_refl _)
  · obtain ⟨_, _, rfl⟩ := List.mem_map.mp hx
    obtain ⟨_, _, rfl⟩ := List.mem_map.mp hy
    exact Nat.le_of_lt hpq

end Placed

namespace Manager

variable {root : FileTree} {dir : Path} {disabled : List PluginId}

/-- The errors of the artifacts that cannot be read, with the places of the artifacts. -/
def failures (root : FileTree) (dir : Path) : List (Nat × PluginError) :=
  placed (Loader.errorsOf root) (root.artifactsIn dir)

/-- The errors of the containers that repeat a plugin of a directory, with the places of the artifacts. -/
def duplicates (disabled : List PluginId) (root : FileTree) (dir : Path) : List (Nat × PluginError) :=
  (repeats (fun p => p.2.id) disabled [] (placed (Loader.containersOf root) (root.artifactsIn dir))).map fun p =>
    (p.1, p.2.duplicate)

theorem map_snd_duplicates : (duplicates disabled root dir).map Prod.snd =
    (repeats Container.id disabled [] (Loader.containersIn root dir)).map Container.duplicate := by
  have hcontainers := map_repeats Container.id Prod.snd disabled
    (placed (Loader.containersOf root) (root.artifactsIn dir)) []
  rw [map_snd_placed] at hcontainers
  rw [Loader.containersIn, ← hcontainers, duplicates, List.map_map, List.map_map]
  rfl

theorem mem_duplicates_iff {i : Nat} {e : PluginError} : (i, e) ∈ duplicates disabled root dir ↔
    ∃ c before after, placed (Loader.containersOf root) (root.artifactsIn dir) = before ++ (i, c) :: after ∧
      c.id ∉ disabled ∧ c.id ∈ before.map (·.2.id) ∧ e = c.duplicate := by
  simp only [duplicates, List.mem_map, Prod.mk.injEq, mem_repeats_iff, List.nil_append]
  constructor
  · rintro ⟨⟨j, c⟩, ⟨before, after, hsplit, hdisabled, hbefore⟩, rfl, rfl⟩
    exact ⟨c, before, after, hsplit, hdisabled, hbefore, rfl⟩
  · rintro ⟨c, before, after, hsplit, hdisabled, hbefore, rfl⟩
    exact ⟨(i, c), ⟨before, after, hsplit, hdisabled, hbefore⟩, rfl, rfl⟩

theorem pairwise_failures : (failures root dir).Pairwise (·.1 ≤ ·.1) := pairwise_placed

theorem pairwise_duplicates : (duplicates disabled root dir).Pairwise (·.1 ≤ ·.1) :=
  List.pairwise_map.mpr (pairwise_placed.sublist (repeats_sublist _ _))

/-- An artifact that cannot be read repeats no plugin. -/
theorem place_ne {f d : Nat × PluginError} (hf : f ∈ failures root dir) (hd : d ∈ duplicates disabled root dir) :
    f.1 ≠ d.1 := by
  intro hplace
  obtain ⟨path, hpath, he⟩ := mem_placed_iff.mp hf
  obtain ⟨c, before, after, hsplit, _⟩ := mem_duplicates_iff.mp hd
  have hc : (d.1, c) ∈ placed (Loader.containersOf root) (root.artifactsIn dir) := by simp [hsplit]
  obtain ⟨path', hpath', hc⟩ := mem_placed_iff.mp hc
  obtain rfl := Option.some.inj (hpath.symm.trans (hplace ▸ hpath'))
  rcases Loader.gives_cases root path with ⟨_, hnone, _⟩ | ⟨hnone, _⟩
  · rw [hnone] at he
    cases he
  · rw [hnone] at hc
    cases hc

/-- The errors of a first discovery, and so those of the report when its directory is loaded, are those of the artifacts
that cannot be read and then those of the containers that repeat a plugin, each kind in the order of the artifacts. All
of them are in this order just when every artifact that cannot be read stands before every one that repeats a plugin. -/
theorem discoveryErrors_placed (l : Loader) (disabled : List PluginId) (root : FileTree) (dir : Path) :
    let errors := failures root dir ++ duplicates disabled root dir
    ((new l disabled).discover root dir).1.discoveryErrors = errors.map Prod.snd ∧
    ((new l disabled).loadDirectory root dir).result.2.map Report.discoveryErrors =
      ((new l disabled).discover root dir).2.map (fun _ => errors.map fun p => p.2.message) ∧
    (∀ i e, (i, e) ∈ failures root dir ↔ ∃ path, (root.artifactsIn dir)[i]? = some path ∧
      e ∈ Loader.errorsOf root path) ∧
    (∀ i e, (i, e) ∈ duplicates disabled root dir ↔
      ∃ c before after, placed (Loader.containersOf root) (root.artifactsIn dir) = before ++ (i, c) :: after ∧
        c.id ∉ disabled ∧ c.id ∈ before.map (·.2.id) ∧ e = c.duplicate) ∧
    (failures root dir).Pairwise (·.1 ≤ ·.1) ∧ (duplicates disabled root dir).Pairwise (·.1 ≤ ·.1) ∧
    (errors.Pairwise (·.1 ≤ ·.1) ↔ ∀ f ∈ failures root dir, ∀ d ∈ duplicates disabled root dir, f.1 < d.1) := by
  intro errors
  have herrors : ((new l disabled).discover root dir).1.discoveryErrors = errors.map Prod.snd := by
    rw [List.map_append, map_snd_duplicates, failures, map_snd_placed]
    rcases (tookFirst_new l disabled).discover root dir with ⟨m', hm', _, herrors⟩ | ⟨⟨fault, hm'⟩, hnone⟩
    · rw [hm', herrors]
      rfl
    · rw [hm', Loader.containersIn, hnone]
      rfl
  refine ⟨herrors, ?_, fun i e => mem_placed_iff, fun i e => mem_duplicates_iff, pairwise_failures,
    pairwise_duplicates, ?_⟩
  · have hfresh := ((fresh_new l disabled).discover root dir).fresh
    rw [loadDirectory_eq]
    cases ((new l disabled).discover root dir).2 with
    | error e => rfl
    | ok n =>
      simp only [hfresh.loadAll_eq root, Except.map, Manager.report, herrors, List.map_map]
      rfl
  · rw [List.pairwise_append, and_iff_right pairwise_failures, and_iff_right pairwise_duplicates]
    refine forall₂_congr fun f hf => forall₂_congr fun d hd => ?_
    exact ⟨fun hle => Nat.lt_of_le_of_ne hle (place_ne hf hd), Nat.le_of_lt⟩

end Manager
end PluginHost
