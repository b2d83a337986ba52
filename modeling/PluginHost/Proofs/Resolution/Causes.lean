import PluginHost.Proofs.Resolution.Survey

/-!
# Causes of a survey

A survey blames a plugin for the first of its declarations that is rejected, in the order of declaration, and for no
other one (`find?_causes_survey`). What the cause tells is true of the declaration (`Rejection`).
-/

namespace PluginHost.Resolution

/-- How it is told that a required dependency is missing, or has a version that will not do. -/
inductive Rejection (given : PluginId → Option Container) (id : PluginId) (d : Dependency) : PluginError → Prop
  | missing (absent : given d.id = none) : Rejection given id d (.missingDependency id d.id)
  | incompatible {target : Container} (present : given d.id = some target)
      (refused : d.accepts target.version = false) :
      Rejection given id d (.incompatibleDependency id d.id d.requirement target.version)

/-- The first declaration of a plugin that is required and not accepted. -/
def FirstRejected (given : PluginId → Option Container) (id : PluginId) (d : Dependency) : Prop :=
  ∃ c before after, given id = some c ∧ c.dependencies = before ++ d :: after ∧
    (d.required = true ∧ ¬Accepted given d) ∧ ∀ d' ∈ before, ¬(d'.required = true ∧ ¬Accepted given d')

/-- The cause that a single declaration gives. -/
def rejection? (known : IdMap Container) (id : PluginId) (d : Dependency) : Option PluginError :=
  if d.required then
    match known.find? d.id with
    | none => some (.missingDependency id d.id)
    | some target =>
      if d.accepts target.version then none
      else some (.incompatibleDependency id d.id d.requirement target.version)
  else none

variable {known : IdMap Container} {s : Survey} {id x : PluginId} {d : Dependency} {e : PluginError}

/-! ## One declaration -/

theorem rejection_of_rejection? (h : rejection? known id d = some e) :
    Rejected known d ∧ Rejection known.find? id d e := by
  unfold rejection? at h
  split at h
  · rename_i hr
    split at h
    · rename_i hf
      obtain rfl := Option.some.inj h
      refine ⟨⟨hr, ?_⟩, .missing hf⟩
      rintro ⟨target, ht, _⟩
      rw [hf] at ht
      cases ht
    · rename_i target hf
      split at h
      · cases h
      · rename_i ha
        obtain rfl := Option.some.inj h
        refine ⟨⟨hr, ?_⟩, .incompatible hf (by simpa using ha)⟩
        rintro ⟨target', ht, ha'⟩
        obtain rfl := Option.some.inj (hf.symm.trans ht)
        exact ha ha'
  · cases h

/-- A declaration gives a cause exactly when it is rejected. -/
theorem rejection?_eq_none_iff : rejection? known id d = none ↔ ¬Rejected known d := by
  constructor
  · rintro h ⟨hr, hno⟩
    unfold rejection? at h
    rw [if_pos hr] at h
    split at h
    · cases h
    · rename_i target hf
      rw [if_neg (by simp [accepts_eq_false hf hno])] at h
      cases h
  · intro hno
    cases h : rejection? known id d with
    | none => rfl
    | some e => exact absurd (rejection_of_rejection? h).1 hno

/-! ## All declarations -/

theorem find?_causes_blame {cause : PluginError} : (s.blame id cause).causes.find? x =
    (s.causes.find? x).or (if x = id then some cause else none) := by
  unfold Survey.blame
  split
  · rename_i h
    split
    · rename_i hx
      subst hx
      obtain ⟨e, he⟩ := Option.isSome_iff_exists.mp h
      rw [he, Option.some_or]
    · rw [Option.or_none]
  · rename_i h
    rw [IdMap.find?_insert]
    split
    · rename_i hx
      subst hx
      rw [Option.not_isSome_iff_eq_none.mp h, Option.none_or]
    · rw [Option.or_none]

/-- A look blames the plugin for the cause that the declaration gives, if it gives one. -/
theorem causes_look : (s.look known id d).causes =
    match rejection? known id d with
    | some e => (s.blame id e).causes
    | none => s.causes := by
  unfold Survey.look rejection?
  cases known.find? d.id with
  | none => cases d.required <;> rfl
  | some target =>
    dsimp only
    cases d.accepts target.version with
    | false => cases d.required <;> rfl
    | true =>
      -- Adding the edge leaves the causes alone, whether the graph takes it or not.
      cases s.graph.addEdge id d.id d.required <;> cases d.required <;> rfl

theorem find?_causes_look : (s.look known id d).causes.find? x =
    (s.causes.find? x).or (if x = id then rejection? known id d else none) := by
  rw [causes_look]
  cases rejection? known id d with
  | none => simp
  | some e => exact find?_causes_blame

/-- The declarations of one plugin, one after the other. -/
theorem find?_causes_foldl_look : ∀ (ds : List Dependency) (s : Survey),
    (ds.foldl (Survey.look known id) s).causes.find? x =
      (s.causes.find? x).or (if x = id then ds.findSome? (rejection? known id) else none)
  | [], s => by simp
  | d :: ds, s => by
    rw [List.foldl_cons, find?_causes_foldl_look ds, find?_causes_look, Option.or_assoc, List.findSome?_cons]
    by_cases hx : x = id
    · simp only [hx, if_true]
      cases rejection? known id d <;> rfl
    · simp [hx]

/-- The plugins, one after the other. -/
theorem find?_causes_foldl : ∀ (l : List (PluginId × Container)) (s : Survey), (l.map Prod.fst).Nodup →
    (l.foldl (fun s p => p.2.dependencies.foldl (Survey.look known p.1) s) s).causes.find? x =
      (s.causes.find? x).or ((l.lookup x).bind fun c => c.dependencies.findSome? (rejection? known x))
  | [], s, _ => by simp
  | (k, c) :: l, s, hn => by
    obtain ⟨hk, hn⟩ := List.nodup_cons.mp hn
    rw [List.foldl_cons, find?_causes_foldl l _ hn, find?_causes_foldl_look, Keyed.lookup_cons, Option.or_assoc]
    by_cases hx : x = k
    · have hnone : l.lookup x = none := by
        cases hl : l.lookup x with
        | none => rfl
        | some c' => exact absurd (List.mem_map_of_mem ((IdMap.lookup_eq_some_iff hn).mp hl)) (hx ▸ hk)
      rw [hnone, if_pos hx, if_pos hx, hx]
      simp
    · simp [hx]

/-- A survey blames a plugin for the first of its declarations that gives a cause. -/
theorem find?_causes_survey : (survey known).causes.find? x =
    (known.find? x).bind fun c => c.dependencies.findSome? (rejection? known x) := by
  rw [survey, find?_causes_foldl known.entries _ known.nodup_keys, IdMap.find?_empty, Option.none_or]
  rfl

/-- The cause of a plugin tells the first declaration that is rejected. -/
theorem firstRejected_of_find?_causes (h : (survey known).causes.find? x = some e) :
    ∃ d, FirstRejected known.find? x d ∧ Rejection known.find? x d e := by
  rw [find?_causes_survey] at h
  obtain ⟨c, hc, h⟩ := Option.bind_eq_some_iff.mp h
  obtain ⟨before, d, after, hds, hd, hbefore⟩ := List.findSome?_eq_some_iff.mp h
  obtain ⟨hrej, hcause⟩ := rejection_of_rejection? hd
  exact ⟨d, ⟨c, before, after, hc, hds, hrej, fun d' hd' => rejection?_eq_none_iff.mp (hbefore d' hd')⟩, hcause⟩

end PluginHost.Resolution
