import PluginHost.Proofs.Resolution.Strict

/-!
# Which error strict resolution tells

A plugin is blamed for the first of its declarations that is rejected, and for no other one. So missing dependencies
come before versions that will not do among the plugins, but not among the declarations of one plugin: what is told as
missing is what a plugin is blamed for, and a missing dependency behind a rejected version is passed over
(`strict_precedence`).

* `find?_excluded_of_firstRejected`: the cause that a first rejected declaration gives is told in the end.
* `exists_firstCause`: when a cause has a rank, the error that is told has no greater one.
-/

namespace PluginHost.Resolution

variable {containers : List Container} {given : PluginId → Option Container} {known : IdMap Container}
  {excluded : IdMap PluginError} {x p : PluginId} {d : Dependency} {e : PluginError} {n : Nat}

/-- A plugin requires one that is not there. -/
def Lacks (given : PluginId → Option Container) (x : PluginId) : Prop :=
  ∃ d, Declares given x d ∧ d.required = true ∧ given d.id = none

/-- A plugin requires one that is there with a version that will not do. -/
def Refuses (given : PluginId → Option Container) (x : PluginId) : Prop :=
  ∃ d target, Declares given x d ∧ d.required = true ∧ given d.id = some target ∧ d.accepts target.version = false

/-- The first declaration of a plugin that is rejected requires a plugin that is not there. -/
def FirstLacks (given : PluginId → Option Container) (x : PluginId) : Prop :=
  ∃ d, FirstRejected given x d ∧ given d.id = none

/-- A plugin is the least one of a kind. -/
def Least (P : PluginId → Prop) (p : PluginId) : Prop := P p ∧ ∀ q, P q → p ≤ q

/-! ## The cause of a plugin -/

theorem Rejection.rank?_eq_zero_iff (h : Rejection given x d e) : rank? e = some 0 ↔ given d.id = none := by
  cases h with
  | missing absent => simp [rank?, absent]
  | incompatible present _ => simp [rank?, present]

/-- What a declaration is rejected for comes before cycles. -/
theorem Rejection.exists_rank (h : Rejection given x d e) : ∃ n < 2, rank? e = some n := by
  cases h with
  | missing _ => exact ⟨0, by omega, rfl⟩
  | incompatible _ _ => exact ⟨1, by omega, rfl⟩

/-- A cause that comes before cycles is that of the first declaration that is rejected. -/
theorem Explains.firstRejected_of_rank (h : Explains known excluded) (he : excluded.find? x = some e)
    (hr : rank? e = some n) (hn : n < 2) : ∃ d, FirstRejected known.find? x d ∧ Rejection known.find? x d e := by
  cases h.explained x e he with
  | rejected found => exact firstRejected_of_find?_causes found
  | cycle _ _ _ =>
    obtain rfl := Option.some.inj hr
    exact absurd hn (Nat.lt_irrefl 2)
  | handed _ _ => cases hr

/-- The cause of a survey is kept to the end. -/
theorem find?_excluded_of_find?_causes (h : (survey (knownOf containers)).causes.find? x = some e) :
    (ofContainers containers).excluded.find? x = some e := by
  have hx : x ∈ (survey (knownOf containers)).causes.keys := IdMap.mem_keys_iff.mpr ⟨e, h⟩
  obtain ⟨e', he'⟩ := IdMap.mem_keys_iff.mp ((resolving_ofContainers containers).1.causes x hx)
  cases (explains_ofContainers containers).explained x e' he' with
  | rejected found => rw [he', ← found, h]
  | cycle fit _ _ => exact absurd hx fit
  | handed fit _ => exact absurd hx fit

/-- The cause that a first rejected declaration gives is told in the end. -/
theorem find?_excluded_of_firstRejected (h : FirstRejected (knownOf containers).find? x d) :
    ∃ e, (ofContainers containers).excluded.find? x = some e ∧ Rejection (knownOf containers).find? x d e := by
  obtain ⟨c, before, after, hc, hds, hd, hbefore⟩ := h
  obtain ⟨e, he⟩ := Option.ne_none_iff_exists'.mp (mt rejection?_eq_none_iff.mp (not_not.mpr hd) :
    rejection? (knownOf containers) x d ≠ none)
  have hnone : before.findSome? (rejection? (knownOf containers) x) = none :=
    List.findSome?_eq_none_iff.mpr fun d' hd' => rejection?_eq_none_iff.mpr (hbefore d' hd')
  refine ⟨e, find?_excluded_of_find?_causes ?_, (rejection_of_rejection? he).2⟩
  rw [find?_causes_survey, hc, Option.bind_some, hds, List.findSome?_append, hnone, Option.none_or,
    List.findSome?_cons, he]

/-- A plugin with a declaration that is rejected has a cause that comes before cycles. -/
theorem exists_rank_of_rejected (hd : Declares (knownOf containers).find? x d) (hr : d.required = true)
    (hno : ¬Accepted (knownOf containers).find? d) : ∃ e d', (ofContainers containers).excluded.find? x = some e ∧
      FirstRejected (knownOf containers).find? x d' ∧ Rejection (knownOf containers).find? x d' e := by
  have hx : x ∈ (survey (knownOf containers)).causes.keys :=
    ((surveyed_survey _).causes x).mpr ⟨d, mem_declarations.mpr hd, hr, hno⟩
  obtain ⟨e, he⟩ := IdMap.mem_keys_iff.mp hx
  obtain ⟨d', hfirst, hrej⟩ := firstRejected_of_find?_causes he
  exact ⟨e, d', find?_excluded_of_find?_causes he, hfirst, hrej⟩

theorem Lacks.rejected (h : Lacks given x) : ∃ d, Declares given x d ∧ d.required = true ∧ ¬Accepted given d := by
  obtain ⟨d, hd, hr, hnone⟩ := h
  refine ⟨d, hd, hr, ?_⟩
  rintro ⟨target, ht, _⟩
  rw [hnone] at ht
  cases ht

theorem Refuses.rejected (h : Refuses given x) : ∃ d, Declares given x d ∧ d.required = true ∧ ¬Accepted given d := by
  obtain ⟨d, target, hd, hr, ht, hno⟩ := h
  refine ⟨d, hd, hr, ?_⟩
  rintro ⟨target', ht', ha⟩
  obtain rfl := Option.some.inj (ht.symm.trans ht')
  rw [hno] at ha
  cases ha

theorem FirstRejected.declares (h : FirstRejected given x d) : Declares given x d ∧ d.required = true := by
  obtain ⟨c, before, after, hc, hds, hd, _⟩ := h
  exact ⟨⟨c, hc, by simp [hds]⟩, hd.1⟩

theorem FirstLacks.lacks (h : FirstLacks given x) : Lacks given x := by
  obtain ⟨d, hd, hnone⟩ := h
  exact ⟨d, hd.declares.1, hd.declares.2, hnone⟩

/-! ## The error -/

/-- When a cause has a rank, the error that is told has no greater one. -/
theorem exists_firstCause (he : (ofContainers containers).excluded.find? x = some e) (hr : rank? e = some n) :
    ∃ p m e', (ofContainers containers).FirstCause p m e' ∧ strict containers = .error e' ∧ m ≤ n := by
  have hx : (ofContainers containers).excluded.keys ≠ [] :=
    List.ne_nil_of_mem (IdMap.mem_keys_iff.mpr ⟨e, he⟩)
  obtain ⟨e', he'⟩ := Option.ne_none_iff_exists'.mp
    (mt (firstCause?_eq_none_iff (explains_ofContainers containers)).mp hx)
  obtain ⟨p, m, hfirst⟩ := firstCause_of_firstCause? he'
  refine ⟨p, m, e', hfirst, strict_eq_error_iff.mpr he', ?_⟩
  rcases hfirst.2.2 x e n he hr with hlt | ⟨rfl, _⟩
  · exact Nat.le_of_lt hlt
  · exact Nat.le_refl m

/-- A missing dependency that a plugin is blamed for is told, that of the least plugin. -/
theorem strict_of_firstLacks (h : FirstLacks (knownOf containers).find? x) :
    ∃ p d, Least (FirstLacks (knownOf containers).find?) p ∧ FirstRejected (knownOf containers).find? p d ∧
      (knownOf containers).find? d.id = none ∧ strict containers = .error (.missingDependency p d.id) := by
  have hcause : ∀ q, FirstLacks (knownOf containers).find? q →
      ∃ e, (ofContainers containers).excluded.find? q = some e ∧ rank? e = some 0 := by
    rintro q ⟨d, hd, hnone⟩
    obtain ⟨e, he, hrej⟩ := find?_excluded_of_firstRejected hd
    exact ⟨e, he, hrej.rank?_eq_zero_iff.mpr hnone⟩
  obtain ⟨e, he, hrank⟩ := hcause x h
  obtain ⟨p, m, e', hfirst, hstrict, hm⟩ := exists_firstCause he hrank
  obtain rfl : m = 0 := by omega
  obtain ⟨d, hd, hrej⟩ :=
    (explains_ofContainers containers).firstRejected_of_rank hfirst.1 hfirst.2.1 (by omega : 0 < 2)
  have hnone := hrej.rank?_eq_zero_iff.mp hfirst.2.1
  refine ⟨p, d, ⟨⟨d, hd, hnone⟩, fun q hq => ?_⟩, hd, hnone, ?_⟩
  · obtain ⟨e₁, he₁, hr₁⟩ := hcause q hq
    exact ((hfirst.2.2 q e₁ 0 he₁ hr₁).resolve_left (Nat.lt_irrefl 0)).2
  · cases hrej with
    | missing _ => exact hstrict
    | incompatible present _ =>
      rw [hnone] at present
      cases present

/-- When nobody is blamed for a missing dependency, a version that will not do is told, that of the least plugin. -/
theorem strict_of_refuses (hno : ∀ y, ¬FirstLacks (knownOf containers).find? y)
    (h : Refuses (knownOf containers).find? x) :
    ∃ p d target, Least (Refuses (knownOf containers).find?) p ∧ FirstRejected (knownOf containers).find? p d ∧
      (knownOf containers).find? d.id = some target ∧
      strict containers = .error (.incompatibleDependency p d.id d.requirement target.version) := by
  have hcause : ∀ q, Refuses (knownOf containers).find? q →
      ∃ e, (ofContainers containers).excluded.find? q = some e ∧ rank? e = some 1 := by
    intro q hq
    obtain ⟨d, hd, hr, hrejected⟩ := hq.rejected
    obtain ⟨e, d', he, hfirst, hrej⟩ := exists_rank_of_rejected hd hr hrejected
    refine ⟨e, he, ?_⟩
    cases hrej with
    | missing absent => exact absurd ⟨d', hfirst, absent⟩ (hno q)
    | incompatible _ _ => rfl
  obtain ⟨e, he, hrank⟩ := hcause x h
  obtain ⟨p, m, e', hfirst, hstrict, hm⟩ := exists_firstCause he hrank
  obtain ⟨d, hd, hrej⟩ :=
    (explains_ofContainers containers).firstRejected_of_rank hfirst.1 hfirst.2.1 (by omega : m < 2)
  cases hrej with
  | missing absent => exact absurd ⟨d, hd, absent⟩ (hno p)
  | @incompatible target present refused =>
    obtain rfl := Option.some.inj hfirst.2.1
    have hp : Refuses (knownOf containers).find? p := ⟨d, target, hd.declares.1, hd.declares.2, present, refused⟩
    refine ⟨p, d, target, ⟨hp, fun q hq => ?_⟩, hd, present, hstrict⟩
    obtain ⟨e₁, he₁, hr₁⟩ := hcause q hq
    exact ((hfirst.2.2 q e₁ 1 he₁ hr₁).resolve_left (Nat.lt_irrefl 1)).2

/-- A cycle is told only when all that is required is accepted. -/
theorem strict_ne_cycle (hd : Declares (knownOf containers).find? x d) (hr : d.required = true)
    (hno : ¬Accepted (knownOf containers).find? d) (path : List PluginId) :
    strict containers ≠ .error (.cycleDetected path) := by
  intro hcycle
  obtain ⟨e, d', he, _, hrej⟩ := exists_rank_of_rejected hd hr hno
  obtain ⟨n, hn, hrank⟩ := hrej.exists_rank
  obtain ⟨p, m, e', hfirst, hstrict, hm⟩ := exists_firstCause he hrank
  obtain rfl := Except.error.inj (hstrict.symm.trans hcycle)
  obtain rfl := Option.some.inj hfirst.2.1
  omega

/-- The precedence of errors. If somebody is blamed for a missing dependency, the least such plugin is told, with its
first declaration that is rejected. If nobody is, as when nothing is missing, but a version will not do, the least
plugin that refuses one is told. A cycle is told only when neither is there. The least plugin that lacks a dependency
is told with it exactly when it declares no version that will not do before. -/
theorem strict_precedence (containers : List Container) :
    let given := latest? containers
    ((∃ x, FirstLacks given x) → ∃ p d, Least (FirstLacks given) p ∧ FirstRejected given p d ∧ given d.id = none ∧
      strict containers = .error (.missingDependency p d.id)) ∧
    ((∀ x, ¬FirstLacks given x) → (∃ x, Refuses given x) →
      ∃ p d target, Least (Refuses given) p ∧ FirstRejected given p d ∧ given d.id = some target ∧
        strict containers = .error (.incompatibleDependency p d.id d.requirement target.version)) ∧
    (∀ path, strict containers = .error (.cycleDetected path) → ∀ x, ¬Lacks given x ∧ ¬Refuses given x) ∧
    ∀ p, Least (Lacks given) p →
      ((∃ d, strict containers = .error (.missingDependency p d)) ↔ FirstLacks given p) := by
  rw [← find?_knownOf]
  intro given
  refine ⟨?_, ?_, fun path hpath x => ⟨fun hx => ?_, fun hx => ?_⟩, fun p hp => ⟨?_, fun hfirst => ?_⟩⟩
  · rintro ⟨x, hx⟩
    exact strict_of_firstLacks hx
  · rintro hno ⟨x, hx⟩
    exact strict_of_refuses hno hx
  · obtain ⟨d, hd, hr, hno⟩ := hx.rejected
    exact strict_ne_cycle hd hr hno path hpath
  · obtain ⟨d, hd, hr, hno⟩ := hx.rejected
    exact strict_ne_cycle hd hr hno path hpath
  · rintro ⟨dependency, hstrict⟩
    obtain ⟨q, n, hfirst⟩ := firstCause_of_firstCause? (strict_eq_error_iff.mp hstrict)
    obtain rfl := Option.some.inj hfirst.2.1
    obtain ⟨d, hd, hrej⟩ :=
      (explains_ofContainers containers).firstRejected_of_rank hfirst.1 hfirst.2.1 (by omega : 0 < 2)
    cases hrej with
    | missing absent => exact ⟨d, hd, absent⟩
  · obtain ⟨q, d, hq, _, _, hstrict⟩ := strict_of_firstLacks hfirst
    -- Who is blamed for a missing dependency lacks one, so both are the least plugin.
    obtain rfl : q = p := String.le_antisymm (hq.2 p hfirst) (hp.2 q hq.1.lacks)
    exact ⟨d.id, hstrict⟩

-- A plugin that lacks a dependency is told with a version that will not do, which it declares before.
example :
    let range : VersionRange :=
      { text := "^2", requirement := ⟨[{ op := .caret, major := 2, precision := .major }]⟩, declared := by cbv }
    let a : Manifest :=
      { id := "a", version := "1.0.0", dependencies := [{ id := "b", version := range }, { id := "c" }] }
    let b : Manifest := { id := "b", version := "1.0.0" }
    strict [{ manifest := a }, { manifest := b }] =
      .error (.incompatibleDependency "a" "b" "version ^2" "1.0.0") := by
  cbv

end PluginHost.Resolution
