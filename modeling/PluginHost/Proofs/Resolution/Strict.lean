import PluginHost.Proofs.Resolution.Explanation

/-!
# Strict resolution

Strict resolution succeeds exactly when all that is required is accepted and nobody is on a cycle; otherwise it tells
the cause with the least rank and, among those, of the least plugin (`strict_exact`). When somebody is excluded there is
always such a cause, since the blame for a failure that was handed on leads to one (`firstCause?_eq_none_iff`).
-/

open Relation (TransGen)

namespace PluginHost.Resolution

variable {r : Resolution} {known : IdMap Container} {p q : PluginId} {e : PluginError} {n : Nat}

/-! ## The first cause -/

/-- The cause of a rank that belongs to the least plugin. -/
def firstOfRank? (r : Resolution) (n : Nat) : Option PluginError :=
  (r.excluded.entries.find? fun p => rank? p.2 = some n).map Prod.snd

/-- A cause is that of a plugin, and no cause comes before it: none has a lower rank, and none of its rank belongs to a
lesser plugin. -/
def FirstCause (r : Resolution) (p : PluginId) (n : Nat) (e : PluginError) : Prop :=
  r.excluded.find? p = some e ∧ rank? e = some n ∧
    ∀ q e' n', r.excluded.find? q = some e' → rank? e' = some n' → n < n' ∨ n = n' ∧ p ≤ q

theorem rank?_eq_none_iff : rank? e = none ↔ isRoot e = false := by
  cases e <;> simp [rank?, isRoot]

theorem rank?_le (h : rank? e = some n) : n ≤ 2 := by
  cases e <;> simp only [rank?, Option.some.injEq, reduceCtorEq] at h <;> omega

theorem firstOfRank?_eq_none_iff :
    r.firstOfRank? n = none ↔ ∀ q e, r.excluded.find? q = some e → rank? e ≠ some n := by
  rw [firstOfRank?, Option.map_eq_none_iff, List.find?_eq_none]
  constructor
  · exact fun h q e he => by simpa using h (q, e) (IdMap.mem_entries_iff.mpr he)
  · rintro h ⟨q, e⟩ he
    simpa using h q e (IdMap.mem_entries_iff.mp he)

theorem firstOfRank?_eq_some (h : r.firstOfRank? n = some e) : ∃ p, r.excluded.find? p = some e ∧ rank? e = some n ∧
    ∀ q e', r.excluded.find? q = some e' → rank? e' = some n → p ≤ q := by
  obtain ⟨⟨p, e'⟩, hfind, rfl⟩ := Option.map_eq_some_iff.mp h
  obtain ⟨hp, hrank, hleast⟩ := IdMap.find?_entries_least hfind
  exact ⟨p, hp, of_decide_eq_true hrank, fun q e' hq hr => hleast q e' hq (decide_eq_true hr)⟩

/-- With no cause of a lower rank, the first cause of a rank is the first of all. -/
theorem firstCause_of_rank (hlower : ∀ m < n, r.firstOfRank? m = none) (h : r.firstOfRank? n = some e) :
    ∃ p, r.FirstCause p n e := by
  obtain ⟨p, hp, hrank, hleast⟩ := firstOfRank?_eq_some h
  refine ⟨p, hp, hrank, fun q e' n' hq hr => ?_⟩
  rcases Nat.lt_trichotomy n n' with hlt | rfl | hgt
  · exact Or.inl hlt
  · exact Or.inr ⟨rfl, hleast q e' hq hr⟩
  · exact absurd hr (firstOfRank?_eq_none_iff.mp (hlower n' hgt) q e' hq)

theorem firstCause?_eq : r.firstCause? = (r.firstOfRank? 0).or ((r.firstOfRank? 1).or (r.firstOfRank? 2)) := by
  show (r.firstOfRank? 0 <|> r.firstOfRank? 1 <|> r.firstOfRank? 2) = _
  cases r.firstOfRank? 0 <;> cases r.firstOfRank? 1 <;> rfl

theorem firstCause_of_firstCause? (h : r.firstCause? = some e) : ∃ p n, r.FirstCause p n e := by
  rw [firstCause?_eq] at h
  cases h0 : r.firstOfRank? 0 with
  | some e0 =>
    obtain rfl : e0 = e := by simpa [h0] using h
    obtain ⟨p, hp⟩ := firstCause_of_rank (fun m hm => absurd hm (Nat.not_lt_zero m)) h0
    exact ⟨p, 0, hp⟩
  | none =>
    cases h1 : r.firstOfRank? 1 with
    | some e1 =>
      obtain rfl : e1 = e := by simpa [h0, h1] using h
      obtain ⟨p, hp⟩ := firstCause_of_rank (fun m hm => by rwa [Nat.lt_one_iff.mp hm]) h1
      exact ⟨p, 1, hp⟩
    | none =>
      have h2 : r.firstOfRank? 2 = some e := by simpa [h0, h1] using h
      obtain ⟨p, hp⟩ := firstCause_of_rank (fun m hm => by
        obtain rfl | rfl : m = 0 ∨ m = 1 := by omega
        · exact h0
        · exact h1) h2
      exact ⟨p, 2, hp⟩

/-- There is no cause of rank when nobody is excluded, and only then. -/
theorem firstCause?_eq_none_iff (h : Explains known r.excluded) : r.firstCause? = none ↔ r.excluded.keys = [] := by
  have hnone : r.firstCause? = none ↔ ∀ q e, r.excluded.find? q = some e → rank? e = none := by
    simp only [firstCause?_eq, Option.or_eq_none_iff, firstOfRank?_eq_none_iff]
    constructor
    · rintro ⟨h0, h1, h2⟩ q e he
      cases hr : rank? e with
      | none => rfl
      | some n =>
        have hle := rank?_le hr
        obtain rfl | rfl | rfl : n = 0 ∨ n = 1 ∨ n = 2 := by omega
        · exact absurd hr (h0 q e he)
        · exact absurd hr (h1 q e he)
        · exact absurd hr (h2 q e he)
    · intro hall
      exact ⟨fun q e he hr => by simp [hall q e he] at hr, fun q e he hr => by simp [hall q e he] at hr,
        fun q e he hr => by simp [hall q e he] at hr⟩
  rw [hnone]
  constructor
  · intro hall
    refine List.eq_nil_iff_forall_not_mem.mpr fun x hx => ?_
    obtain ⟨_, last, e, _, _, _, hlast, hroot⟩ := (h.grounded x hx).exists_walk
    rw [rank?_eq_none_iff.mp (hall last e hlast)] at hroot
    cases hroot
  · intro hnil q e he
    have hq : q ∈ r.excluded.keys := IdMap.mem_keys_iff.mpr ⟨e, he⟩
    rw [hnil] at hq
    cases hq

/-- A cycle that comes first is told from its least plugin. -/
theorem FirstCause.least_of_cycle (h : r.FirstCause p n e) (hr : Explains known r.excluded) {path : List PluginId}
    (he : e = .cycleDetected path) : path.head? = some p ∧ ∀ x ∈ path, p ≤ x := by
  subst he
  obtain ⟨hp, hrank, hleast⟩ := h
  obtain rfl : 2 = n := Option.some.inj hrank
  have hx := hr.explained p _ hp
  generalize hcause : PluginError.cycleDetected path = cause at hx
  cases hx with
  | rejected found =>
    obtain ⟨d, _, hd⟩ := firstRejected_of_find?_causes found
    subst hcause
    cases hd
  | handed fit requires => cases hcause
  | @cycle mid fit cycle members =>
    obtain rfl := PluginError.cycleDetected.inj hcause
    refine ⟨rfl, fun x hx => ?_⟩
    have hcases : x = p ∨ x ∈ mid := by
      simp only [List.mem_append, List.mem_cons, List.not_mem_nil, or_false] at hx
      tauto
    rcases hcases with rfl | hx
    · exact Std.le_refl x
    · obtain ⟨path', hpath'⟩ := members x hx
      exact ((hleast x _ 2 hpath' rfl).resolve_left (Nat.lt_irrefl 2)).2

/-! ## Success -/

/-- Nobody is excluded exactly when all that is required is accepted and nobody is on a cycle. -/
theorem Resolved.excluded_eq_nil_iff (h : Resolved known.find? r) : r.excluded.keys = [] ↔
    (∀ x d, Declares known.find? x d → d.required = true → Accepted known.find? d) ∧
      Acyclic (Demands known.find?) := by
  have hnil : r.excluded.keys = [] ↔ ∀ x, (∃ c, known.find? x = some c) → Resolvable known.find? x := by
    simp only [List.eq_nil_iff_forall_not_mem, h.excluded, not_and, not_not]
  rw [hnil]
  constructor
  · intro hall
    refine ⟨fun x d hd hr => ?_, fun x hx => ?_⟩
    · obtain ⟨c, hc, _⟩ := id hd
      exact (hall x ⟨c, hc⟩).accepted_of_declares hd hr
    · obtain ⟨y, ⟨d, ⟨c, hc, _⟩, _⟩, _⟩ := TransGen.head'_iff.mp hx
      exact not_resolvable_of_cycle follows_demands hx (hall x ⟨c, hc⟩)
  · rintro ⟨haccepted, hacyclic⟩
    refine resolvable_of_closed (fun _ h => h) (fun x d _ hd hr => ?_) fun x _ => hacyclic x
    have ha := haccepted x d hd hr
    obtain ⟨target, ht, _⟩ := id ha
    exact ⟨ha, target, ht⟩

theorem strict_eq_ok_iff {containers : List Container} :
    strict containers = .ok r ↔ r = ofContainers containers ∧ (ofContainers containers).firstCause? = none := by
  rw [strict]
  cases (ofContainers containers).firstCause? with
  | some cause => simp
  | none => simp [eq_comm]

theorem strict_eq_error_iff {containers : List Container} :
    strict containers = .error e ↔ (ofContainers containers).firstCause? = some e := by
  rw [strict]
  cases (ofContainers containers).firstCause? with
  | some cause => simp
  | none => simp

/-- Strict resolution succeeds exactly when every required dependency is given with a version that will do and nobody
is on a cycle of requirements; then nobody is excluded and every given plugin is ordered. Otherwise it tells the cause
of an excluded plugin that comes first by rank and plugin, which is not handed on; a cycle is told from its least one.
-/
theorem strict_exact (containers : List Container) :
    let given := latest? containers
    let r := ofContainers containers
    ((∃ r', strict containers = .ok r') ↔
      (∀ x d, Declares given x d → d.required = true → Accepted given d) ∧ Acyclic (Demands given)) ∧
    (∀ r', strict containers = .ok r' →
      r' = r ∧ r.excluded.keys = [] ∧ r.order.Perm (containers.map (·.id)).dedup) ∧
    ∀ e, strict containers = .error e → (∀ x y, e ≠ .dependencyFailed x y) ∧
      ∃ p n, r.FirstCause p n e ∧
        ∀ path, e = .cycleDetected path → path.head? = some p ∧ ∀ x ∈ path, p ≤ x := by
  intro given r
  have hresolved : Resolved (knownOf containers).find? r := by
    rw [find?_knownOf]
    exact resolved_ofContainers containers
  have hexplains : Explains (knownOf containers) r.excluded := explains_ofContainers containers
  have hok : ∀ r', strict containers = .ok r' ↔ r' = r ∧ r.excluded.keys = [] := by
    intro r'
    rw [strict_eq_ok_iff, ← firstCause?_eq_none_iff hexplains]
  refine ⟨?_, fun r' hr' => ?_, fun e he => ?_⟩
  · simp only [hok, exists_eq_left]
    rw [hresolved.excluded_eq_nil_iff, find?_knownOf]
  · obtain ⟨hr, hnil⟩ := (hok r').mp hr'
    refine ⟨hr, hnil, (List.perm_ext_iff_of_nodup hresolved.nodup_order (List.nodup_dedup _)).mpr fun x => ?_⟩
    have hx : x ∉ r.excluded.keys := by simp [hnil]
    rw [hresolved.excluded, find?_knownOf] at hx
    rw [hresolved.mem_order_iff, find?_knownOf, List.mem_dedup, List.mem_map, ← exists_latest?_iff]
    constructor
    · intro hx
      cases hx with
      | intro found _ _ => exact ⟨_, found⟩
    · exact fun hgiven => by_contra fun hno => hx ⟨hgiven, hno⟩
  · obtain ⟨p, n, hfirst⟩ := firstCause_of_firstCause? (strict_eq_error_iff.mp he)
    refine ⟨?_, p, n, hfirst, fun path => hfirst.least_of_cycle hexplains⟩
    rintro x y rfl
    cases hfirst.2.1

end PluginHost.Resolution
