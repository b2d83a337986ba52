import PluginHost.Proofs.Plugin.Artifact

/-!
# Checked manifests

What a check asks of a manifest (`Manifest.Acceptable`) and the fault it tells when it is not met, the one of the id
before the one of the version before the one of the dependencies (`Manifest.Offends`). What passes comes out in a normal
form (`Manifest.Normal`), which a further check leaves as it is.

* `declared_eq_ok_iff`: what is read from a document is what its plugins state.
* `check_cases`: a manifest is acceptable and comes out with its id trimmed and its defaults filled in, or it offends
  and its fault is told; no other is (`check_eq_error_iff`).
* `Normal.check`: a manifest in normal form comes out as it went in.
* `parseAll_all_or_nothing`: a text gives the normal forms of all plugins that it declares, or the fault of the first
  one that offends.
-/

namespace PluginHost

theorem Text.trim_eq_self {s : String} (h : ∀ ch ∈ s.toList, isBlank ch = false) : trim s = s := by
  rw [trim, trimChars_eq_self h, String.ofList_toList]

/-! ## Documents -/

/-- The documents of the plugins that a document declares: the items of its list of plugins, or else the document
itself. There are none when it has plugins that are no list. -/
def Document.plugins? : Document → Option (List Document)
  | .table fields =>
    match Document.field? "plugins" fields with
    | some (.list items) => some items
    | some _ => none
    | none => some [.table fields]
  | d => some [d]

namespace Manifest

variable {m : Manifest} {path : Path} {content : String} {given : List Manifest}

theorem map_singleton_eq_ok_iff {d : Document} :
    (ofDocument d).map (fun m => [m]) = .ok given ↔ List.Forall₂ Stated [d] given := by
  rw [List.forall₂_cons_left_iff]
  constructor
  · intro h
    cases hd : ofDocument d with
    | error fault => rw [hd] at h; cases h
    | ok m =>
      rw [hd] at h
      exact ⟨m, [], (ofDocument_decides d m).mp hd, .nil, (Except.ok.inj h).symm⟩
  · rintro ⟨m, rest, hd, hrest, rfl⟩
    obtain rfl := List.forall₂_nil_left_iff.mp hrest
    rw [(ofDocument_decides d m).mpr hd]
    rfl

theorem declared_eq_ok_iff {d : Document} :
    declared d = .ok given ↔ ∃ items, d.plugins? = some items ∧ List.Forall₂ Stated items given := by
  have hsingle : (ofDocument d).map (fun m => [m]) = .ok given ↔ _ := map_singleton_eq_ok_iff
  cases d with
  | table fields =>
    cases hplugins : Document.field? "plugins" fields with
    | none =>
      simpa only [declared, Document.plugins?, hplugins, Option.some.injEq, exists_eq_left', ofDocument] using hsingle
    | some plugins =>
      simp only [declared, Document.plugins?, hplugins]
      cases plugins with
      | list items => simp [Decoder.list, Decoder.items_eq_ok_iff ofDocument_decides]
      | _ => simp [Decoder.list, Decoder.refuse]
  | _ => simpa only [declared, Document.plugins?, Option.some.injEq, exists_eq_left'] using hsingle

/-- A text declares manifests: it is a document of the format that its path tells, and its plugins state these
manifests, in their order. -/
def Declares (path : Path) (content : String) (given : List Manifest) : Prop :=
  ∃ format d items, Format.ofPath? path = some format ∧ Document.read? format content = some d ∧
    d.plugins? = some items ∧ List.Forall₂ Stated items given

theorem parseAll_of_declares (h : Declares path content given) (hne : given ≠ []) :
    parseAll path content = (checkAll given).mapError (.malformedManifest path) := by
  obtain ⟨format, d, items, hformat, hd, hitems, hgiven⟩ := h
  have hdeclared : declared d = .ok given := declared_eq_ok_iff.mpr ⟨items, hitems, hgiven⟩
  have hdeclaration : ofDeclaration d = checkAll given := by
    cases given with
    | nil => exact absurd rfl hne
    | cons m more => simp only [ofDeclaration, hdeclared]
  simp only [parseAll, ofText, hformat, hd, hdeclaration]
  cases checkAll given <;> rfl

theorem declares_of_parseAll {ms : List Manifest} (h : parseAll path content = .ok ms) :
    ms ≠ [] ∧ ∃ given, Declares path content given ∧ given ≠ [] := by
  obtain ⟨format, d, hformat, hd, hms⟩ := exists_of_parseAll h
  have hne : ms ≠ [] := ofDeclaration_ne_nil hms
  obtain ⟨given, hgiven, hchecked⟩ := forall₂_ofDeclaration hms
  obtain ⟨items, hitems, hgiven⟩ := declared_eq_ok_iff.mp hgiven
  refine ⟨hne, given, ⟨format, d, items, hformat, hd, hitems, hgiven⟩, ?_⟩
  rintro rfl
  exact hne (List.forall₂_nil_left_iff.mp hchecked)

/-! ## Repeated dependencies -/

theorem repeatedId?_eq_none : ∀ {ds : List Dependency} {seen : List PluginId}, repeatedId? seen ds = none →
    (ds.map (·.id)).Nodup ∧ ∀ d ∈ ds, d.id ∉ seen
  | [], _, _ => ⟨List.nodup_nil, fun _ hd => (nomatch hd)⟩
  | d :: ds, seen, h => by
    rw [repeatedId?] at h
    split at h
    · cases h
    · rename_i hd
      obtain ⟨hnodup, hfresh⟩ := repeatedId?_eq_none h
      refine ⟨List.nodup_cons.mpr ⟨fun hmem => ?_, hnodup⟩, fun e he => ?_⟩
      · obtain ⟨e, he, hid⟩ := List.mem_map.mp hmem
        exact hfresh e he (hid ▸ List.mem_cons_self)
      · rcases List.mem_cons.mp he with rfl | he
        · exact hd
        · exact fun hseen => hfresh e he (List.mem_cons_of_mem _ hseen)

/-- The dependency that is found is the first that has the id of one before it. -/
theorem repeatedId?_eq_some {i : PluginId} : ∀ {ds : List Dependency} {seen : List PluginId},
    repeatedId? seen ds = some i → ∃ before d after, ds = before ++ d :: after ∧ d.id = i ∧
      (before.map (·.id)).Nodup ∧ (∀ e ∈ before, e.id ∉ seen) ∧ (i ∈ seen ∨ i ∈ before.map (·.id))
  | [], _, h => nomatch h
  | d :: ds, seen, h => by
    rw [repeatedId?] at h
    split at h
    · rename_i hd
      obtain rfl := Option.some.inj h
      exact ⟨[], d, ds, rfl, rfl, List.nodup_nil, fun _ he => (nomatch he), Or.inl hd⟩
    · rename_i hd
      obtain ⟨before, e, after, rfl, hid, hnodup, hfresh, hrepeated⟩ := repeatedId?_eq_some h
      refine ⟨d :: before, e, after, rfl, hid, List.nodup_cons.mpr ⟨fun hmem => ?_, hnodup⟩, fun b hb => ?_, ?_⟩
      · obtain ⟨b, hb, hbid⟩ := List.mem_map.mp hmem
        exact hfresh b hb (hbid ▸ List.mem_cons_self)
      · rcases List.mem_cons.mp hb with rfl | hb
        · exact hd
        · exact fun hseen => hfresh b hb (List.mem_cons_of_mem _ hseen)
      · rcases hrepeated with hseen | hbefore
        · rcases List.mem_cons.mp hseen with rfl | hseen
          · exact Or.inr List.mem_cons_self
          · exact Or.inl hseen
        · exact Or.inr (List.mem_cons_of_mem _ hbefore)

theorem repeatedId?_append {d : Dependency} {after : List Dependency} : ∀ {before : List Dependency}
    {seen : List PluginId}, (before.map (·.id)).Nodup → (∀ e ∈ before, e.id ∉ seen) →
    (d.id ∈ seen ∨ d.id ∈ before.map (·.id)) → repeatedId? seen (before ++ d :: after) = some d.id
  | [], seen, _, _, h => by
    have hseen : d.id ∈ seen := h.resolve_right (List.not_mem_nil)
    rw [List.nil_append, repeatedId?, if_pos hseen]
  | b :: before, seen, hnodup, hfresh, h => by
    obtain ⟨hb, hnodup⟩ := List.nodup_cons.mp hnodup
    obtain ⟨hbseen, hfresh⟩ := List.forall_mem_cons.mp hfresh
    rw [List.cons_append, repeatedId?, if_neg hbseen]
    refine repeatedId?_append hnodup (fun e he hmem => ?_) ?_
    · rcases List.mem_cons.mp hmem with heq | hmem
      · exact hb (List.mem_map.mpr ⟨e, he, heq⟩)
      · exact hfresh e he hmem
    · rcases h with hseen | hbefore
      · exact Or.inl (List.mem_cons_of_mem _ hseen)
      · rcases List.mem_cons.mp hbefore with heq | hbefore
        · exact Or.inl (heq ▸ List.mem_cons_self)
        · exact Or.inr hbefore

/-! ## One manifest -/

/-- A text that can be the id of a plugin. -/
structure IsId (id : PluginId) : Prop where
  ne_empty : id ≠ ""
  no_blank : ∀ ch ∈ id.toList, Text.isBlank ch = false

/-- What is asked of a manifest. -/
structure Acceptable (m : Manifest) : Prop where
  id : IsId (Text.trim m.id)
  version : ∃ v, Version.parse m.version = .ok v
  dependencies : (m.dependencies.map (·.id)).Nodup

/-- What is wrong with a manifest, first its id, then its version, then its dependencies. -/
inductive Offends (m : Manifest) : ManifestFault → Prop
  | emptyId : Text.trim m.id = "" → Offends m .emptyId
  | blankInId {ch : Char} : ch ∈ (Text.trim m.id).toList → Text.isBlank ch = true →
      Offends m (.blankInId (Text.trim m.id))
  | badVersion {e : VersionError} : IsId (Text.trim m.id) → Version.parse m.version = .error e →
      Offends m (.badVersion (Text.trim m.id) e)
  /-- Of all that are declared again, the first is told. -/
  | repeatedDependency {v : Version} {before after : List Dependency} {d : Dependency} :
      IsId (Text.trim m.id) → Version.parse m.version = .ok v → m.dependencies = before ++ d :: after →
      (before.map (·.id)).Nodup → d.id ∈ before.map (·.id) →
      Offends m (.repeatedDependency (Text.trim m.id) d.id)

/-- A manifest as a check leaves it. -/
structure Normal (m : Manifest) : Prop where
  id : IsId m.id
  version : ∃ v, Version.parse m.version = .ok v
  dependencies : (m.dependencies.map (·.id)).Nodup
  name : m.name ≠ ""
  entryPoint : m.entryPoint ≠ ""

/-- A manifest with its id trimmed, and with its name and entry point if it had none. -/
def normalised (m : Manifest) : Manifest := m.withDefaults (Text.trim m.id)

theorem Offends.not_acceptable {fault : ManifestFault} (h : m.Offends fault) : ¬ m.Acceptable := by
  intro ha
  cases h with
  | emptyId hempty => exact ha.id.ne_empty hempty
  | blankInId hmem hblank => exact Bool.noConfusion (hblank.symm.trans (ha.id.no_blank _ hmem))
  | badVersion _ he =>
    obtain ⟨v, hv⟩ := ha.version
    cases he.symm.trans hv
  | repeatedDependency _ _ hdeps _ hrepeated =>
    have hnodup := ha.dependencies
    rw [hdeps, List.map_append, List.map_cons, List.nodup_append] at hnodup
    exact hnodup.2.2 _ hrepeated _ List.mem_cons_self rfl

/-- A manifest passes its check in its normal form, or what is wrong with it is told. -/
theorem check_cases (m : Manifest) :
    m.Acceptable ∧ m.check = .ok m.normalised ∨ ∃ fault, m.Offends fault ∧ m.check = .error fault := by
  unfold check
  extract_lets id
  split
  · rename_i hempty
    exact Or.inr ⟨_, .emptyId hempty, rfl⟩
  rename_i hne
  split
  · rename_i hany
    obtain ⟨ch, hch, hblank⟩ := List.any_eq_true.mp hany
    exact Or.inr ⟨_, .blankInId hch hblank, rfl⟩
  rename_i hblank
  have hid : IsId id := ⟨hne, fun ch hch => by
    cases hb : Text.isBlank ch with
    | false => rfl
    | true => exact absurd (List.any_eq_true.mpr ⟨ch, hch, hb⟩) hblank⟩
  split
  · rename_i e he
    exact Or.inr ⟨_, .badVersion hid he, rfl⟩
  rename_i v hv
  split
  · rename_i i hi
    obtain ⟨before, d, after, hdeps, rfl, hnodup, -, hrepeated⟩ := repeatedId?_eq_some hi
    exact Or.inr ⟨_, .repeatedDependency hid hv hdeps hnodup (by simpa using hrepeated), rfl⟩
  · rename_i hnone
    exact Or.inl ⟨⟨hid, ⟨v, hv⟩, (repeatedId?_eq_none hnone).1⟩, rfl⟩

theorem IsId.any_isBlank {id : PluginId} (h : IsId id) : id.toList.any Text.isBlank = false :=
  List.any_eq_false.mpr fun ch hch => by simp [h.no_blank ch hch]

theorem Offends.check {fault : ManifestFault} (h : m.Offends fault) : m.check = .error fault := by
  cases h with
  | emptyId hempty => simp only [Manifest.check, hempty, if_true]
  | blankInId hch hblank =>
    have hne : Text.trim m.id ≠ "" := fun hempty => by simp [hempty] at hch
    have hany : (Text.trim m.id).toList.any Text.isBlank = true := List.any_eq_true.mpr ⟨_, hch, hblank⟩
    simp only [Manifest.check, hne, hany, if_true, if_false]
  | badVersion hid he => simp [Manifest.check, hid.ne_empty, hid.any_isBlank, he]
  | @repeatedDependency v before after d hid hv hdeps hnodup hrepeated =>
    have hfound : repeatedId? [] (before ++ d :: after) = some d.id :=
      repeatedId?_append hnodup (fun _ _ => List.not_mem_nil) (Or.inr hrepeated)
    simp [Manifest.check, hid.ne_empty, hid.any_isBlank, hv, hdeps, hfound]

/-- What is told is what is wrong. -/
theorem check_eq_error_iff {fault : ManifestFault} : m.check = .error fault ↔ m.Offends fault := by
  refine ⟨fun h => ?_, Offends.check⟩
  rcases m.check_cases with ⟨-, hcheck⟩ | ⟨fault', hfault, hcheck⟩
  · cases hcheck.symm.trans h
  · obtain rfl := Except.error.inj (hcheck.symm.trans h)
    exact hfault

theorem Acceptable.check (h : m.Acceptable) : m.check = .ok m.normalised := by
  rcases m.check_cases with ⟨-, hcheck⟩ | ⟨fault, hfault, -⟩
  · exact hcheck
  · exact absurd h hfault.not_acceptable

theorem Acceptable.normal (h : m.Acceptable) : m.normalised.Normal where
  id := h.id
  version := h.version
  dependencies := h.dependencies
  name := by
    by_cases hname : m.name = "" <;> simp [normalised, withDefaults, hname, h.id.ne_empty]
  entryPoint := by
    by_cases hentry : m.entryPoint = "" <;> simp [normalised, withDefaults, hentry, h.id.ne_empty]

/-- A check leaves a manifest in normal form as it is. -/
theorem Normal.check (h : m.Normal) : m.check = .ok m := by
  have htrim : Text.trim m.id = m.id := Text.trim_eq_self h.id.no_blank
  have hself : m.normalised = m := by simp [normalised, withDefaults, htrim, h.name, h.entryPoint]
  have hacceptable : m.Acceptable := ⟨htrim.symm ▸ h.id, h.version, h.dependencies⟩
  rw [hacceptable.check, hself]

/-! ## All manifests of a text -/

/-- All manifests pass, or the first one that offends stops the check of all. -/
theorem checkAll_cases : ∀ ms : List Manifest,
    (∀ m ∈ ms, m.Acceptable) ∧ checkAll ms = .ok (ms.map normalised) ∨
      ∃ before m after fault, ms = before ++ m :: after ∧ (∀ b ∈ before, b.Acceptable) ∧ m.Offends fault ∧
        checkAll ms = .error fault
  | [] => Or.inl ⟨fun _ hm => (nomatch hm), rfl⟩
  | m :: ms => by
    rcases m.check_cases with ⟨ha, hcheck⟩ | ⟨fault, hfault, hcheck⟩
    · rcases checkAll_cases ms with ⟨hall, hms⟩ | ⟨before, m', after, fault, rfl, hbefore, hfault, hms⟩
      · refine Or.inl ⟨List.forall_mem_cons.mpr ⟨ha, hall⟩, ?_⟩
        simp only [checkAll, hcheck, hms]
        rfl
      · refine Or.inr ⟨m :: before, m', after, fault, rfl, List.forall_mem_cons.mpr ⟨ha, hbefore⟩, hfault, ?_⟩
        simp only [checkAll, hcheck, hms]
        rfl
    · refine Or.inr ⟨[], m, ms, fault, rfl, fun _ hb => (nomatch hb), hfault, ?_⟩
      simp only [checkAll, hcheck]
      rfl

/-- A text gives the normal forms of all plugins that it declares, in their order. One that offends keeps all of them
back, and of several the fault of the first is told. -/
theorem parseAll_all_or_nothing (path : Path) (content : String) :
    (∀ ms, parseAll path content = .ok ms →
      ms ≠ [] ∧ (∃ given, Declares path content given ∧ ms = given.map normalised) ∧
        ∀ m ∈ ms, m.Normal ∧ m.validate path = .ok m) ∧
    ∀ given, Declares path content given → given ≠ [] →
      ((∀ m ∈ given, m.Acceptable) → parseAll path content = .ok (given.map normalised)) ∧
      ((∃ m ∈ given, ¬ m.Acceptable) → ∃ before m after fault, given = before ++ m :: after ∧
        (∀ b ∈ before, b.Acceptable) ∧ m.Offends fault ∧
        parseAll path content = .error (.malformedManifest path fault)) := by
  refine ⟨fun ms h => ?_, fun given hgiven hne => ?_⟩
  · obtain ⟨hne, given, hgiven, hne'⟩ := declares_of_parseAll h
    rw [parseAll_of_declares hgiven hne'] at h
    rcases checkAll_cases given with ⟨hall, hchecked⟩ | ⟨_, _, _, fault, _, _, _, hchecked⟩
    · rw [hchecked] at h
      obtain rfl := Except.ok.inj h
      refine ⟨hne, ⟨given, hgiven, rfl⟩, fun m hm => ?_⟩
      obtain ⟨m', hm', rfl⟩ := List.mem_map.mp hm
      have hnormal := (hall m' hm').normal
      exact ⟨hnormal, by simp only [validate, hnormal.check]⟩
    · rw [hchecked] at h
      cases h
  · rw [parseAll_of_declares hgiven hne]
    rcases checkAll_cases given with ⟨hall, hchecked⟩ | ⟨before, m, after, fault, rfl, hbefore, hfault, hchecked⟩
    · refine ⟨fun _ => by rw [hchecked]; rfl, ?_⟩
      rintro ⟨m, hm, hnot⟩
      exact absurd (hall m hm) hnot
    · refine ⟨fun hall => ?_, fun _ => ⟨before, m, after, fault, rfl, hbefore, hfault, by rw [hchecked]; rfl⟩⟩
      exact absurd (hall m (List.mem_append_right _ List.mem_cons_self)) hfault.not_acceptable

end Manifest
end PluginHost
