import PluginHost.Proofs.Plugin.Library

/-!
# Building plugins

What comes of asking a registry for the plugin of a container, told without its code: a plugin is built, by the factory
of the entry point or by the library that the entry point names (`Registry.Builds`), or there is a cause for which none
is (`Registry.Refuses`).

* `Registry.builds_or_refuses`: it is one of the two, and the registry answers accordingly (`build_of_builds`,
  `result_build_of_refuses`).
* `Registry.refuses_of_instantiate`: an error of the registry tells this cause, and names the container.
-/

namespace PluginHost.Registry

variable {r : Registry} {root : FileTree} {c : Container} {plugin : Plugin} {cause : ActivationFault} {path : Path}
  {library : Library}

/-- There is no factory for the entry point of a container, which names the library at a path instead. -/
structure Locates (r : Registry) (root : FileTree) (c : Container) (path : Path) : Prop where
  unregistered : r.factories.find? c.manifest.entryPoint = none
  named : isLibraryName c.manifest.entryPoint = true
  inside : ¬LeadsOut c.manifest.entryPoint
  path : path = (artifactDirectory root c.source).join ⟨c.manifest.entryPoint⟩

/-- The system opens the library that the entry point of a container names. -/
def Opens (r : Registry) (root : FileTree) (c : Container) (library : Library) : Prop :=
  ∃ path, r.Locates root c path ∧ r.linker path = .ok library

/-- What builds the plugin of a container: the factory of the entry point, or else a library. -/
inductive Builds (r : Registry) (root : FileTree) (c : Container) (plugin : Plugin) : Prop
  | factory {factory : Factory} : r.factories.find? c.manifest.entryPoint = some factory →
      factory c.manifest = .ok plugin → Builds r root c plugin
  | library {library : Library} : r.Opens root c library → library.construction = .ok (.plugin plugin) →
      Builds r root c plugin

/-- Why no plugin is built. -/
inductive Refuses (r : Registry) (root : FileTree) (c : Container) : ActivationFault → Prop
  | factory {factory : Factory} {message : String} :
      r.factories.find? c.manifest.entryPoint = some factory → factory c.manifest = .error message →
      Refuses r root c (.factoryFailed c.manifest.entryPoint message)
  | unknown :
      r.factories.find? c.manifest.entryPoint = none → isLibraryName c.manifest.entryPoint = false →
      Refuses r root c (.noFactory c.manifest.entryPoint)
  | outside :
      r.factories.find? c.manifest.entryPoint = none → isLibraryName c.manifest.entryPoint = true →
      LeadsOut c.manifest.entryPoint → Refuses r root c (.libraryOutside c.manifest.entryPoint)
  | unopened {path : Path} {reason : Option String} : r.Locates root c path → r.linker path = .error reason →
      Refuses r root c (.libraryUnopened path reason)
  | noConstructor {library : Library} {reason : String} : r.Opens root c library →
      library.construction = .error reason → Refuses r root c (.noConstructor reason)
  | null {library : Library} : r.Opens root c library → library.construction = .ok .null →
      Refuses r root c .nullPlugin
  | panicked {library : Library} {payload : Payload} : r.Opens root c library →
      library.construction = .ok (.panicked payload) → Refuses r root c (.constructorPanicked payload)

/-! ## What a registry answers -/

theorem build_of_factory {factory : Factory} (h : r.factories.find? c.manifest.entryPoint = some factory) :
    r.build root c = { calls := [.create c.manifest]
                       result := (factory c.manifest).mapError (.factoryFailed c.manifest.entryPoint) } := by
  rw [build, h]
  rfl

theorem build_of_unknown (h : r.factories.find? c.manifest.entryPoint = none)
    (hname : isLibraryName c.manifest.entryPoint = false) :
    r.build root c = .pure (.error (.noFactory c.manifest.entryPoint)) := by
  simp only [build, buildWith, h, hname, Option.map_none, Bool.false_eq_true, if_false]
  rfl

theorem build_of_isLibraryName (h : r.factories.find? c.manifest.entryPoint = none)
    (hname : isLibraryName c.manifest.entryPoint = true) : r.build root c = loadLibrary r.linker root c := by
  simp only [build, buildWith, h, hname, Option.map_none, if_true]
  rfl

theorem build_of_locates (h : r.Locates root c path) : r.build root c = openLibrary r.linker c path := by
  rw [build_of_isLibraryName h.unregistered h.named, loadLibrary, libraryPath_of_not_leadsOut h.inside, ← h.path]

theorem build_of_builds (h : r.Builds root c plugin) :
    r.build root c = { calls := [.create c.manifest], result := .ok plugin } := by
  cases h with
  | factory hfind hbuilt =>
    rw [build_of_factory hfind, hbuilt]
    rfl
  | library hopens hbuilt =>
    obtain ⟨path, hlocates, hlinked⟩ := hopens
    simp only [build_of_locates hlocates, openLibrary, hlinked, hbuilt]

theorem result_build_of_refuses (h : r.Refuses root c cause) : (r.build root c).result = .error cause := by
  cases h with
  | factory hfind hrefused =>
    rw [build_of_factory hfind, hrefused]
    rfl
  | unknown hfind hname =>
    rw [build_of_unknown hfind hname]
    rfl
  | outside hfind hname hout =>
    rw [build_of_isLibraryName hfind hname, loadLibrary, libraryPath_of_leadsOut hout]
    rfl
  | unopened hlocates hlinked =>
    simp only [build_of_locates hlocates, openLibrary, hlinked]
    rfl
  | noConstructor hopens hconstruction =>
    obtain ⟨path, hlocates, hlinked⟩ := hopens
    simp only [build_of_locates hlocates, openLibrary, hlinked, hconstruction]
    rfl
  | null hopens hconstruction =>
    obtain ⟨path, hlocates, hlinked⟩ := hopens
    simp only [build_of_locates hlocates, openLibrary, hlinked, hconstruction]
  | panicked hopens hconstruction =>
    obtain ⟨path, hlocates, hlinked⟩ := hopens
    simp only [build_of_locates hlocates, openLibrary, hlinked, hconstruction]

theorem builds_or_refuses_of_opens (h : r.Opens root c library) :
    (∃ plugin, r.Builds root c plugin) ∨ ∃ cause, r.Refuses root c cause := by
  cases hconstruction : library.construction with
  | error reason => exact Or.inr ⟨_, .noConstructor h hconstruction⟩
  | ok construction =>
    cases construction with
    | plugin plugin => exact Or.inl ⟨plugin, .library h hconstruction⟩
    | null => exact Or.inr ⟨_, .null h hconstruction⟩
    | panicked payload => exact Or.inr ⟨_, .panicked h hconstruction⟩

theorem builds_or_refuses (r : Registry) (root : FileTree) (c : Container) :
    (∃ plugin, r.Builds root c plugin) ∨ ∃ cause, r.Refuses root c cause := by
  cases hfind : r.factories.find? c.manifest.entryPoint with
  | some factory =>
    cases hbuilt : factory c.manifest with
    | ok plugin => exact Or.inl ⟨plugin, .factory hfind hbuilt⟩
    | error message => exact Or.inr ⟨_, .factory hfind hbuilt⟩
  | none =>
    cases hname : isLibraryName c.manifest.entryPoint with
    | false => exact Or.inr ⟨_, .unknown hfind hname⟩
    | true =>
      by_cases hout : LeadsOut c.manifest.entryPoint
      · exact Or.inr ⟨_, .outside hfind hname hout⟩
      · have hlocates : r.Locates root c _ := ⟨hfind, hname, hout, rfl⟩
        cases hlinked : r.linker ((artifactDirectory root c.source).join ⟨c.manifest.entryPoint⟩) with
        | error reason => exact Or.inr ⟨_, .unopened hlocates hlinked⟩
        | ok library => exact builds_or_refuses_of_opens ⟨_, hlocates, hlinked⟩

theorem calls_openLibrary_prefix (linker : Linker) (c : Container) (path : Path) :
    (openLibrary linker c path).calls <+: [.create c.manifest] := by
  unfold openLibrary
  split
  · exact List.nil_prefix
  · split
    · exact List.nil_prefix
    · exact List.prefix_rfl

/-- A registry calls nothing but the factory that it has, or else the constructor of a library. -/
theorem calls_build_prefix (r : Registry) (root : FileTree) (c : Container) :
    (r.build root c).calls <+: [.create c.manifest] := by
  cases hfind : r.factories.find? c.manifest.entryPoint with
  | some factory =>
    simp only [build_of_factory hfind, List.prefix_rfl]
  | none =>
    cases hname : isLibraryName c.manifest.entryPoint with
    | false =>
      rw [build_of_unknown hfind hname]
      exact List.nil_prefix
    | true =>
      rw [build_of_isLibraryName hfind hname, loadLibrary]
      split
      · exact List.nil_prefix
      · exact calls_openLibrary_prefix _ _ _

/-! ## Errors that name the container -/

theorem instantiate_eq (r : Registry) (root : FileTree) (c : Container) : r.instantiate root c =
    { calls := (r.build root c).calls, result := (r.build root c).result.mapError (.activationError c.id) } := by
  simp [instantiate, instantiateWith]

theorem refuses_of_instantiate {e : PluginError} (h : (r.instantiate root c).result = .error e) :
    ∃ cause, e = .activationError c.id cause ∧ r.Refuses root c cause := by
  rw [instantiate_eq] at h
  rcases r.builds_or_refuses root c with ⟨plugin, hbuilt⟩ | ⟨cause, hrefused⟩
  · rw [build_of_builds hbuilt] at h
    cases h
  · rw [result_build_of_refuses hrefused] at h
    exact ⟨cause, (Except.error.inj h).symm, hrefused⟩

end PluginHost.Registry
