import PluginHost.Plugin.Registry
import PluginHost.Proofs.Files.Path

/-!
# Libraries beside artifacts

An entry point that names a library is looked for below the directory of its artifact. It is refused when it leads out
(`Registry.LeadsOut`, told of its text); otherwise its path goes through the directory of the artifact and from there
along the entry point, never up and never from the root (`Registry.Below`).

* `Registry.libraryPath_confined`: every entry point is refused or stays below, and a refusal is answered for the
  container before any library is looked for.
-/

namespace PluginHost.Registry

open PluginHost.Path

variable {root : FileTree} {c : Container} {entryPoint : String}

/-- An entry point leads out when it starts with a slash, or has two dots between slashes. -/
def LeadsOut (entryPoint : String) : Prop :=
  entryPoint.toList.head? = some '/' ∨ ['.', '.'] ∈ Text.splitAtSep '/' entryPoint.toList

theorem leadsOut_iff : LeadsOut entryPoint ↔
    (Path.mk entryPoint).isAbsolute = true ∨ Component.parent ∈ (Path.mk entryPoint).components := by
  simp [LeadsOut, isAbsolute, parent_mem_components_iff, pieces]

/-- What the directory of an artifact goes through: a directory as far as it leads, any other source but for its end. -/
def directoryComponents (root : FileTree) : Option Path → List Component
  | none => []
  | some source => if root.isDirectory source then source.components else source.components.dropLast

theorem components_artifactDirectory (root : FileTree) (source : Option Path) :
    (artifactDirectory root source).components = directoryComponents root source := by
  cases source with
  | none => rfl
  | some source =>
    simp only [artifactDirectory, directoryComponents]
    split
    · rfl
    · exact components_parent? source

/-- A path goes through given components and from there along an entry point, whose current directory at the front may
be left out. -/
def Below (before : List Component) (entryPoint : String) (path : Path) : Prop :=
  ∃ along, path.components = before ++ along ∧ Component.root ∉ along ∧ Component.parent ∉ along ∧
    ((Path.mk entryPoint).components = along ∨ (Path.mk entryPoint).components = .current :: along)

/-- Joined to any base, an entry point that does not lead out stays below it. -/
theorem below_join (h : ¬LeadsOut entryPoint) (base : Path) :
    Below base.components entryPoint (base.join ⟨entryPoint⟩) := by
  rw [leadsOut_iff, not_or, Bool.not_eq_true] at h
  obtain ⟨hrelative, hparent⟩ := h
  have hinner : Component.parent ∉ (Path.mk entryPoint).inner :=
    fun hmem => hparent ((inner_sublist hrelative).subset hmem)
  by_cases hbase : base.text = ""
  · have hcomponents : base.components = [] := by
      rw [show base = ⟨""⟩ from congrArg Path.mk hbase]
      rfl
    refine ⟨(Path.mk entryPoint).components, by rw [join_of_text_eq_empty hbase, hcomponents, List.nil_append], ?_,
      hparent, Or.inl rfl⟩
    rcases components_of_relative hrelative with hc | hc <;> simp [hc, root_not_mem_inner]
  · exact ⟨_, components_join hrelative hbase, root_not_mem_inner _, hinner, components_of_relative hrelative⟩

theorem libraryPath_of_leadsOut (h : LeadsOut c.manifest.entryPoint) :
    libraryPath root c = .error (.libraryOutside c.manifest.entryPoint) := by
  rw [leadsOut_iff] at h
  simp [libraryPath, h]

theorem libraryPath_of_not_leadsOut (h : ¬LeadsOut c.manifest.entryPoint) :
    libraryPath root c = .ok ((artifactDirectory root c.source).join ⟨c.manifest.entryPoint⟩) := by
  rw [leadsOut_iff] at h
  simp [libraryPath, h]

/-- An entry point is refused exactly when it leads out, and its container is told so; any other gives a path below the
directory of the artifact. -/
theorem libraryPath_confined (root : FileTree) (c : Container) :
    (∀ fault, libraryPath root c = .error fault ↔
      LeadsOut c.manifest.entryPoint ∧ fault = .libraryOutside c.manifest.entryPoint) ∧
    (∀ path, libraryPath root c = .ok path →
      Below (directoryComponents root c.source) c.manifest.entryPoint path) ∧
    ∀ r : Registry, r.factories.find? c.manifest.entryPoint = none → isLibraryName c.manifest.entryPoint = true →
      LeadsOut c.manifest.entryPoint →
      r.instantiate root c = .pure (.error (.activationError c.id (.libraryOutside c.manifest.entryPoint))) := by
  refine ⟨fun fault => ?_, fun path hpath => ?_, fun r hfind hname hout => ?_⟩
  · by_cases hout : LeadsOut c.manifest.entryPoint
    · simp [libraryPath_of_leadsOut hout, hout, eq_comm]
    · simp [libraryPath_of_not_leadsOut hout, hout]
  · have hout : ¬LeadsOut c.manifest.entryPoint := by
      intro hout
      rw [libraryPath_of_leadsOut hout] at hpath
      cases hpath
    rw [libraryPath_of_not_leadsOut hout] at hpath
    obtain rfl := Except.ok.inj hpath
    rw [← components_artifactDirectory]
    exact below_join hout _
  · simp only [instantiate, build, buildWith, hfind, hname, loadLibrary, libraryPath_of_leadsOut hout, Option.map_none,
      if_true]
    rfl

example : ¬LeadsOut "./lib..v2//..so/" ∧ LeadsOut "lib/.." := by
  unfold LeadsOut
  decide +kernel

end PluginHost.Registry
