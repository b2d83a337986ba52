import PluginHost.Proofs.Document.Json
import PluginHost.Proofs.Files.Artifact
import PluginHost.Proofs.Manifest.Validation
import PluginHost.Proofs.Plugin.Artifact

/-!
# From a scan to a reader

A read of an artifact can end because no file with manifests is found for it, or because the name of that file tells no
format. Neither comes about for an artifact that a scan of the same tree has found, whether it is a file, a directory or
a link, and however its name is written.

* `Loader.scanned_routed`: every name of a manifest file tells a format, and every artifact of a scan has its file with
  manifests, whose name tells one.
-/

namespace PluginHost

variable {root : FileTree} {dir path : Path}

/-- A text is not looked at only when its path tells no format. -/
theorem Manifest.ofText_eq_unsupportedFormat_iff {content : String} :
    ofText path content = .error .unsupportedFormat ↔ Format.ofPath? path = none := by
  unfold ofText
  cases Format.ofPath? path with
  | none => simp
  | some format =>
    simp only [reduceCtorEq, iff_false]
    cases Document.read? format content with
    | none => simp
    | some d =>
      simp only [ofDeclaration]
      split
      · simp
      · simp
      · rename_i given _ _
        intro h
        rcases checkAll_cases given with ⟨_, hchecked⟩ | ⟨_, _, _, fault, _, _, hfault, hchecked⟩
        · rw [hchecked] at h
          cases h
        · rw [hchecked] at h
          obtain rfl := Except.error.inj h
          cases hfault

namespace Loader

/-- A manifest is told to be missing only where there is none. -/
theorem manifestFile?_of_noManifest {p : Path}
    (h : loadFile root path = .error (.unreadableArtifact p .noManifest)) : root.manifestFile? path = none := by
  have hread := outcome_loadFile root path
  rw [h] at hread
  cases hread with
  | unreadable hnone => exact hnone rfl

/-- A format is told to be unsupported only for the file with the manifests, and only if its path tells none. -/
theorem ofPath?_of_unsupportedFormat {p : Path}
    (h : loadFile root path = .error (.malformedManifest p .unsupportedFormat)) :
    root.manifestFile? path = some p ∧ Format.ofPath? p = none := by
  have hread := outcome_loadFile root path
  rw [h] at hread
  cases hread with
  | malformed hfile hfault => exact ⟨hfile, Manifest.ofText_eq_unsupportedFormat_iff.mp hfault⟩

/-- The file with the manifests of an artifact of a scan is a manifest file by its name. -/
theorem exists_manifestFile? {paths : List Path} (hroot : root.Sound) (hscan : root.artifacts dir = .ok paths)
    (hpath : path ∈ paths) : ∃ file, root.manifestFile? path = some file ∧ file.isManifestFile = true := by
  rcases FileTree.artifact_cases hroot hscan hpath with ⟨hdirectory, file, hfile⟩ | ⟨hdirectory, hname⟩
  · exact ⟨file, by simp [FileTree.manifestFile?, hdirectory, hfile], (FileTree.isManifestFile_of_manifestIn? hfile).1⟩
  · exact ⟨path, by simp [FileTree.manifestFile?, hdirectory], hname⟩

/-- What a scan recognises can be read: every name of a manifest file tells a format, and so does that of the file with
the manifests of every artifact of a scan; a read of the artifact fails for want of neither. -/
theorem scanned_routed :
    (∀ p : Path, p.isManifestFile = true → ∃ format, Format.ofPath? p = some format) ∧
    ∀ (root : FileTree) (dir : Path) (paths : List Path), root.Sound → root.artifacts dir = .ok paths →
      ∀ path ∈ paths,
        (∃ file format, root.manifestFile? path = some file ∧ Format.ofPath? file = some format) ∧
        (∀ p, loadFile root path ≠ .error (.unreadableArtifact p .noManifest)) ∧
        ∀ p, loadFile root path ≠ .error (.malformedManifest p .unsupportedFormat) := by
  refine ⟨fun p => Path.exists_format_of_isManifestFile, fun root dir paths hroot hscan path hpath => ?_⟩
  obtain ⟨file, hfile, hname⟩ := exists_manifestFile? hroot hscan hpath
  obtain ⟨format, hformat⟩ := Path.exists_format_of_isManifestFile hname
  refine ⟨⟨file, format, hfile, hformat⟩, fun p h => ?_, fun p h => ?_⟩
  · rw [manifestFile?_of_noManifest h] at hfile
    cases hfile
  · obtain ⟨hp, hnone⟩ := ofPath?_of_unsupportedFormat h
    obtain rfl := Option.some.inj (hfile.symm.trans hp)
    rw [hnone] at hformat
    cases hformat

/-- A directory, a link to one elsewhere, a file that is no artifact, and one with a name in odd letters. -/
def mixedEntries : List (String × Node) :=
  [("kept", .directory [("plugin.toml", .file ⟨#[]⟩)]), ("lent", .link ⟨"/store"⟩), ("notes.md", .file ⟨#[]⟩),
    ("ÜBER.Plugin.YAML", .file ⟨#[]⟩)]

/-- A working directory with them for its plugins, next to which the target of the link lies. -/
def mixed : FileTree where
  here := .directory [("plugins", .directory mixedEntries)]
  above := [.directory [("store", .directory [("plugin.toml", .file ⟨#[]⟩)])]]

theorem sound_mixed : mixed.Sound := by
  have hnames : Path.IsName "plugins" ∧ Path.IsName "plugin.toml" ∧ Path.IsName "kept" ∧ Path.IsName "lent" ∧
      Path.IsName "notes.md" ∧ Path.IsName "ÜBER.Plugin.YAML" ∧ Path.IsName "store" := by decide +kernel
  have hholder : (Node.directory [("plugin.toml", .file ⟨#[]⟩)]).Sound := by
    refine .directory ⟨by simp, by simp [hnames]⟩ ?_
    simp only [List.mem_singleton, forall_eq]
    exact .file _
  have hentries : (Node.directory mixedEntries).Sound := by
    refine .directory ⟨by simp [mixedEntries], by simp [mixedEntries, hnames]⟩ ?_
    simp only [mixedEntries, List.mem_cons, List.not_mem_nil, or_false, forall_eq_or_imp, forall_eq]
    exact ⟨hholder, .link _, .file _, .file _⟩
  constructor
  · refine .directory ⟨by simp, by simp [hnames]⟩ ?_
    simp only [List.mem_singleton, forall_eq]
    exact hentries
  · simp only [mixed, List.mem_singleton, forall_eq]
    refine .directory ⟨by simp, by simp [hnames]⟩ ?_
    simp only [List.mem_singleton, forall_eq]
    exact hholder

theorem find_mixed : mixed.find ⟨"plugins"⟩ = .ok (.directory mixedEntries) ∧
    mixed.find ⟨"plugins/lent"⟩ = .ok (.directory [("plugin.toml", .file ⟨#[]⟩)]) ∧
    mixed.find ⟨"plugins/kept/plugin.toml"⟩ = .ok (.file ⟨#[]⟩) ∧
    mixed.find ⟨"plugins/lent/plugin.toml"⟩ = .ok (.file ⟨#[]⟩) := by
  have hsizes : "plugins".utf8ByteSize = 7 ∧ "kept".utf8ByteSize = 4 ∧ "lent".utf8ByteSize = 4 ∧
      "plugin.toml".utf8ByteSize = 11 ∧ "store".utf8ByteSize = 5 ∧ "plugins/lent".utf8ByteSize = 12 ∧
      "plugins/kept/plugin.toml".utf8ByteSize = 24 ∧ "plugins/lent/plugin.toml".utf8ByteSize = 24 := by decide +kernel
  simp [mixed, mixedEntries, FileTree.find, FileTree.walk, FileTree.start, FileTree.top, FileTree.maxPath,
    FileTree.maxLinks, FileTree.maxName, Path.pieces, Path.isAbsolute, Text.splitAtSep, Keyed.lookup_cons, hsizes]

theorem artifacts_mixed : mixed.artifacts ⟨"plugins"⟩ =
    .ok [⟨"plugins/kept"⟩, ⟨"plugins/lent"⟩, ⟨"plugins/ÜBER.Plugin.YAML"⟩] := by
  obtain ⟨hplugins, hlent, hkeptFile, hlentFile⟩ := find_mixed
  have hjoin : (Path.mk "plugins").join ⟨"kept"⟩ = ⟨"plugins/kept"⟩ ∧
      (Path.mk "plugins").join ⟨"lent"⟩ = ⟨"plugins/lent"⟩ ∧
      (Path.mk "plugins").join ⟨"notes.md"⟩ = ⟨"plugins/notes.md"⟩ ∧
      (Path.mk "plugins").join ⟨"ÜBER.Plugin.YAML"⟩ = ⟨"plugins/ÜBER.Plugin.YAML"⟩ ∧
      (Path.mk "plugins/kept").join ⟨"plugin.toml"⟩ = ⟨"plugins/kept/plugin.toml"⟩ ∧
      (Path.mk "plugins/lent").join ⟨"plugin.toml"⟩ = ⟨"plugins/lent/plugin.toml"⟩ := by decide +kernel
  have hnames : (Path.mk "plugins/notes.md").isManifestFile = false ∧
      (Path.mk "plugins/ÜBER.Plugin.YAML").isManifestFile = true := by decide +kernel
  have hsorted : Ascending (mixedEntries.map Prod.fst) := by
    simp only [Ascending, mixedEntries, List.map_cons, List.map_nil]
    decide +kernel
  simp only [FileTree.artifacts, FileTree.entries, hplugins, bind, Except.bind, Keyed.ofList_of_ascending hsorted]
  simp [mixedEntries, hjoin, FileTree.isArtifact, FileTree.isDirectory, FileTree.isFile, FileTree.manifestIn?,
    manifestNames, hlent, hkeptFile, hlentFile, hnames, pure, Except.pure]

/-- The artifacts of such a directory: each has its file and its format. -/
theorem scanned_routed_mixed : mixed.Sound ∧ ∃ paths, mixed.artifacts ⟨"plugins"⟩ = .ok paths ∧ paths.length = 3 ∧
    ∀ path ∈ paths,
      (∃ file format, mixed.manifestFile? path = some file ∧ Format.ofPath? file = some format) ∧
      (∀ p, loadFile mixed path ≠ .error (.unreadableArtifact p .noManifest)) ∧
      ∀ p, loadFile mixed path ≠ .error (.malformedManifest p .unsupportedFormat) :=
  ⟨sound_mixed, _, artifacts_mixed, rfl, scanned_routed.2 mixed ⟨"plugins"⟩ _ sound_mixed artifacts_mixed⟩

end Loader
end PluginHost
