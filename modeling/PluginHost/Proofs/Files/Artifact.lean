import Mathlib.Data.List.TakeDrop
import PluginHost.Files.Artifact
import PluginHost.Proofs.Files.Tree

/-!
# What a scan takes for artifacts

A scan and a read look at a name in two ways: the scan at the whole name in lower case, the read at what follows its
last dot. Lower case leaves the dots where they are, so every name that a scan takes for that of a manifest file tells a
format (`Path.exists_format_of_isManifestFile`). A scan gives exactly the entries of a directory that are artifacts
(`FileTree.exists_artifacts`): each has such a name itself, or is a directory in which a file of that name lies
(`FileTree.artifact_cases`).
-/

namespace PluginHost

/-! ## Extensions -/

/-- What follows the last dot of a name with something before it is its extension. -/
theorem Path.extensionOf?_append {stem extension : List Char} (hstem : stem ≠ []) (hextension : '.' ∉ extension) :
    extensionOf? (stem ++ '.' :: extension) = some (String.ofList extension) := by
  have hspan : (stem ++ '.' :: extension).reverse.span (· ≠ '.') = (extension.reverse, '.' :: stem.reverse) := by
    have hne : ∀ c ∈ extension.reverse, decide (c ≠ '.') = true := by
      intro c hc
      exact decide_eq_true fun e => hextension (e ▸ List.mem_reverse.mp hc)
    rw [List.span_eq_takeWhile_dropWhile]
    simp only [List.reverse_append, List.reverse_cons, List.append_assoc, List.singleton_append]
    rw [List.takeWhile_append_of_pos hne, List.dropWhile_append_of_pos hne]
    simp
  obtain ⟨last, before, hlast⟩ := List.exists_cons_of_ne_nil (mt List.reverse_eq_nil_iff.mp hstem)
  rw [extensionOf?, hspan, hlast]
  simp

/-- The names and the endings of manifest files have an extension that tells a format. -/
theorem exists_extension_of_mem {s : String} (h : s ∈ manifestNames ++ manifestEndings) :
    ∃ stem extension : List Char, s.toList = stem ++ '.' :: extension ∧ stem ≠ [] ∧ '.' ∉ extension ∧
      (Format.ofExtension? (String.ofList extension)).isSome := by
  have hall : ∀ s ∈ manifestNames ++ manifestEndings, ∃ stem ∈ ["plugin".toList, ".plugin".toList],
      ∃ extension ∈ ["toml".toList, "json".toList, "yaml".toList, "yml".toList],
        s.toList = stem ++ '.' :: extension ∧ stem ≠ [] ∧ '.' ∉ extension ∧
          (Format.ofExtension? (String.ofList extension)).isSome := by
    decide +kernel
  obtain ⟨stem, _, extension, _, h⟩ := hall s h
  exact ⟨stem, extension, h⟩

/-- A name of a manifest file has such an extension too, in some letter case. -/
theorem exists_extension_of_isManifestName {name : String} (h : isManifestName name = true) :
    ∃ stem extension : List Char, name.toList = stem ++ '.' :: extension ∧ stem ≠ [] ∧ '.' ∉ extension ∧
      (Format.ofExtension? (String.ofList (Text.lower extension))).isSome := by
  obtain ⟨s, hs, front, hlower⟩ : ∃ s ∈ manifestNames ++ manifestEndings, s.toList <:+ Text.lower name.toList := by
    simp only [isManifestName, Bool.or_eq_true, List.any_eq_true, Bool.and_eq_true, beq_iff_eq] at h
    rcases h with ⟨s, hs, heq⟩ | ⟨s, hs, hsuffix, _⟩
    · exact ⟨s, List.mem_append_left _ hs, heq ▸ List.suffix_refl _⟩
    · exact ⟨s, List.mem_append_right _ hs, List.isSuffixOf_iff_suffix.mp hsuffix⟩
  obtain ⟨stem, extension, heq, hstem, hextension, hformat⟩ := exists_extension_of_mem hs
  rw [heq, ← List.append_assoc] at hlower
  obtain ⟨ds, es, hname, hds, hes⟩ := Text.lower_eq_append_dot hlower.symm
  refine ⟨ds, es, hname, ?_, ?_, hes ▸ hformat⟩
  · rintro rfl
    exact hstem (List.append_eq_nil_iff.mp hds.symm).2
  · rwa [← Text.dot_mem_lower_iff, hes]

/-- The path of a manifest file tells a format. -/
theorem Path.exists_format_of_isManifestFile {p : Path} (h : p.isManifestFile = true) :
    ∃ format, Format.ofPath? p = some format := by
  obtain ⟨name, hname, hmanifest⟩ : ∃ name, p.fileName? = some name ∧ isManifestName name = true := by
    simpa [isManifestFile, Option.any_eq_true] using h
  obtain ⟨stem, extension, heq, hstem, hextension, hformat⟩ := exists_extension_of_isManifestName hmanifest
  obtain ⟨format, hformat⟩ := Option.isSome_iff_exists.mp hformat
  exact ⟨format, by simpa [Format.ofPath?, extension?, hname, heq, extensionOf?_append hstem hextension] using hformat⟩

/-! ## Artifacts -/

theorem isName_of_mem_manifestNames {name : String} (h : name ∈ manifestNames) : Path.IsName name := by
  have hall : ∀ name ∈ manifestNames, Path.IsName name := by decide +kernel
  exact hall name h

namespace FileTree

variable {root : FileTree} {dir path : Path} {paths : List Path}

theorem manifestIn?_eq_some {file : Path} (h : root.manifestIn? path = some file) :
    ∃ name ∈ manifestNames, file = path.join ⟨name⟩ ∧ root.isFile file = true := by
  obtain ⟨name, hname, rfl⟩ := List.mem_map.mp (List.mem_of_find?_eq_some h)
  exact ⟨name, hname, rfl, List.find?_some h⟩

/-- The file that a directory holds is a manifest file by its name, and the directory is one. -/
theorem isManifestFile_of_manifestIn? {file : Path} (h : root.manifestIn? path = some file) :
    file.isManifestFile = true ∧ (path.text ≠ "" → root.isDirectory path = true) := by
  obtain ⟨name, hname, rfl, hfile⟩ := manifestIn?_eq_some h
  have hisName := isName_of_mem_manifestNames hname
  refine ⟨?_, fun hpath => ?_⟩
  · simp [Path.isManifestFile, hisName.fileName?_join, isManifestName_of_mem hname]
  · unfold isFile at hfile
    split at hfile
    · exact isDirectory_of_find_join hisName hpath ‹_›
    · cases hfile

theorem manifestIn?_isSome_iff : (root.manifestIn? path).isSome = true ↔
    ∃ name ∈ manifestNames, root.isFile (path.join ⟨name⟩) = true := by
  simp [manifestIn?]

/-- An entry of a directory that is an artifact: a file whose name is one of a manifest file, or a directory that holds
a file under one of the four names. A link is taken for the directory that it leads to, or else for a file. -/
inductive IsArtifact (root : FileTree) (dir : Path) (name : String) : Node → Prop
  | file {bytes : ByteArray} : isManifestName name = true → IsArtifact root dir name (.file bytes)
  | directory {inside : List (String × Node)} {manifest : String} : manifest ∈ manifestNames →
      root.isFile ((dir.join ⟨name⟩).join ⟨manifest⟩) = true → IsArtifact root dir name (.directory inside)
  | linkToDirectory {target : Path} {manifest : String} : root.isDirectory (dir.join ⟨name⟩) = true →
      manifest ∈ manifestNames → root.isFile ((dir.join ⟨name⟩).join ⟨manifest⟩) = true →
      IsArtifact root dir name (.link target)
  | linkToFile {target : Path} : root.isDirectory (dir.join ⟨name⟩) = false → isManifestName name = true →
      IsArtifact root dir name (.link target)

theorem isArtifact_iff {name : String} (hname : Path.IsName name) {entry : Node} :
    root.isArtifact (dir.join ⟨name⟩) entry = true ↔ root.IsArtifact dir name entry := by
  have hfile : (dir.join ⟨name⟩).isManifestFile = isManifestName name := by
    simp [Path.isManifestFile, hname.fileName?_join]
  cases entry with
  | file bytes =>
    simp only [isArtifact, Bool.false_eq_true, if_false, hfile]
    exact ⟨.file, fun | .file h => h⟩
  | directory inside =>
    simp only [isArtifact, if_true, manifestIn?_isSome_iff]
    exact ⟨fun ⟨_, hmem, h⟩ => .directory hmem h, fun | .directory hmem h => ⟨_, hmem, h⟩⟩
  | link target =>
    cases hdirectory : root.isDirectory (dir.join ⟨name⟩) with
    | true =>
      simp only [isArtifact, hdirectory, if_true, manifestIn?_isSome_iff]
      refine ⟨fun ⟨_, hmem, h⟩ => .linkToDirectory hdirectory hmem h, fun h => ?_⟩
      cases h with
      | linkToDirectory _ hmem h => exact ⟨_, hmem, h⟩
      | linkToFile hno => cases hno.symm.trans hdirectory
    | false =>
      simp only [isArtifact, hdirectory, Bool.false_eq_true, if_false, hfile]
      refine ⟨.linkToFile hdirectory, fun h => ?_⟩
      cases h with
      | linkToDirectory hyes => cases hyes.symm.trans hdirectory
      | linkToFile _ h => exact h

/-- A scan of a directory gives its artifacts, all of them and nothing else, in ascending order of their names. -/
theorem exists_artifacts {entries : List (String × Node)} (hdir : root.find dir = .ok (.directory entries))
    (hnamed : Node.Named entries) : ∃ names : List String, Ascending names ∧
      (∀ name, name ∈ names ↔ ∃ entry, (name, entry) ∈ entries ∧ root.IsArtifact dir name entry) ∧
      root.artifacts dir = .ok (names.map fun name => dir.join ⟨name⟩) := by
  refine ⟨((Keyed.ofList entries).filter fun e => root.isArtifact (dir.join ⟨e.1⟩) e.2).map Prod.fst, ?_, ?_, ?_⟩
  · exact (Keyed.ascending_ofList entries).sublist (List.filter_sublist.map Prod.fst)
  · intro name
    simp only [List.mem_map, List.mem_filter, Keyed.mem_ofList_iff hnamed.1]
    constructor
    · rintro ⟨⟨name, entry⟩, ⟨hmem, h⟩, rfl⟩
      exact ⟨entry, hmem, (isArtifact_iff (hnamed.2 _ hmem)).mp h⟩
    · rintro ⟨entry, hmem, h⟩
      exact ⟨(name, entry), ⟨hmem, (isArtifact_iff (hnamed.2 _ hmem)).mpr h⟩, rfl⟩
  · simp only [artifacts, FileTree.entries, hdir, bind, Except.bind, pure, Except.pure, List.filter_map, List.map_map]
    rfl

/-- Only a directory is scanned. -/
theorem find_of_artifacts (h : root.artifacts dir = .ok paths) :
    ∃ entries, root.find dir = .ok (.directory entries) := by
  unfold artifacts FileTree.entries at h
  cases hfind : root.find dir with
  | error fault =>
    rw [hfind] at h
    cases h
  | ok node =>
    rw [hfind] at h
    cases node with
    | file bytes => cases h
    | link target => cases h
    | directory entries => exact ⟨entries, rfl⟩

/-- A file of a directory is no directory. -/
theorem isDirectory_join_of_file {entries : List (String × Node)} (hdir : root.find dir = .ok (.directory entries))
    (hnamed : Node.Named entries) {name : String} {bytes : ByteArray} (hentry : (name, .file bytes) ∈ entries) :
    root.isDirectory (dir.join ⟨name⟩) = false := by
  unfold isDirectory
  split
  · rename_i hfind
    obtain ⟨entry, hlookup, heq⟩ := lookup_of_find_join (hnamed.2 _ hentry) hdir hfind
    obtain rfl := Option.some.inj (hlookup.symm.trans ((IdMap.lookup_eq_some_iff hnamed.1).mpr hentry))
    rcases heq with heq | ⟨target, heq⟩ <;> cases heq
  · rfl

/-- An artifact of a scan is a directory that holds a manifest file, or has the name of one. -/
theorem artifact_cases (hroot : root.Sound) (h : root.artifacts dir = .ok paths) (hpath : path ∈ paths) :
    (root.isDirectory path = true ∧ ∃ file, root.manifestIn? path = some file) ∨
      root.isDirectory path = false ∧ path.isManifestFile = true := by
  obtain ⟨entries, hdir⟩ := find_of_artifacts h
  have hnamed : Node.Named entries := by
    cases hroot.find hdir with
    | directory hnamed _ => exact hnamed
  obtain ⟨names, _, hnames, hpaths⟩ := exists_artifacts hdir hnamed
  obtain rfl := Except.ok.inj (h.symm.trans hpaths)
  obtain ⟨name, hmem, rfl⟩ := List.mem_map.mp hpath
  obtain ⟨entry, hentry, hartifact⟩ := (hnames name).mp hmem
  have hname : Path.IsName name := hnamed.2 _ hentry
  have hfile : isManifestName name = true → (dir.join ⟨name⟩).isManifestFile = true := by
    simp [Path.isManifestFile, hname.fileName?_join]
  have hinside : ∀ manifest ∈ manifestNames, root.isFile ((dir.join ⟨name⟩).join ⟨manifest⟩) = true →
      ∃ file, root.manifestIn? (dir.join ⟨name⟩) = some file :=
    fun manifest hmem h => Option.isSome_iff_exists.mp (manifestIn?_isSome_iff.mpr ⟨manifest, hmem, h⟩)
  cases hartifact with
  | file h => exact Or.inr ⟨isDirectory_join_of_file hdir hnamed hentry, hfile h⟩
  | directory hmem h =>
    -- a file can only lie in the directory if its name leads there
    obtain ⟨file, hfile⟩ := hinside _ hmem h
    obtain ⟨more, htext⟩ := Path.exists_text_join hname.isAbsolute_eq_false (lookable_of_find hdir).not_empty
    have hempty : (dir.join ⟨name⟩).text ≠ "" := by
      rw [htext]
      exact fun e => (lookable_of_find hdir).not_empty (String.append_eq_empty_iff.mp e).1
    exact Or.inl ⟨(isManifestFile_of_manifestIn? hfile).2 hempty, file, hfile⟩
  | linkToDirectory hdirectory hmem h => exact Or.inl ⟨hdirectory, hinside _ hmem h⟩
  | linkToFile hdirectory h => exact Or.inr ⟨hdirectory, hfile h⟩

end FileTree
end PluginHost
