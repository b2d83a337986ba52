import PluginHost.Plugin.Loader
import PluginHost.Proofs.Files.Tree
import PluginHost.Proofs.Manifest.Schema

/-!
# What artifacts give

An artifact gives the containers of the plugins that its document declares, or one error (`Loader.gives_cases`). A scan
of a directory puts together what its artifacts give, in their order (`Loader.scanDirectory_cases`), and this is the
order of their names (`FileTree.exists_names_artifactsIn`).
-/

namespace PluginHost

variable {root : FileTree} {dir path : Path} {cs : List Container} {e : PluginError}

namespace FileTree

/-- The artifacts of a directory; none when it cannot be read. -/
def artifactsIn (root : FileTree) (dir : Path) : List Path := (root.artifacts dir).toOption.getD []

/-- The file with the manifests of an artifact: the artifact itself, or the one that a directory holds. -/
def manifestFile? (root : FileTree) (path : Path) : Option Path :=
  if root.isDirectory path then root.manifestIn? path else some path

/-- The artifacts of a directory stand in ascending order of their names. -/
theorem exists_names_artifactsIn (root : FileTree) (dir : Path) :
    ∃ names : List String, Ascending names ∧ root.artifactsIn dir = names.map fun name => dir.join ⟨name⟩ := by
  unfold artifactsIn artifacts
  cases root.entries dir with
  | error fault => exact ⟨[], List.Pairwise.nil, rfl⟩
  | ok entries =>
    refine ⟨((Keyed.ofList entries).filter fun e => root.isArtifact (dir.join ⟨e.1⟩) e.2).map Prod.fst, ?_, ?_⟩
    · exact (Keyed.ascending_ofList entries).sublist (List.filter_sublist.map Prod.fst)
    · simp only [bind, Except.bind, pure, Except.pure, Except.toOption, Option.getD_some, List.filter_map, List.map_map]
      rfl

end FileTree

/-! ## Documents -/

namespace Manifest

/-- Manifests are checked one by one. -/
theorem forall₂_checkAll : ∀ {ms ms' : List Manifest}, checkAll ms = .ok ms' →
    List.Forall₂ (fun m m' => m.check = .ok m') ms ms'
  | [], ms', h => by
    obtain rfl := Except.ok.inj h
    exact .nil
  | m :: ms, ms', h => by
    obtain ⟨m₁, hm, h⟩ := exists_of_bind_eq_ok h
    obtain ⟨ms₁, hms, h⟩ := exists_of_bind_eq_ok h
    obtain rfl := Except.ok.inj h
    exact .cons hm (forall₂_checkAll hms)

theorem forall₂_ofDeclaration {d : Document} {ms : List Manifest} (h : ofDeclaration d = .ok ms) :
    ∃ given, declared d = .ok given ∧ List.Forall₂ (fun m m' => m.check = .ok m') given ms := by
  unfold ofDeclaration at h
  split at h
  · cases h
  · cases h
  · rename_i given _ hgiven
    exact ⟨given, hgiven, forall₂_checkAll h⟩

theorem exists_of_parseAll {content : String} {ms : List Manifest} (h : parseAll path content = .ok ms) :
    ∃ format d, Format.ofPath? path = some format ∧ Document.read? format content = some d ∧
      ofDeclaration d = .ok ms := by
  unfold parseAll at h
  split at h
  · rename_i ms' hms
    obtain rfl := Except.ok.inj h
    unfold ofText at hms
    split at hms
    · cases hms
    · rename_i format hformat
      split at hms
      · cases hms
      · rename_i d hd
        exact ⟨format, d, hformat, hd, hms⟩
  · cases h

theorem exists_of_parseAll_eq_error {content : String} (h : parseAll path content = .error e) :
    ∃ fault, e = .malformedManifest path fault ∧ ofText path content = .error fault := by
  unfold parseAll at h
  split at h
  · cases h
  · rename_i fault hfault
    exact ⟨fault, (Except.error.inj h).symm, hfault⟩

end Manifest

namespace Loader

/-- The document that an artifact holds. -/
def documentOf? (root : FileTree) (path : Path) : Option Document := do
  let file ← root.manifestFile? path
  let content ← (root.readText file).toOption
  let format ← Format.ofPath? file
  Document.read? format content

/-- Containers are those of the plugins that a document declares, in the order of declaration. -/
def Reads (path : Path) (d : Document) (cs : List Container) : Prop :=
  ∃ given, Manifest.declared d = .ok given ∧
    List.Forall₂ (fun m c => ∃ manifest, m.check = .ok manifest ∧ c = { manifest, source := some path }) given cs

/-- What comes of reading an artifact. -/
inductive Outcome (root : FileTree) (path : Path) : Except PluginError (List Container) → Prop
  | read {file : Path} {content : String} {manifests : List Manifest} :
      root.manifestFile? path = some file → root.readText file = .ok content →
      Manifest.parseAll file content = .ok manifests →
      Outcome root path (.ok (manifests.map fun manifest => { manifest, source := some path }))
  | unreadable {fault : FileFault} : (fault = .noManifest → root.manifestFile? path = none) →
      Outcome root path (.error (.unreadableArtifact path fault))
  | malformed {file : Path} {content : String} {fault : ManifestFault} :
      root.manifestFile? path = some file → Manifest.ofText file content = .error fault →
      Outcome root path (.error (.malformedManifest file fault))

theorem outcome_loadFile (root : FileTree) (path : Path) : Outcome root path (loadFile root path) := by
  unfold loadFile
  extract_lets unreadable read
  have hread : ∀ file, root.manifestFile? path = some file → Outcome root path (read file) := by
    intro file hfile
    cases hcontent : root.readText file with
    | error fault =>
      simp only [read, hcontent]
      exact .unreadable fun e => absurd (e ▸ hcontent) (root.readText_ne_noManifest file)
    | ok content =>
      simp only [read, hcontent, Except.mapError, bind, Except.bind]
      cases hparse : Manifest.parseAll file content with
      | error e =>
        obtain ⟨fault, rfl, hfault⟩ := Manifest.exists_of_parseAll_eq_error hparse
        exact .malformed hfile hfault
      | ok manifests => exact .read hfile hcontent hparse
  cases hfind : root.find path with
  | error fault => exact .unreadable fun e => absurd (e ▸ hfind) (root.find_ne_noManifest path)
  | ok node =>
    cases node with
    | directory entries =>
      cases hfile : root.manifestIn? path with
      | none => exact .unreadable fun _ => by simpa [FileTree.manifestFile?, FileTree.isDirectory, hfind] using hfile
      | some file => exact hread file (by simpa [FileTree.manifestFile?, FileTree.isDirectory, hfind] using hfile)
    | file bytes => exact hread path (by simp [FileTree.manifestFile?, FileTree.isDirectory, hfind])
    | link target => exact hread path (by simp [FileTree.manifestFile?, FileTree.isDirectory, hfind])

/-- An artifact that can be read gives the plugins that its document declares, and at least one. -/
theorem reads_of_loadFile (h : loadFile root path = .ok cs) :
    cs ≠ [] ∧ ∃ d, documentOf? root path = some d ∧ Reads path d cs := by
  have hread := outcome_loadFile root path
  rw [h] at hread
  cases hread with
  | @read file content manifests hfile hcontent hparse =>
    obtain ⟨format, d, hformat, hd, hms⟩ := Manifest.exists_of_parseAll hparse
    obtain ⟨given, hgiven, hchecked⟩ := Manifest.forall₂_ofDeclaration hms
    refine ⟨fun hnil => Manifest.ofDeclaration_ne_nil hms (List.map_eq_nil_iff.mp hnil), d, ?_, given, hgiven, ?_⟩
    · simp [documentOf?, hfile, hcontent, hformat, hd, Except.toOption]
    · rw [List.forall₂_map_right_iff]
      exact hchecked.imp fun m manifest hm => ⟨manifest, hm, rfl⟩

/-- Every container that is read has the artifact as its source, and got nowhere yet. -/
theorem Reads.source_of_mem {d : Document} {c : Container} (h : Reads path d cs) (hc : c ∈ cs) :
    c.source = some path ∧ c.progress = .discovered := by
  obtain ⟨given, hdeclared, hgiven⟩ := h
  clear hdeclared
  induction hgiven with
  | nil => cases hc
  | cons hm _ ih =>
    rcases List.mem_cons.mp hc with rfl | hc
    · obtain ⟨manifest, _, rfl⟩ := hm
      exact ⟨rfl, rfl⟩
    · exact ih hc

/-- Whether an error tells that an artifact cannot be read, or its manifests. -/
def Tells (root : FileTree) (path : Path) (e : PluginError) : Prop :=
  (∃ fault, e = .unreadableArtifact path fault) ∨
    ∃ file fault, root.manifestFile? path = some file ∧ e = .malformedManifest file fault

theorem tells_of_loadFile (h : loadFile root path = .error e) : Tells root path e := by
  have hread := outcome_loadFile root path
  rw [h] at hread
  cases hread with
  | unreadable _ => exact Or.inl ⟨_, rfl⟩
  | malformed hfile _ => exact Or.inr ⟨_, _, hfile, rfl⟩

/-! ## Artifacts and scans -/

/-- The containers that an artifact gives. -/
def containersOf (root : FileTree) (path : Path) : List Container := (loadFile root path).toOption.getD []

/-- The errors that an artifact gives. -/
def errorsOf (root : FileTree) (path : Path) : List PluginError :=
  match loadFile root path with
  | .ok _ => []
  | .error e => [e]

/-- An artifact gives containers, those of the plugins that its document declares, or one error that tells of it. -/
theorem gives_cases (root : FileTree) (path : Path) :
    (containersOf root path ≠ [] ∧ errorsOf root path = [] ∧
      ∃ d, documentOf? root path = some d ∧ Reads path d (containersOf root path)) ∨
    containersOf root path = [] ∧ ∃ e, errorsOf root path = [e] ∧ Tells root path e := by
  cases h : loadFile root path with
  | ok cs =>
    obtain ⟨hne, hreads⟩ := reads_of_loadFile h
    have hcs : containersOf root path = cs := by simp [containersOf, h, Except.toOption]
    rw [hcs]
    exact Or.inl ⟨hne, by simp [errorsOf, h], hreads⟩
  | error e =>
    have hcs : containersOf root path = [] := by simp [containersOf, h, Except.toOption]
    exact Or.inr ⟨hcs, e, by simp [errorsOf, h], tells_of_loadFile h⟩

theorem discoverArtifact_eq (root : FileTree) (d : Discovery) (path : Path) : discoverArtifact root d path =
    { containers := d.containers ++ containersOf root path, errors := d.errors ++ errorsOf root path } := by
  cases h : loadFile root path <;> simp [discoverArtifact, containersOf, errorsOf, h, Except.toOption]

theorem foldl_discoverArtifact (root : FileTree) : ∀ (paths : List Path) (d : Discovery),
    paths.foldl (discoverArtifact root) d =
      { containers := d.containers ++ paths.flatMap (containersOf root)
        errors := d.errors ++ paths.flatMap (errorsOf root) }
  | [], d => by simp
  | path :: paths, d => by
    rw [List.foldl_cons, discoverArtifact_eq, foldl_discoverArtifact root paths]
    simp

/-- The containers of the artifacts of a directory, artifact by artifact. -/
def containersIn (root : FileTree) (dir : Path) : List Container := (root.artifactsIn dir).flatMap (containersOf root)

/-- The errors of the artifacts of a directory, artifact by artifact. -/
def errorsIn (root : FileTree) (dir : Path) : List PluginError := (root.artifactsIn dir).flatMap (errorsOf root)

/-- A scan puts together what the artifacts of a directory give, or it fails and there are none. -/
theorem scanDirectory_cases (root : FileTree) (dir : Path) :
    scanDirectory root dir = .ok { containers := containersIn root dir, errors := errorsIn root dir } ∨
      (∃ fault, scanDirectory root dir = .error (.unreadableArtifact dir fault)) ∧ root.artifactsIn dir = [] := by
  have hnone : ∀ fault, root.find dir = .error fault → root.artifactsIn dir = [] := by
    intro fault h
    simp [FileTree.artifactsIn, FileTree.artifacts, FileTree.entries, h, bind, Except.bind, Except.toOption]
  unfold scanDirectory
  split
  · rename_i h
    exact Or.inl (by simp [containersIn, errorsIn, hnone _ h])
  · rename_i fault _ h
    exact Or.inr ⟨⟨fault, rfl⟩, hnone fault h⟩
  · split
    · rename_i fault h
      exact Or.inr ⟨⟨fault, rfl⟩, by simp [FileTree.artifactsIn, h, Except.toOption]⟩
    · rename_i paths h
      refine Or.inl ?_
      rw [foldl_discoverArtifact]
      simp [containersIn, errorsIn, FileTree.artifactsIn, h, Except.toOption]

end Loader
end PluginHost
