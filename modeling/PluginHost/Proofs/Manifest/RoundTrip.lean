import PluginHost.Proofs.Document.Json
import PluginHost.Proofs.Manifest.Validation

/-!
# Manifests are read as they were written

What `Dependency.toDocument` and `Manifest.toDocument` write states what they were given
(`Dependency.stated_toDocument`, `Manifest.stated_toDocument`), and so reading takes back the texts that a printer makes
of it.

* `Manifest.parseAll_print`: manifests that a check leaves as they are come back from the text of a list of them, and
  each of them from a text of its own.
-/

namespace PluginHost

namespace Document

variable {α : Type} {Says : Document → α → Prop} {write : α → Document}

theorem isText (s : String) : IsText (.text s) s := rfl

theorem isRange (r : VersionRange) : IsRange (.text r.text) r := rfl

theorem IsList.map (h : ∀ a, Says (write a) a) (as : List α) : IsList Says (.list (as.map write)) as :=
  .list (List.forall₂_map_left_iff.mpr (List.forall₂_same.mpr fun a _ => h a))

/-- A value that may be left out is stated, whether it was left out or not. -/
theorem Gives.nullable (h : ∀ a, Says (write a) a) : ∀ o : Option α, Gives (IsNullable Says) none (o.map write) o
  | none => .absent
  | some a => .present (.value (h a))

end Document

open Document

/-! ## Documents -/

theorem Dependency.stated_toDocument (d : Dependency) : Stated d.toDocument d := by
  obtain ⟨fields, hfields⟩ : ∃ fields, d.toDocument = .table fields := ⟨_, rfl⟩
  obtain ⟨hid, hincompatible, hoptional, hversion⟩ : Document.field? "id" fields = some (.text d.id) ∧
      Document.field? "incompatible" fields = (d.incompatible.map fun r => .text r.text) ∧
      Document.field? "optional" fields = some (.bool !d.required) ∧
      Document.field? "version" fields = (d.version.map fun r => .text r.text) := by
    obtain rfl := Document.table.inj hfields
    cases d.incompatible <;> cases d.version <;> simp [Document.field?, Keyed.lookup_cons]
  rw [hfields]
  refine ⟨_, .table fields, ?_⟩
  exact {
    id := hid
    version := hversion ▸ .nullable isRange d.version
    incompatible := hincompatible ▸ .nullable isRange d.incompatible
    optional := hoptional ▸ .present rfl }

namespace Manifest

theorem stated_toDocument (m : Manifest) : Stated m.toDocument m := by
  obtain ⟨fields, hfields⟩ : ∃ fields, m.toDocument = .table fields := ⟨_, rfl⟩
  obtain ⟨hapi, hauthors, hdependencies, hdescription, hentry, hid, hname, htags, hversion⟩ :
      Document.field? "api_versions" fields = some (.list (m.apiVersions.map fun r => .text r.text)) ∧
      Document.field? "authors" fields = some (.list (m.authors.map .text)) ∧
      Document.field? "dependencies" fields = some (.list (m.dependencies.map Dependency.toDocument)) ∧
      Document.field? "description" fields = m.description.map .text ∧
      Document.field? "entry_point" fields = some (.text m.entryPoint) ∧
      Document.field? "id" fields = some (.text m.id) ∧ Document.field? "name" fields = some (.text m.name) ∧
      Document.field? "tags" fields = some (.list (m.tags.map .text)) ∧
      Document.field? "version" fields = some (.text m.version) := by
    obtain rfl := Document.table.inj hfields
    cases m.description <;> simp [Document.field?, Keyed.lookup_cons, Function.comp_def]
  rw [hfields]
  refine ⟨_, .table fields, ?_⟩
  exact {
    id := hid
    name := hname ▸ .present rfl
    version := hversion
    description := hdescription ▸ .nullable isText m.description
    authors := hauthors ▸ .present (.map isText m.authors)
    entryPoint := hentry ▸ .present rfl
    apiVersions := hapi ▸ .present (.map isRange m.apiVersions)
    dependencies := hdependencies ▸ .present (.map Dependency.stated_toDocument m.dependencies)
    tags := htags ▸ .present (.map isText m.tags) }

end Manifest

/-! ## Plain documents -/

theorem Dependency.plain_toDocument (d : Dependency) : d.toDocument.Plain 1 := by
  have hkeys : Ascending ["id", "incompatible", "optional", "version"] := by unfold Ascending; decide
  unfold toDocument
  cases d.incompatible <;> cases d.version <;>
    exact .table (hkeys.sublist (by simp)) (by simp [Document.Plain.text, Document.Plain.bool])

namespace Manifest

theorem plain_toDocument (m : Manifest) : m.toDocument.Plain 3 := by
  have hdependencies : (Document.list (m.dependencies.map Dependency.toDocument)).Plain 2 := .list fun d hd => by
    obtain ⟨dependency, -, rfl⟩ := List.mem_map.mp hd
    exact dependency.plain_toDocument
  have htexts : ∀ texts : List String, (Document.list (texts.map .text)).Plain 2 := fun texts => .list fun d hd => by
    obtain ⟨s, -, rfl⟩ := List.mem_map.mp hd
    exact .text s
  have hkeys : Ascending ["api_versions", "authors", "dependencies", "description", "entry_point", "id", "name", "tags",
      "version"] := by unfold Ascending; decide
  unfold toDocument
  cases m.description <;>
    exact .table (hkeys.sublist (by simp)) (by simp [Document.Plain.text, hdependencies, htexts, -List.map_map])

/-- The document that declares several plugins. -/
def documentOf (ms : List Manifest) : Document := .table [("plugins", .list (ms.map toDocument))]

theorem plain_documentOf (ms : List Manifest) : (documentOf ms).Plain 5 := by
  refine .table (List.pairwise_singleton _ _) fun f hf => ?_
  obtain rfl := List.mem_singleton.mp hf
  refine .list fun d hd => ?_
  obtain ⟨m, -, rfl⟩ := List.mem_map.mp hd
  exact m.plain_toDocument

theorem plugins?_documentOf (ms : List Manifest) : (documentOf ms).plugins? = some (ms.map toDocument) := by
  simp [documentOf, Document.plugins?, Document.field?]

theorem plugins?_toDocument (m : Manifest) : m.toDocument.plugins? = some [m.toDocument] := by
  unfold toDocument
  cases m.description <;> simp [Document.plugins?, Document.field?, Keyed.lookup_cons]

/-! ## Texts -/

theorem checkAll_eq_self : ∀ {ms : List Manifest}, (∀ m ∈ ms, m.check = .ok m) → checkAll ms = .ok ms
  | [], _ => rfl
  | m :: ms, h => by
    obtain ⟨hm, hms⟩ := List.forall_mem_cons.mp h
    simp only [checkAll, hm, checkAll_eq_self hms]
    rfl

theorem check_of_validate {m : Manifest} {path : Path} (h : m.validate path = .ok m) : m.check = .ok m := by
  unfold validate at h
  split at h
  · rename_i hcheck
    rw [hcheck, Except.ok.inj h]
  · cases h

/-- Manifests that a check leaves as they are come back from a text of them. -/
theorem parseAll_of_read {path : Path} {content : String} {format : Format} {d : Document} {ms : List Manifest}
    (hpath : Format.ofPath? path = some format) (hread : Document.read? format content = some d)
    (hplugins : d.plugins? = some (ms.map toDocument)) (hne : ms ≠ [])
    (hvalid : ∀ m ∈ ms, m.validate path = .ok m) : parseAll path content = .ok ms := by
  have hdeclares : Declares path content ms := by
    refine ⟨format, d, _, hpath, hread, hplugins, ?_⟩
    rw [List.forall₂_map_left_iff, List.forall₂_same]
    exact fun m _ => m.stated_toDocument
  rw [parseAll_of_declares hdeclares hne, checkAll_eq_self fun m hm => check_of_validate (hvalid m hm)]
  rfl

/-- Manifests that a check leaves as they are come back from the JSON text of all of them, in their order, and each of
them from a text of its own. They come back whole, the ranges of versions with their texts and their requirements. -/
theorem parseAll_print {print : Document → String}
    (inverts : ∀ {d : Document} {depth : Nat}, d.Plain depth → depth < Json.maxDepth →
      Document.read? .json (print d) = some d)
    {path : Path} (hpath : Format.ofPath? path = some .json) {ms : List Manifest} (hne : ms ≠ [])
    (hvalid : ∀ m ∈ ms, m.validate path = .ok m) :
    parseAll path (print (documentOf ms)) = .ok ms ∧ ∀ m ∈ ms, parseAll path (print m.toDocument) = .ok [m] := by
  refine ⟨?_, fun m hm => ?_⟩
  · have hread : Document.read? .json (print (documentOf ms)) = some (documentOf ms) :=
      inverts (plain_documentOf ms) (by decide)
    exact parseAll_of_read hpath hread (plugins?_documentOf ms) hne hvalid
  · have hread : Document.read? .json (print m.toDocument) = some m.toDocument :=
      inverts m.plain_toDocument (by decide)
    refine parseAll_of_read hpath hread (plugins?_toDocument m) (List.cons_ne_nil m []) ?_
    exact fun m' hm' => List.mem_singleton.mp hm' ▸ hvalid m hm

/-- Two plugins, one of which says all that can be said, and says of the other that it can do without it. -/
def bundle : List Manifest :=
  let range : VersionRange :=
    { text := "^2", requirement := ⟨[{ op := .caret, major := 2, precision := .major }]⟩, declared := rfl }
  [{ id := "chat", name := "Chat \"beta\"", version := "1.0.0-rc.1", description := some "Talk\n\u0001",
     authors := ["A", "B"], entryPoint := "libchat.so", apiVersions := [range], tags := ["social"],
     dependencies := [{ id := "maps", version := range, required := false }, { id := "core", incompatible := range }] },
    .create "maps" "2.1.0"]

/-- A printer whose texts are read back is the one of `Json.print`. -/
theorem parseAll_print_bundle :
    parseAll ⟨"bundle.plugin.JSON"⟩ (Json.print (documentOf bundle)) = .ok bundle ∧
      ∀ m ∈ bundle, parseAll ⟨"bundle.plugin.JSON"⟩ (Json.print m.toDocument) = .ok [m] := by
  have hvalid : ∀ m ∈ bundle, m.validate ⟨"bundle.plugin.JSON"⟩ = .ok m := by
    simp only [bundle, List.forall_mem_cons]
    exact ⟨rfl, rfl, fun _ hm => (nomatch hm)⟩
  exact parseAll_print (fun h hdepth => Json.read?_print h hdepth) rfl (List.cons_ne_nil _ _) hvalid

end Manifest
end PluginHost
