import PluginHost.Document.Schema
import PluginHost.Manifest.Basic

/-!
# Manifests as documents

`Manifest.ofDocument` reads a manifest, `Manifest.toDocument` writes one; the same for dependencies. A dependency is
written with the flag `optional`, the opposite of `required`.
-/

namespace PluginHost

namespace Dependency

/-- Reads a dependency from the fields of a table. -/
def ofFields (fields : List (String × Document)) : Except SchemaError Dependency := do
  let id ← Decoder.field? fields "id" Decoder.text
  let incompatible ← Decoder.field? fields "incompatible" (Decoder.optional Decoder.range)
  let optional ← Decoder.field? fields "optional" Decoder.bool
  let version ← Decoder.field? fields "version" (Decoder.optional Decoder.range)
  let id ← Decoder.required "id" id
  return { id, version := version.join, incompatible := incompatible.join, required := !optional.getD false }

def ofItems (items : List Document) : Except SchemaError Dependency := do
  let (id, rest) ← Decoder.nextRequired Decoder.text 0 "struct PluginDependency with 4 elements" items
  let (version, rest) ← Decoder.next (Decoder.optional Decoder.range) none rest
  let (incompatible, rest) ← Decoder.next (Decoder.optional Decoder.range) none rest
  let (optional, rest) ← Decoder.next Decoder.bool false rest
  Decoder.finish items.length rest
  return { id, version, incompatible, required := !optional }

def ofDocument : Decoder Dependency
  | .table fields => ofFields fields
  | .list items => ofItems items
  | d => Decoder.refuse "struct PluginDependency" d

/-- Writes a dependency; absent ranges are left out. -/
def toDocument (d : Dependency) : Document :=
  .table ([("id", .text d.id)]
    ++ (d.incompatible.map fun r => ("incompatible", Document.text r.text)).toList
    ++ [("optional", .bool (!d.required))]
    ++ (d.version.map fun r => ("version", Document.text r.text)).toList)

end Dependency

namespace Manifest

/-- How a message calls a list of too few fields. -/
def expectedItems : String := "struct PluginManifest with 9 elements"

def ofFields (fields : List (String × Document)) : Except SchemaError Manifest := do
  let apiVersions ← Decoder.field? fields "api_versions" (Decoder.list Decoder.range)
  let authors ← Decoder.field? fields "authors" (Decoder.list Decoder.text)
  let dependencies ← Decoder.field? fields "dependencies" (Decoder.list Dependency.ofDocument)
  let description ← Decoder.field? fields "description" (Decoder.optional Decoder.text)
  let entryPoint ← Decoder.field? fields "entry_point" Decoder.text
  let id ← Decoder.field? fields "id" Decoder.text
  let name ← Decoder.field? fields "name" Decoder.text
  let tags ← Decoder.field? fields "tags" (Decoder.list Decoder.text)
  let version ← Decoder.field? fields "version" Decoder.text
  let id ← Decoder.required "id" id
  let version ← Decoder.required "version" version
  return {
    id, name := name.getD "", version, description := description.join, authors := authors.getD [],
    entryPoint := entryPoint.getD "", apiVersions := apiVersions.getD [], dependencies := dependencies.getD [],
    tags := tags.getD [] }

def ofItems (items : List Document) : Except SchemaError Manifest := do
  let (id, rest) ← Decoder.nextRequired Decoder.text 0 expectedItems items
  let (name, rest) ← Decoder.next Decoder.text "" rest
  let (version, rest) ← Decoder.nextRequired Decoder.text 2 expectedItems rest
  let (description, rest) ← Decoder.next (Decoder.optional Decoder.text) none rest
  let (authors, rest) ← Decoder.next (Decoder.list Decoder.text) [] rest
  let (entryPoint, rest) ← Decoder.next Decoder.text "" rest
  let (apiVersions, rest) ← Decoder.next (Decoder.list Decoder.range) [] rest
  let (dependencies, rest) ← Decoder.next (Decoder.list Dependency.ofDocument) [] rest
  let (tags, rest) ← Decoder.next (Decoder.list Decoder.text) [] rest
  Decoder.finish items.length rest
  return { id, name, version, description, authors, entryPoint, apiVersions, dependencies, tags }

def ofDocument : Decoder Manifest
  | .table fields => ofFields fields
  | .list items => ofItems items
  | d => Decoder.refuse "struct PluginManifest" d

/-- Writes a manifest; an absent description is left out. -/
def toDocument (m : Manifest) : Document :=
  let texts := fun (items : List String) => Document.list (items.map .text)
  .table ([("api_versions", texts (m.apiVersions.map (·.text))), ("authors", texts m.authors),
      ("dependencies", .list (m.dependencies.map Dependency.toDocument))]
    ++ (m.description.map fun s => ("description", Document.text s)).toList
    ++ [("entry_point", .text m.entryPoint), ("id", .text m.id), ("name", .text m.name), ("tags", texts m.tags),
      ("version", .text m.version)])

end Manifest
end PluginHost
