import PluginHost.Document.Read
import PluginHost.Manifest.Schema
import PluginHost.Manifest.Validation

/-!
# Reading manifests

A text declares one plugin, or several in a list under the key `plugins`. It is read all or nothing.

* `ofDeclaration_ne_nil`: a document that is accepted declares a plugin.
-/

namespace PluginHost.Manifest

/-- The manifests of a document, as declared. -/
def declared : Decoder (List Manifest)
  | .table fields =>
    match Document.field? "plugins" fields with
    | some plugins => Decoder.list ofDocument plugins
    | none => (ofFields fields).map fun m => [m]
  | d => (ofDocument d).map fun m => [m]

/-- Checks manifests in their order, up to the first fault. -/
def checkAll : List Manifest → Except ManifestFault (List Manifest)
  | [] => .ok []
  | m :: ms => do
    let m ← m.check
    let ms ← checkAll ms
    return m :: ms

/-- The plugins that a document declares, checked. -/
def ofDeclaration (d : Document) : Except ManifestFault (List Manifest) :=
  match declared d with
  | .error e => .error (.schema e)
  | .ok [] => .error .noPlugins
  | .ok ms => checkAll ms

/-- The plugins that a text declares; the path tells its format. -/
def ofText (path : Path) (content : String) : Except ManifestFault (List Manifest) :=
  match Format.ofPath? path with
  | none => .error .unsupportedFormat
  | some format =>
    match Document.read? format content with
    | none => .error (.unreadable format)
    | some d => ofDeclaration d

/-- The plugins that the text of an artifact declares. -/
def parseAll (path : Path) (content : String) : Except PluginError (List Manifest) :=
  match ofText path content with
  | .ok ms => .ok ms
  | .error fault => .error (.malformedManifest path fault)

theorem length_checkAll : ∀ {ms ms' : List Manifest}, checkAll ms = .ok ms' → ms'.length = ms.length
  | [], ms', h => by cases h; rfl
  | m :: ms, ms', h => by
    simp only [checkAll, bind, Except.bind] at h
    split at h
    · cases h
    · split at h
      · cases h
      · rename_i h'
        cases h
        simp [length_checkAll h']

/-- A document that is accepted declares a plugin. -/
theorem ofDeclaration_ne_nil {d : Document} {ms : List Manifest} (h : ofDeclaration d = .ok ms) : ms ≠ [] := by
  intro e
  simp only [ofDeclaration] at h
  match hd : declared d with
  | .error _ => rw [hd] at h; cases h
  | .ok [] => rw [hd] at h; cases h
  | .ok (m :: more) =>
    rw [hd] at h
    have := length_checkAll h
    rw [e] at this
    cases this

end PluginHost.Manifest
