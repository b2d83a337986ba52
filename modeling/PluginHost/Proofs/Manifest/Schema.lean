import Mathlib.Data.List.Forall2
import PluginHost.Manifest.Schema

/-!
# What documents state

A structure is laid out as a table, where a field stands under its name, or as a list, where it stands in its place
(`Document.Lays`). A document states a dependency or a manifest when each field is what stands there, or its default
where nothing does (`Dependency.Stated`, `Manifest.Stated`). This says nothing of how documents are read; reading them
gives what they state, and nothing else.

* `Dependency.ofDocument_decides`, `Manifest.ofDocument_decides`: a document is read as a value exactly when it states
  the value.
-/

namespace PluginHost

theorem exists_of_bind_eq_ok {ε α β : Type} {x : Except ε α} {f : α → Except ε β} {b : β} (h : x >>= f = .ok b) :
    ∃ a, x = .ok a ∧ f a = .ok b := by
  cases x with
  | error e => cases h
  | ok a => exact ⟨a, rfl, h⟩

variable {α : Type}

/-! ## Statements -/

namespace Document

def IsText (d : Document) (s : String) : Prop := d = .text s

def IsFlag (d : Document) (b : Bool) : Prop := d = .bool b

/-- The document is the text of a range. -/
def IsRange (d : Document) (r : VersionRange) : Prop := d = .text r.text

/-- The document is a list, and each item says its value. -/
inductive IsList (Says : Document → α → Prop) : Document → List α → Prop
  | list {items : List Document} {values : List α} : List.Forall₂ Says items values → IsList Says (.list items) values

/-- The document is null for no value, or says one. -/
inductive IsNullable (Says : Document → α → Prop) : Document → Option α → Prop
  | null : IsNullable Says .null none
  | value {d : Document} {a : α} : Says d a → IsNullable Says d (some a)

/-- What stands in the place of a field says its value, which is a default where nothing stands. -/
inductive Gives (Says : Document → α → Prop) (default : α) : Option Document → α → Prop
  | absent : Gives Says default none default
  | present {d : Document} {a : α} : Says d a → Gives Says default (some d) a

/-- The layout of a structure with the fields named, in their order: what stands in the place of each. A table may have
other keys too; a list may end early, but has no more items than there are fields. -/
inductive Lays (names : List String) : Document → (String → Option Document) → Prop
  | table (fields : List (String × Document)) : Lays names (.table fields) fun name => field? name fields
  | list {items : List Document} : items.length ≤ names.length →
      Lays names (.list items) fun name => items[names.idxOf name]?

theorem getElem?_idxOf {names : List String} (hnames : names.Nodup) (items : List Document) {place : Nat}
    {name : String} (h : names[place]? = some name) : items[names.idxOf name]? = items[place]? := by
  obtain ⟨hplace, rfl⟩ := List.getElem?_eq_some_iff.mp h
  rw [hnames.idxOf_getElem]

end Document

open Document

namespace Dependency

def fieldNames : List String := ["id", "version", "incompatible", "optional"]

theorem nodup_fieldNames : fieldNames.Nodup := by decide

/-- The fields of a dependency; the flag `optional` is the opposite of `required`. -/
structure States (entry : String → Option Document) (d : Dependency) : Prop where
  id : entry "id" = some (.text d.id)
  version : Gives (IsNullable IsRange) none (entry "version") d.version
  incompatible : Gives (IsNullable IsRange) none (entry "incompatible") d.incompatible
  optional : Gives IsFlag false (entry "optional") (!d.required)

/-- The document states the dependency, in a table or in a list. -/
def Stated (document : Document) (d : Dependency) : Prop :=
  ∃ entry, document.Lays fieldNames entry ∧ d.States entry

end Dependency

namespace Manifest

def fieldNames : List String :=
  ["id", "name", "version", "description", "authors", "entry_point", "api_versions", "dependencies", "tags"]

theorem nodup_fieldNames : fieldNames.Nodup := by decide

/-- The fields of a manifest; there is no default for the id and the version. -/
structure States (entry : String → Option Document) (m : Manifest) : Prop where
  id : entry "id" = some (.text m.id)
  name : Gives IsText "" (entry "name") m.name
  version : entry "version" = some (.text m.version)
  description : Gives (IsNullable IsText) none (entry "description") m.description
  authors : Gives (IsList IsText) [] (entry "authors") m.authors
  entryPoint : Gives IsText "" (entry "entry_point") m.entryPoint
  apiVersions : Gives (IsList IsRange) [] (entry "api_versions") m.apiVersions
  dependencies : Gives (IsList Dependency.Stated) [] (entry "dependencies") m.dependencies
  tags : Gives (IsList IsText) [] (entry "tags") m.tags

/-- The document states the manifest, in a table or in a list. -/
def Stated (document : Document) (m : Manifest) : Prop :=
  ∃ entry, document.Lays fieldNames entry ∧ m.States entry

end Manifest

/-! ## Decoders -/

namespace Decoder

/-- The decoder gives exactly the values that documents say. -/
def Decides (decoder : Decoder α) (Says : Document → α → Prop) : Prop :=
  ∀ d a, decoder d = .ok a ↔ Says d a

theorem text_decides : Decides text IsText := by
  intro d s
  cases d <;> simp [text, textAs, refuse, IsText]

theorem bool_decides : Decides bool IsFlag := by
  intro d b
  cases d <;> simp [bool, refuse, IsFlag]

theorem range_decides : Decides range IsRange := by
  intro d r
  cases d with
  | text s =>
    simp only [range, text, textAs, bind, Except.bind, IsRange, text.injEq]
    constructor
    · intro h
      split at h
      · rename_i r' hparse
        obtain rfl := Except.ok.inj h
        exact (VersionRange.text_of_parse hparse).symm
      · cases h
    · rintro rfl
      rw [VersionRange.parse_text]
      rfl
  | _ => simp [range, text, textAs, refuse, IsRange, bind, Except.bind]

variable {decoder : Decoder α} {Says : Document → α → Prop} {a default : α}

theorem items_eq_ok_iff (h : decoder.Decides Says) : ∀ {ds : List Document} {as : List α},
    items decoder ds = .ok as ↔ List.Forall₂ Says ds as
  | [], as => by
    rw [List.forall₂_nil_left_iff]
    exact ⟨fun hitems => (Except.ok.inj hitems).symm, fun hnil => hnil ▸ rfl⟩
  | d :: ds, as => by
    rw [List.forall₂_cons_left_iff]
    constructor
    · intro hitems
      obtain ⟨a, ha, hitems⟩ := exists_of_bind_eq_ok hitems
      obtain ⟨rest, hrest, hitems⟩ := exists_of_bind_eq_ok hitems
      exact ⟨a, rest, (h d a).mp ha, (items_eq_ok_iff h).mp hrest, (Except.ok.inj hitems).symm⟩
    · rintro ⟨a, rest, ha, hrest, rfl⟩
      simp only [items, (h d a).mpr ha, (items_eq_ok_iff h).mpr hrest]
      rfl

theorem list_decides (h : decoder.Decides Says) : (list decoder).Decides (IsList Says) := by
  intro d as
  constructor
  · intro hlist
    cases d with
    | list ds => exact .list ((items_eq_ok_iff h).mp hlist)
    | _ => cases hlist
  · rintro ⟨hitems⟩
    exact (items_eq_ok_iff h).mpr hitems

/-- Null is no value, when it says none by itself. -/
theorem optional_decides (h : decoder.Decides Says) (hnull : ∀ a, ¬Says .null a) :
    (optional decoder).Decides (IsNullable Says) := by
  intro d o
  constructor
  · intro hoptional
    unfold optional at hoptional
    split at hoptional
    · obtain rfl := Except.ok.inj hoptional
      exact .null
    · cases hd : decoder d with
      | error e => rw [hd] at hoptional; cases hoptional
      | ok a =>
        rw [hd] at hoptional
        obtain rfl := Except.ok.inj hoptional
        exact .value ((h d a).mp hd)
  · rintro (_ | hsays)
    · rfl
    · rename_i a
      have hd := (h d a).mpr hsays
      cases d with
      | null => exact absurd hsays (hnull a)
      | _ => simp only [optional, hd, Except.map]

theorem nullable_text_decides : (optional text).Decides (IsNullable IsText) :=
  optional_decides text_decides nofun

theorem nullable_range_decides : (optional range).Decides (IsNullable IsRange) :=
  optional_decides range_decides nofun

/-! ## Fields of a table -/

theorem join_eq_getD (o : Option (Option α)) : o.join = o.getD none := by cases o <;> rfl

variable {fields : List (String × Document)} {name : String}

theorem gives_of_field? (h : decoder.Decides Says) {o : Option α} (hfield : field? fields name decoder = .ok o) :
    Gives Says default (Document.field? name fields) (o.getD default) := by
  unfold field? at hfield
  split at hfield
  · rename_i hnone
    obtain rfl := Except.ok.inj hfield
    exact hnone ▸ .absent
  · rename_i d hsome
    cases hd : decoder d with
    | error e => rw [hd] at hfield; cases hfield
    | ok a =>
      rw [hd] at hfield
      obtain rfl := Except.ok.inj hfield
      exact hsome ▸ .present ((h d a).mp hd)

theorem field?_of_gives (h : decoder.Decides Says) (hgives : Gives Says default (Document.field? name fields) a) :
    ∃ o, field? fields name decoder = .ok o ∧ o.getD default = a := by
  generalize hfield : Document.field? name fields = found at hgives
  cases hgives with
  | absent => exact ⟨none, by simp only [field?, hfield], rfl⟩
  | present hsays => exact ⟨some a, by simp only [field?, hfield, (h _ a).mpr hsays, Except.map], rfl⟩

theorem eq_some_of_required {o : Option α} (h : required name o = .ok a) : o = some a := by
  cases o with
  | none => cases h
  | some b => exact congrArg some (Except.ok.inj h)

theorem field?_text_eq_some_iff {s : String} :
    field? fields name text = .ok (some s) ↔ Document.field? name fields = some (.text s) := by
  unfold field?
  cases Document.field? name fields with
  | none => simp
  | some d =>
    simp only [Option.some.injEq]
    rw [← IsText, ← text_decides]
    cases text d <;> simp [Except.map]

/-! ## Fields in a list -/

variable {β : Type} {items : List Document} {place : Nat} {more : α × List Document → Except SchemaError β} {b : β}

theorem next_bind_eq_ok_iff (h : decoder.Decides Says) :
    (next decoder default (items.drop place) >>= more) = .ok b ↔
      ∃ a, Gives Says default items[place]? a ∧ more (a, items.drop (place + 1)) = .ok b := by
  rw [← List.tail_drop, ← List.head?_drop]
  cases items.drop place with
  | nil => exact ⟨fun hmore => ⟨default, .absent, hmore⟩, fun ⟨_, .absent, hmore⟩ => hmore⟩
  | cons d ds =>
    have hgives : ∀ a, Gives Says default (some d) a ↔ decoder d = .ok a := fun a =>
      ⟨fun | .present hsays => (h d a).mpr hsays, fun hd => .present ((h d a).mp hd)⟩
    simp only [next, List.head?_cons, List.tail_cons, hgives]
    cases decoder d <;> simp [Except.map, bind, Except.bind]

theorem nextRequired_text_bind_eq_ok_iff {more : String × List Document → Except SchemaError β} {expected : String} :
    (nextRequired text place expected (items.drop place) >>= more) = .ok b ↔
      ∃ s, items[place]? = some (.text s) ∧ more (s, items.drop (place + 1)) = .ok b := by
  rw [← List.tail_drop, ← List.head?_drop]
  cases items.drop place with
  | nil => simp [nextRequired, bind, Except.bind]
  | cons d ds =>
    have hsays : ∀ s, d = .text s ↔ text d = .ok s := fun s => (text_decides d s).symm
    simp only [nextRequired, List.head?_cons, List.tail_cons, Option.some.injEq, hsays]
    cases text d <;> simp [Except.map, bind, Except.bind]

theorem finish_bind_eq_ok_iff {length : Nat} {more : Unit → Except SchemaError β} :
    (finish length (items.drop place) >>= more) = .ok b ↔ items.length ≤ place ∧ more () = .ok b := by
  rw [← List.drop_eq_nil_iff]
  cases items.drop place <;> simp [finish, bind, Except.bind]

/-! ## Structures -/

/-- A structure is decided when its tables and its lists are, and nothing else is read as one. -/
theorem decides_of_layouts {names : List String} {States : (String → Option Document) → α → Prop}
    (htable : ∀ fields a, decoder (.table fields) = .ok a ↔ States (fun name => Document.field? name fields) a)
    (hlist : ∀ items a, decoder (.list items) = .ok a ↔
      items.length ≤ names.length ∧ States (fun name => items[names.idxOf name]?) a)
    (hother : ∀ d a, decoder d = .ok a → (∃ fields, d = .table fields) ∨ ∃ items, d = .list items) :
    decoder.Decides fun d a => ∃ entry, d.Lays names entry ∧ States entry a := by
  intro d a
  constructor
  · intro h
    rcases hother d a h with ⟨fields, rfl⟩ | ⟨items, rfl⟩
    · exact ⟨_, .table fields, (htable fields a).mp h⟩
    · obtain ⟨hlength, hstates⟩ := (hlist items a).mp h
      exact ⟨_, .list hlength, hstates⟩
  · rintro ⟨_, ⟨fields⟩ | hlength, hstates⟩
    · exact (htable fields a).mpr hstates
    · exact (hlist _ a).mpr ⟨hlength, hstates⟩

end Decoder

/-! ## Dependencies and manifests -/

open Decoder

namespace Dependency

variable {fields : List (String × Document)} {items : List Document} {d : Dependency}

theorem ofFields_eq_ok_iff : ofFields fields = .ok d ↔ d.States fun name => Document.field? name fields := by
  constructor
  · intro h
    obtain ⟨id, hid, h⟩ := exists_of_bind_eq_ok h
    obtain ⟨incompatible, hincompatible, h⟩ := exists_of_bind_eq_ok h
    obtain ⟨optional, hoptional, h⟩ := exists_of_bind_eq_ok h
    obtain ⟨version, hversion, h⟩ := exists_of_bind_eq_ok h
    obtain ⟨_, hsome, h⟩ := exists_of_bind_eq_ok h
    obtain rfl := eq_some_of_required hsome
    obtain rfl := Except.ok.inj h
    exact {
      id := field?_text_eq_some_iff.mp hid
      version := join_eq_getD version ▸ gives_of_field? nullable_range_decides hversion
      incompatible := join_eq_getD incompatible ▸ gives_of_field? nullable_range_decides hincompatible
      optional := (Bool.not_not _).symm ▸ gives_of_field? bool_decides hoptional }
  · intro h
    obtain ⟨incompatible, hincompatible, hincompatible'⟩ := field?_of_gives nullable_range_decides h.incompatible
    obtain ⟨optional, hoptional, hoptional'⟩ := field?_of_gives bool_decides h.optional
    obtain ⟨version, hversion, hversion'⟩ := field?_of_gives nullable_range_decides h.version
    simp only [ofFields, field?_text_eq_some_iff.mpr h.id, hincompatible, hoptional, hversion, Decoder.required]
    simp [bind, Except.bind, pure, Except.pure, join_eq_getD, hincompatible', hoptional', hversion']

theorem ofItems_eq_ok_iff : ofItems items = .ok d ↔
    items.length ≤ fieldNames.length ∧ d.States fun name => items[fieldNames.idxOf name]? := by
  have hplace : ∀ place name, fieldNames[place]? = some name → items[fieldNames.idxOf name]? = items[place]? :=
    fun _ _ => getElem?_idxOf nodup_fieldNames items
  constructor
  · intro h
    -- every step takes the field at its place, and leaves the list after that place
    obtain ⟨id, hid, h⟩ := nextRequired_text_bind_eq_ok_iff.mp (items.drop_zero.symm ▸ h)
    obtain ⟨version, hversion, h⟩ := (next_bind_eq_ok_iff nullable_range_decides).mp h
    obtain ⟨incompatible, hincompatible, h⟩ := (next_bind_eq_ok_iff nullable_range_decides).mp h
    obtain ⟨optional, hoptional, h⟩ := (next_bind_eq_ok_iff bool_decides).mp h
    obtain ⟨hlength, h⟩ := finish_bind_eq_ok_iff.mp h
    obtain rfl := Except.ok.inj h
    refine ⟨hlength, ?_⟩
    exact {
      id := (hplace 0 "id" rfl).trans hid
      version := hplace 1 "version" rfl ▸ hversion
      incompatible := hplace 2 "incompatible" rfl ▸ hincompatible
      optional := hplace 3 "optional" rfl ▸ (Bool.not_not _).symm ▸ hoptional }
  · rintro ⟨hlength, h⟩
    refine nextRequired_text_bind_eq_ok_iff.mpr ⟨d.id, hplace 0 "id" rfl ▸ h.id, ?_⟩
    refine (next_bind_eq_ok_iff nullable_range_decides).mpr ⟨d.version, hplace 1 "version" rfl ▸ h.version, ?_⟩
    refine (next_bind_eq_ok_iff nullable_range_decides).mpr ⟨_, hplace 2 "incompatible" rfl ▸ h.incompatible, ?_⟩
    refine (next_bind_eq_ok_iff bool_decides).mpr ⟨!d.required, hplace 3 "optional" rfl ▸ h.optional, ?_⟩
    refine finish_bind_eq_ok_iff.mpr ⟨hlength, ?_⟩
    rw [Bool.not_not]
    rfl

/-- A document is read as a dependency exactly when it states the dependency. -/
theorem ofDocument_decides : Decides ofDocument Stated := by
  refine decides_of_layouts (fun _ _ => ofFields_eq_ok_iff) (fun _ _ => ofItems_eq_ok_iff) fun document _ h => ?_
  cases document with
  | table fields => exact Or.inl ⟨fields, rfl⟩
  | list items => exact Or.inr ⟨items, rfl⟩
  | _ => cases h

end Dependency

namespace Manifest

variable {fields : List (String × Document)} {items : List Document} {m : Manifest}

theorem texts_decides : (list text).Decides (IsList IsText) := list_decides text_decides

theorem ranges_decides : (list range).Decides (IsList IsRange) := list_decides range_decides

theorem dependencies_decides : (list Dependency.ofDocument).Decides (IsList Dependency.Stated) :=
  list_decides Dependency.ofDocument_decides

theorem ofFields_eq_ok_iff : ofFields fields = .ok m ↔ m.States fun name => Document.field? name fields := by
  constructor
  · intro h
    obtain ⟨apiVersions, hapi, h⟩ := exists_of_bind_eq_ok h
    obtain ⟨authors, hauthors, h⟩ := exists_of_bind_eq_ok h
    obtain ⟨dependencies, hdependencies, h⟩ := exists_of_bind_eq_ok h
    obtain ⟨description, hdescription, h⟩ := exists_of_bind_eq_ok h
    obtain ⟨entryPoint, hentry, h⟩ := exists_of_bind_eq_ok h
    obtain ⟨id, hid, h⟩ := exists_of_bind_eq_ok h
    obtain ⟨name, hname, h⟩ := exists_of_bind_eq_ok h
    obtain ⟨tags, htags, h⟩ := exists_of_bind_eq_ok h
    obtain ⟨version, hversion, h⟩ := exists_of_bind_eq_ok h
    obtain ⟨_, hsome, h⟩ := exists_of_bind_eq_ok h
    obtain ⟨_, hsome', h⟩ := exists_of_bind_eq_ok h
    obtain rfl := eq_some_of_required hsome
    obtain rfl := eq_some_of_required hsome'
    obtain rfl := Except.ok.inj h
    exact {
      id := field?_text_eq_some_iff.mp hid
      name := gives_of_field? text_decides hname
      version := field?_text_eq_some_iff.mp hversion
      description := join_eq_getD description ▸ gives_of_field? nullable_text_decides hdescription
      authors := gives_of_field? texts_decides hauthors
      entryPoint := gives_of_field? text_decides hentry
      apiVersions := gives_of_field? ranges_decides hapi
      dependencies := gives_of_field? dependencies_decides hdependencies
      tags := gives_of_field? texts_decides htags }
  · intro h
    obtain ⟨apiVersions, hapi, hapi'⟩ := field?_of_gives ranges_decides h.apiVersions
    obtain ⟨authors, hauthors, hauthors'⟩ := field?_of_gives texts_decides h.authors
    obtain ⟨dependencies, hdependencies, hdependencies'⟩ := field?_of_gives dependencies_decides h.dependencies
    obtain ⟨description, hdescription, hdescription'⟩ := field?_of_gives nullable_text_decides h.description
    obtain ⟨entryPoint, hentry, hentry'⟩ := field?_of_gives text_decides h.entryPoint
    obtain ⟨name, hname, hname'⟩ := field?_of_gives text_decides h.name
    obtain ⟨tags, htags, htags'⟩ := field?_of_gives texts_decides h.tags
    simp only [ofFields, field?_text_eq_some_iff.mpr h.id, field?_text_eq_some_iff.mpr h.version, hapi, hauthors,
      hdependencies, hdescription, hentry, hname, htags, required]
    simp [bind, Except.bind, pure, Except.pure, join_eq_getD, hapi', hauthors', hdependencies', hdescription', hentry',
      hname', htags']

theorem ofItems_eq_ok_iff : ofItems items = .ok m ↔
    items.length ≤ fieldNames.length ∧ m.States fun name => items[fieldNames.idxOf name]? := by
  have hplace : ∀ place name, fieldNames[place]? = some name → items[fieldNames.idxOf name]? = items[place]? :=
    fun _ _ => getElem?_idxOf nodup_fieldNames items
  constructor
  · intro h
    obtain ⟨id, hid, h⟩ := nextRequired_text_bind_eq_ok_iff.mp (items.drop_zero.symm ▸ h)
    obtain ⟨name, hname, h⟩ := (next_bind_eq_ok_iff text_decides).mp h
    obtain ⟨version, hversion, h⟩ := nextRequired_text_bind_eq_ok_iff.mp h
    obtain ⟨description, hdescription, h⟩ := (next_bind_eq_ok_iff nullable_text_decides).mp h
    obtain ⟨authors, hauthors, h⟩ := (next_bind_eq_ok_iff texts_decides).mp h
    obtain ⟨entryPoint, hentry, h⟩ := (next_bind_eq_ok_iff text_decides).mp h
    obtain ⟨apiVersions, hapi, h⟩ := (next_bind_eq_ok_iff ranges_decides).mp h
    obtain ⟨dependencies, hdependencies, h⟩ := (next_bind_eq_ok_iff dependencies_decides).mp h
    obtain ⟨tags, htags, h⟩ := (next_bind_eq_ok_iff texts_decides).mp h
    obtain ⟨hlength, h⟩ := finish_bind_eq_ok_iff.mp h
    obtain rfl := Except.ok.inj h
    refine ⟨hlength, ?_⟩
    exact {
      id := (hplace 0 "id" rfl).trans hid
      name := hplace 1 "name" rfl ▸ hname
      version := (hplace 2 "version" rfl).trans hversion
      description := hplace 3 "description" rfl ▸ hdescription
      authors := hplace 4 "authors" rfl ▸ hauthors
      entryPoint := hplace 5 "entry_point" rfl ▸ hentry
      apiVersions := hplace 6 "api_versions" rfl ▸ hapi
      dependencies := hplace 7 "dependencies" rfl ▸ hdependencies
      tags := hplace 8 "tags" rfl ▸ htags }
  · rintro ⟨hlength, h⟩
    refine nextRequired_text_bind_eq_ok_iff.mpr ⟨m.id, hplace 0 "id" rfl ▸ h.id, ?_⟩
    refine (next_bind_eq_ok_iff text_decides).mpr ⟨m.name, hplace 1 "name" rfl ▸ h.name, ?_⟩
    refine nextRequired_text_bind_eq_ok_iff.mpr ⟨m.version, hplace 2 "version" rfl ▸ h.version, ?_⟩
    refine (next_bind_eq_ok_iff nullable_text_decides).mpr ⟨_, hplace 3 "description" rfl ▸ h.description, ?_⟩
    refine (next_bind_eq_ok_iff texts_decides).mpr ⟨m.authors, hplace 4 "authors" rfl ▸ h.authors, ?_⟩
    refine (next_bind_eq_ok_iff text_decides).mpr ⟨m.entryPoint, hplace 5 "entry_point" rfl ▸ h.entryPoint, ?_⟩
    refine (next_bind_eq_ok_iff ranges_decides).mpr ⟨_, hplace 6 "api_versions" rfl ▸ h.apiVersions, ?_⟩
    refine (next_bind_eq_ok_iff dependencies_decides).mpr ⟨_, hplace 7 "dependencies" rfl ▸ h.dependencies, ?_⟩
    refine (next_bind_eq_ok_iff texts_decides).mpr ⟨m.tags, hplace 8 "tags" rfl ▸ h.tags, ?_⟩
    exact finish_bind_eq_ok_iff.mpr ⟨hlength, rfl⟩

/-- A document is read as a manifest exactly when it states the manifest. -/
theorem ofDocument_decides : Decides ofDocument Stated := by
  refine decides_of_layouts (fun _ _ => ofFields_eq_ok_iff) (fun _ _ => ofItems_eq_ok_iff) fun document _ h => ?_
  cases document with
  | table fields => exact Or.inl ⟨fields, rfl⟩
  | list items => exact Or.inr ⟨items, rfl⟩
  | _ => cases h

-- fields at the end of a list may be left out, others only emptied
example : ofDocument (.list [.text "a", .text "", .text "1.0.0", .null]) = .ok { id := "a", version := "1.0.0" } := rfl

end Manifest
end PluginHost
