import PluginHost.Config.Schema
import PluginHost.Document.Read
import PluginHost.Files.Tree

/-!
# Reading configurations

A configuration file is read with the fields of a configuration in mind: no field of one is given twice, and what is
said under other keys does not matter. In YAML a text is any scalar as it is written.

* `api_of_load`: a configuration that could be read has a host version.
-/

namespace PluginHost.Config

def fieldNames : List String := ["plugins_dir", "api_version", "activation_timeout_ms", "disabled"]

/-- The value of a field that is given once at most: `none` inside when it is not given. -/
def single? {α : Type} (name : String) (fields : List (String × α)) : Option (Option α) :=
  match fields.filter (·.1 = name) with
  | [] => some none
  | [field] => some (some field.2)
  | _ => none

/-! ## JSON -/

/-- The fields of a configuration among those of an object. Every key has to be a text. -/
def jsonFields? : List (Option String × Json) → Option (List (String × Document))
  | [] => some []
  | (key, value) :: fields => do
    let key ← key
    let more ← jsonFields? fields
    if key ∈ fieldNames then return (key, ← value.toDocument?) :: more else return more

def ofJson? : Json → Option Config
  | .object fields => do
    let fields ← jsonFields? fields
    if ¬ (fields.map Prod.fst).Nodup then none
    (ofFields fields).toOption
  | .array items => do (ofItems (← items.mapM Json.toDocument?)).toOption
  | _ => none

/-! ## TOML -/

/-- Reads a configuration from TOML. No limit is a number with a point, one without a value included. -/
def ofToml? : Toml → Option Config
  | .table origin fields =>
    match fields.lookup "activation_timeout_ms" with
    | some (.float _) => none
    | _ => (ofDocument (Toml.toDocument (.table origin fields))).toOption
  | _ => none

/-! ## YAML -/

/-- The text of a scalar. -/
def yamlText? (root node : Yaml) : Option String :=
  match root.follow node with
  | .scalar _ _ s => some s
  | _ => none

def isBlank (style : ScalarStyle) (s : String) : Bool := style == .plain && s == ""

/-- The number that a text without a minus sign writes, if it has 64 bits at most. -/
def yamlNatural? (s : String) : Option Nat :=
  if s.toList.head? = some '-' then none
  else (Yaml.integer? s.toList).bind fun n => if n < Nat.pow 2 64 then some n.toNat else none

/-- The limit of activations: none inside for null. -/
def yamlLimit? (root node : Yaml) : Option (Option Nat) :=
  match root.follow node with
  | .scalar tag style s =>
    if style = .plain ∧ tag = some (Yaml.coreTag "null") then if Yaml.isNull s then some none else none
    else if style = .plain ∧ tag = none ∧ (s = "" ∨ Yaml.isNull s) then some none
    else if style = .plain ∨ style = .literal ∧ tag = some (Yaml.coreTag "int") then (yamlNatural? s).map some
    else none
  | _ => none

/-- The texts of a sequence; a scalar without anything is the empty sequence. -/
def yamlTexts? (root node : Yaml) : Option (List String) :=
  match root.follow node with
  | .sequence _ items => items.mapM (yamlText? root)
  | .scalar _ style s => if isBlank style s then some [] else none
  | _ => none

/-- Reads a configuration from the entries of a mapping. -/
def ofEntries? (root : Yaml) (entries : List (Yaml × Yaml)) : Option Config := do
  let fields ← entries.mapM fun (key, value) => (yamlText? root key).map fun key => (key, value)
  let pluginsDir ← (← single? "plugins_dir" fields).mapM (yamlText? root)
  let apiVersion ← (← single? "api_version" fields).mapM (yamlText? root)
  let limit ← (← single? "activation_timeout_ms" fields).mapM (yamlLimit? root)
  let disabled ← (← single? "disabled" fields).mapM (yamlTexts? root)
  return {
    pluginsDir := (pluginsDir.map Path.mk).getD defaultPluginsDir, apiVersion := apiVersion.getD defaultApiVersion,
    activationLimit := limit.join, disabled := disabled.getD [] }

/-- Reads a configuration from YAML; nothing at all is the default configuration. -/
def ofYaml? : Option Yaml → Option Config
  | none => some {}
  | some root =>
    match root.follow root with
    | .mapping _ entries => ofEntries? root entries
    | .scalar _ style s => if isBlank style s then some {} else none
    | _ => none

/-! ## Files -/

def ofText? : Format → String → Option Config
  | .json, s => (Json.parse? s).bind ofJson?
  | .yaml, s => (Yaml.parse? s).bind ofYaml?
  | .toml, s => (Toml.parse? s).bind ofToml?

/-- Reads the configuration file at a path, whose extension tells the format. The host version has to be one. -/
def load (root : FileTree) (path : Path) : Except ConfigError Config := do
  let some format := Format.ofPath? path | .error (.unsupportedFormat path)
  let content ← (root.readText path).mapError (.unreadable path)
  let some config := ofText? format content | .error (.deserialize format)
  match config.api with
  | .ok _ => .ok config
  | .error e => .error (.apiVersion e)

/-- A configuration that could be read has a host version. -/
theorem api_of_load {root : FileTree} {path : Path} {config : Config} (h : load root path = .ok config) :
    ∃ api, config.api = .ok api := by
  simp only [load, bind, Except.bind] at h
  split at h
  · split at h
    · cases h
    · split at h
      · split at h
        · rename_i api hapi
          cases h
          exact ⟨api, hapi⟩
        · cases h
      · cases h
  · cases h

end PluginHost.Config
