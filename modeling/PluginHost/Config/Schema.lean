import PluginHost.Config.Basic
import PluginHost.Document.Schema

/-!
# Configurations as documents
-/

namespace PluginHost.Config

/-- Reads a configuration from the fields of a table; a missing field has its default. -/
def ofFields (fields : List (String × Document)) : Except SchemaError Config := do
  let limit ← Decoder.field? fields "activation_timeout_ms" (Decoder.optional Decoder.natural)
  let apiVersion ← Decoder.field? fields "api_version" Decoder.text
  let disabled ← Decoder.field? fields "disabled" (Decoder.list Decoder.text)
  let pluginsDir ← Decoder.field? fields "plugins_dir" (Decoder.textAs "path string")
  return {
    pluginsDir := (pluginsDir.map Path.mk).getD defaultPluginsDir, apiVersion := apiVersion.getD defaultApiVersion,
    activationLimit := limit.join, disabled := disabled.getD [] }

/-- Reads a configuration from a list of its fields. -/
def ofItems (items : List Document) : Except SchemaError Config := do
  let (pluginsDir, rest) ← Decoder.next (Decoder.textAs "path string") defaultPluginsDir.text items
  let (apiVersion, rest) ← Decoder.next Decoder.text defaultApiVersion rest
  let (limit, rest) ← Decoder.next (Decoder.optional Decoder.natural) none rest
  let (disabled, rest) ← Decoder.next (Decoder.list Decoder.text) [] rest
  Decoder.finish items.length rest
  return { pluginsDir := ⟨pluginsDir⟩, apiVersion, activationLimit := limit, disabled }

def ofDocument : Decoder Config
  | .table fields => ofFields fields
  | .list items => ofItems items
  | d => Decoder.refuse "struct HostConfig" d

end PluginHost.Config
