import PluginHost.Plugin.Registry

/-!
# Built-in plugins

Two plugins that need no library: one does nothing, the other always refuses to start.
-/

namespace PluginHost

def Plugin.idle : Plugin := { activate := fun _ => { outcome := .done }, deactivate := .done }

/-- A plugin that refuses to start. -/
def Plugin.failing : Plugin :=
  { activate := fun c => { outcome := .refused ("plugin '" ++ c.manifest.id ++ "' is configured to fail") }
    deactivate := .done }

/-- The entry point of the plugin that does nothing. -/
def idleEntryPoint : String := "builtin:noop"

/-- The entry point of the plugin that refuses to start. -/
def failingEntryPoint : String := "builtin:fail"

/-- The factories of the built-in plugins. -/
def Registry.builtin : Registry :=
  { factories := (IdMap.empty.insert idleEntryPoint fun _ => .ok .idle).insert failingEntryPoint fun _ => .ok .failing }

end PluginHost
