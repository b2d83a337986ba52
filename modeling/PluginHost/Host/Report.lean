import PluginHost.Manifest.Dependency

/-!
# Reports

What came of loading: the loaded plugins in the order of their activation, the failed ones with the cause, and the
artifacts that gave no plugin.
-/

namespace PluginHost

/-- What came of loading. -/
structure Report where
  loaded : List PluginId := []
  failed : List (PluginId × String) := []
  discoveryErrors : List String := []
deriving DecidableEq, Repr

namespace Report

def isClean (r : Report) : Bool := r.failed.isEmpty && r.discoveryErrors.isEmpty

/-- The lines of a report; a part without entries is left out, the loaded plugins apart. -/
def lines (r : Report) : List String :=
  [s!"Loaded {r.loaded.length} plugin(s)"] ++ r.loaded.map ("  + " ++ ·)
    ++ (if r.failed.isEmpty then [] else
      [s!"Failed {r.failed.length} plugin(s)"] ++ r.failed.map fun p => "  - " ++ p.1 ++ ": " ++ p.2)
    ++ (if r.discoveryErrors.isEmpty then [] else
      [s!"{r.discoveryErrors.length} discovery error(s)"] ++ r.discoveryErrors.map ("  ! " ++ ·))

/-- The text of a report: its lines, each ended by a line feed. -/
def render (r : Report) : String := String.join (r.lines.map (· ++ "\n"))

end Report
end PluginHost
