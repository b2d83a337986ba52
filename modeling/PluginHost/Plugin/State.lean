/-!
# States of a plugin

`Discovered` leads to `Resolving` and on to `Loaded` or `Failed`; a plugin that is not resolvable goes from `Discovered`
straight to `Failed`. Nothing leads out of the last two.

* `not_canBecome_of_isTerminal`: nothing leads out of a terminal state.
-/

namespace PluginHost

/-- How far a plugin got. -/
inductive PluginState where
  | discovered
  | resolving
  | loaded
  | failed
deriving DecidableEq, Repr

namespace PluginState

def name : PluginState → String
  | discovered => "Discovered"
  | resolving => "Resolving"
  | loaded => "Loaded"
  | failed => "Failed"

/-- A state that is kept for ever. -/
def isTerminal : PluginState → Bool
  | loaded | failed => true
  | _ => false

/-- Whether one state leads to another. -/
def canBecome : PluginState → PluginState → Bool
  | discovered, resolving | discovered, failed | resolving, loaded | resolving, failed => true
  | _, _ => false

/-- Nothing leads out of a terminal state. -/
theorem not_canBecome_of_isTerminal {a : PluginState} (h : a.isTerminal = true) (b : PluginState) :
    a.canBecome b = false := by
  cases a <;> cases b <;> simp_all [isTerminal, canBecome]

end PluginState
end PluginHost
