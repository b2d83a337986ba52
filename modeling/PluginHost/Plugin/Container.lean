import PluginHost.Plugin.Behaviour
import PluginHost.Text.Quoted

/-!
# Containers

A discovered plugin: its manifest, the artifact it came from, and how far it got. A loaded plugin has its instance, a
failed one the cause, and no other has either.

* `state_markFailed`: a failure that is taken in leads to the failed state.
-/

namespace PluginHost

/-- How far a plugin got, and what it got there. -/
inductive Progress where
  | discovered
  | resolving
  | loaded (plugin : Plugin)
  | failed (cause : PluginError)

def Progress.state : Progress → PluginState
  | discovered => .discovered
  | resolving => .resolving
  | loaded _ => .loaded
  | failed _ => .failed

/-- A discovered plugin. -/
structure Container where
  manifest : Manifest
  /-- The artifact the manifest was read from, if any. -/
  source : Option Path := none
  progress : Progress := .discovered

namespace Container

def id (c : Container) : PluginId := c.manifest.id

def version (c : Container) : String := c.manifest.version

def dependencies (c : Container) : List Dependency := c.manifest.dependencies

def state (c : Container) : PluginState := c.progress.state

def isLoaded (c : Container) : Bool := c.state = .loaded

def isFailed (c : Container) : Bool := c.state = .failed

def failure? (c : Container) : Option PluginError :=
  match c.progress with
  | .failed cause => some cause
  | _ => none

def plugin? (c : Container) : Option Plugin :=
  match c.progress with
  | .loaded plugin => some plugin
  | _ => none

/-- Moves on, if the present state leads there. -/
def advance (c : Container) (next : Progress) : Except PluginError Container :=
  if c.state.canBecome next.state then .ok { c with progress := next }
  else .error (.invalidStateTransition c.id c.state next.state)

def beginResolving (c : Container) : Except PluginError Container := c.advance .resolving

def markLoaded (c : Container) (plugin : Plugin) : Except PluginError Container := c.advance (.loaded plugin)

def markFailed (c : Container) (cause : PluginError) : Except PluginError Container := c.advance (.failed cause)

def render (c : Container) : String := c.id ++ "@" ++ c.version

/-- A quoted text, or the word for none. -/
def quotedOption : Option String → String
  | some s => "Some(" ++ Text.quoted s ++ ")"
  | none => "None"

def inspect (c : Container) : String :=
  "PluginContainer \x7b id: " ++ Text.quoted c.id ++ ", version: " ++ Text.quoted c.version ++
    ", source: " ++ quotedOption (c.source.map (·.text)) ++ ", state: " ++ c.state.name ++
    ", failure: " ++ quotedOption (c.failure?.map (·.message)) ++ ", .. \x7d"

/-- A failure that is taken in leads to the failed state. -/
theorem state_markFailed {c c' : Container} {cause : PluginError} (h : c.markFailed cause = .ok c') :
    c'.state = .failed ∧ c'.failure? = some cause := by
  simp only [markFailed, advance] at h
  split at h
  · cases h
    exact ⟨rfl, rfl⟩
  · cases h

end Container
end PluginHost
