import PluginHost.Manifest.Basic
import PluginHost.Plugin.Error

/-!
# What plugins do

A plugin answers when it is activated and when it is stopped. Activation takes a time, which the host compares with its
limit. Every call of plugin code is noted as a `Call`; a result together with the calls made on the way to it is
`Traced`, and `Fragile` when a panic may keep it from being reached.
-/

namespace PluginHost

/-- What a plugin sees while it is activated. -/
structure Context where
  manifest : Manifest
  /-- The version of the host. -/
  api : Version
  /-- The plugins activated so far, in ascending order. -/
  loaded : List PluginId

def Context.inspect (c : Context) : String :=
  "PluginContext \x7b plugin_id: " ++ Text.quoted c.manifest.id ++ ", api_version: " ++ c.api.inspect ++
    ", loaded: " ++ Text.quotedList c.loaded ++ " \x7d"

/-- How a call of plugin code ends. -/
inductive Outcome where
  | done
  | refused (message : String)
  | panicked (payload : Payload)
deriving DecidableEq, Repr

/-- How an activation ends, and after how many milliseconds. -/
structure Activation where
  outcome : Outcome
  duration : Nat := 0

/-- The code of a plugin. A call of it is taken to return at some time, if only by a panic. -/
structure Plugin where
  activate : Context → Activation
  deactivate : Outcome

/-- Builds a plugin for a manifest, or says why it cannot. A factory is taken to return and not to panic: nobody catches
its panic, not even a host. What a loader does with one that panics is told of `FragileFactory`. -/
abbrev Factory := Manifest → Except String Plugin

/-- A factory that may panic. -/
abbrev FragileFactory := Manifest → Except Payload (Except String Plugin)

/-- An activation that is asked for: what is seen, and the plugin that sees it. -/
structure Attempt extends Context where
  plugin : Plugin

/-- A call of plugin code. -/
inductive Call where
  /-- A factory, or the constructor of a library, is asked for a plugin. -/
  | create (manifest : Manifest)
  | activate (attempt : Attempt)
  | deactivate (manifest : Manifest)

def Call.plugin : Call → PluginId
  | create manifest => manifest.id
  | activate attempt => attempt.manifest.id
  | deactivate manifest => manifest.id

/-- A result and the calls made on the way to it. -/
structure Traced (α : Type) where
  calls : List Call
  result : α

namespace Traced

variable {α β : Type}

/-- A result that takes no calls. -/
def pure (a : α) : Traced α := { calls := [], result := a }

/-- Goes on from a result; the calls follow each other. -/
def bind (t : Traced α) (f : α → Traced β) : Traced β :=
  let u := f t.result
  { calls := t.calls ++ u.calls, result := u.result }

instance : Monad Traced := { pure, bind }

/-- Notes a call. -/
def note (call : Call) : Traced Unit := { calls := [call], result := () }

@[simp] theorem pure_eq (a : α) : (Pure.pure a : Traced α) = { calls := [], result := a } := rfl

@[simp] theorem bind_eq (t : Traced α) (f : α → Traced β) :
    t >>= f = { calls := t.calls ++ (f t.result).calls, result := (f t.result).result } := rfl

instance : LawfulMonad Traced := LawfulMonad.mk' Traced
  (fun t => by cases t; simp [Functor.map, Traced.bind, Traced.pure])
  (fun _ _ => rfl)
  (fun t f g => by simp)

end Traced

/-- A calculation that a panic may end. Nothing catches it: what would follow is not done, and what the panic leaves
behind is all that is known of the result. -/
abbrev Fragile := ExceptT Payload Traced

end PluginHost
