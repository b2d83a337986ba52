import Mathlib.Data.List.Basic
import PluginHost.Proofs.Plugin.Loading

/-!
# Calls of plugin code

The calls that are noted tell which plugins were activated (`Loader.activated`) and which were stopped (`stopped`).

* `Loader.load_cases`: a loader activates the plugin of a container, or marks the container as failed.
* `Loader.Orderly`: at every activation the plugins activated before are seen, among them all required ones.
-/

namespace PluginHost

/-- Whether an activation that is asked for comes off. -/
def Loader.succeeds (l : Loader) (attempt : Attempt) : Bool :=
  (judge l.limit (attempt.plugin.activate attempt.toContext)).toBool

/-- The plugin that a call activates. -/
def Loader.activates? (l : Loader) : Call → Option PluginId
  | .activate attempt => if l.succeeds attempt then some attempt.manifest.id else none
  | _ => none

/-- The plugins that calls activate, in this order. -/
def Loader.activated (l : Loader) (calls : List Call) : List PluginId := calls.filterMap l.activates?

/-- The plugin that a call stops. -/
def Call.stops? : Call → Option PluginId
  | .deactivate manifest => some manifest.id
  | _ => none

/-- The plugins that calls stop, in this order. -/
def stopped (calls : List Call) : List PluginId := calls.filterMap Call.stops?

variable {l : Loader} {calls more : List Call} {context : Context} {id : PluginId}

@[simp] theorem stopped_append : stopped (calls ++ more) = stopped calls ++ stopped more :=
  List.filterMap_append

namespace Loader

@[simp] theorem activated_append : l.activated (calls ++ more) = l.activated calls ++ l.activated more :=
  List.filterMap_append

/-! ## Loading a container -/

/-- The calls of an activation that does not come off. -/
inductive Vain (l : Loader) (context : Context) : List Call → Prop
  /-- There is nothing that builds a plugin, or the host is not one it works with. -/
  | none : Vain l context []
  /-- No plugin is built. -/
  | create : Vain l context [.create context.manifest]
  | activate {plugin : Plugin} (h : l.succeeds ⟨context, plugin⟩ = false) :
      Vain l context [.create context.manifest, .activate ⟨context, plugin⟩]

theorem Vain.activated (h : Vain l context calls) : l.activated calls = [] := by
  cases h with
  | none => rfl
  | create => rfl
  | activate h => simp [Loader.activated, activates?, h]

theorem Vain.stopped (h : Vain l context calls) : stopped calls = [] := by
  cases h <;> rfl

theorem activated_of_succeeds {plugin : Plugin} (h : l.succeeds ⟨context, plugin⟩ = true) :
    l.activated [.create context.manifest, .activate ⟨context, plugin⟩] = [context.manifest.id] := by
  simp [activated, activates?, List.filterMap_cons, h]

/-- A plugin that comes up is activated. -/
theorem ComesUp.succeeds {root : FileTree} {c : Container} {loaded : List PluginId} {plugin : Plugin}
    (h : l.ComesUp root c loaded plugin) : l.succeeds ⟨l.contextOf c loaded, plugin⟩ = true := by
  rw [Loader.succeeds, judge_of_done h.done h.inTime]
  rfl

/-- What is called for a plugin that does not come up was in vain. -/
theorem Fails.vain {root : FileTree} {c : Container} {loaded : List PluginId} {cause : ActivationFault}
    (h : l.Fails root c loaded cause) : l.Vain (l.contextOf c loaded) (l.activate root c loaded).calls := by
  cases h with
  | unsupported hno =>
    rw [activate_of_unsupported hno]
    exact .none
  | unbuilt hsupported hrefused =>
    rw [activate_of_refuses hsupported hrefused]
    rcases List.prefix_cons_iff.mp (l.registry.calls_build_prefix root c) with hcalls | ⟨rest, hcalls, hrest⟩
    · rw [hcalls]
      exact .none
    · rw [hcalls, List.prefix_nil.mp hrest]
      exact .create
  | thwarted hsupported hbuilt hcause =>
    rw [activate_of_builds hsupported hbuilt]
    refine .activate ?_
    rw [Loader.succeeds, judge_of_thwarts hcause]
    rfl

/-- A plugin is activated, or the calls were in vain. -/
theorem activate_cases (l : Loader) (root : FileTree) (c : Container) (loaded : List PluginId) :
    (∃ plugin, l.succeeds ⟨l.contextOf c loaded, plugin⟩ = true ∧ l.activate root c loaded =
      { calls := [.create c.manifest, .activate ⟨l.contextOf c loaded, plugin⟩], result := .ok plugin }) ∨
    ∃ calls cause, l.Vain (l.contextOf c loaded) calls ∧
      l.activate root c loaded = { calls, result := .error cause } := by
  rcases comesUp_or_fails l root c loaded with ⟨plugin, h⟩ | ⟨cause, h⟩
  · exact Or.inl ⟨plugin, h.succeeds, activate_of_comesUp h⟩
  · exact Or.inr ⟨_, cause, h.vain, by rw [← activate_of_fails h]⟩

/-- A container that is about to be activated ends up loaded, its plugin being activated, or failed. -/
theorem load_cases (l : Loader) (root : FileTree) {c : Container} (hc : c.progress = .resolving)
    (loaded : List PluginId) :
    (∃ plugin, l.succeeds ⟨l.contextOf c loaded, plugin⟩ = true ∧ l.load root c loaded =
      { calls := [.create c.manifest, .activate ⟨l.contextOf c loaded, plugin⟩]
        result := ({ c with progress := .loaded plugin }, .ok ()) }) ∨
    ∃ calls cause, l.Vain (l.contextOf c loaded) calls ∧ l.load root c loaded =
      { calls, result := ({ c with progress := .failed (.activationError c.id cause) },
          .error (.activationError c.id cause)) } := by
  have hstate : c.state = .resolving := by rw [Container.state, hc, Progress.state]
  rcases activate_cases l root c loaded with ⟨plugin, hs, ha⟩ | ⟨calls, cause, hv, ha⟩
  · exact Or.inl ⟨plugin, hs, by rw [load_of_resolving root hstate, ha]⟩
  · exact Or.inr ⟨calls, cause, hv, by rw [load_of_resolving root hstate, ha]⟩

/-! ## The order of calls -/

/-- A plugin sees exactly the plugins that were activated before, among them all that it requires. -/
def Sees (l : Loader) (before : List Call) (context : Context) : Prop :=
  (∀ id, id ∈ context.loaded ↔ id ∈ l.activated before) ∧
  ∀ d ∈ context.manifest.requiredDependencies, d.id ∈ context.loaded

/-- Whenever a plugin is activated, it sees those activated before and all that it requires. -/
def Orderly (l : Loader) (calls : List Call) : Prop :=
  ∀ before attempt after, calls = before ++ .activate attempt :: after → l.Sees before attempt.toContext

theorem orderly_nil (l : Loader) : l.Orderly [] := by
  intro before attempt after h
  simp at h

/-- One more call matters when it is an activation. -/
theorem Orderly.concat (h : l.Orderly calls) {call : Call} (hcall : ∀ attempt, call = .activate attempt →
    l.Sees calls attempt.toContext) : l.Orderly (calls ++ [call]) := by
  intro before attempt after he
  rcases List.eq_nil_or_concat after with rfl | ⟨after, last, rfl⟩
  · obtain ⟨rfl, hlast⟩ := List.append_inj' he rfl
    exact hcall attempt (List.cons.inj hlast).1
  · have he' : calls ++ [call] = (before ++ .activate attempt :: after) ++ [last] := by simp [he]
    obtain ⟨rfl, _⟩ := List.append_inj' he' rfl
    exact h before attempt after rfl

/-- Calls that are no activations. -/
def Quiet (calls : List Call) : Prop := ∀ call ∈ calls, ∀ attempt, call ≠ .activate attempt

theorem activated_of_quiet (h : Quiet calls) : l.activated calls = [] := by
  refine List.filterMap_eq_nil_iff.mpr fun call hcall => ?_
  cases call with
  | activate attempt => exact absurd rfl (h _ hcall attempt)
  | create manifest => rfl
  | deactivate manifest => rfl

theorem Orderly.quiet : ∀ {more calls : List Call}, l.Orderly calls → Quiet more → l.Orderly (calls ++ more)
  | [], calls, h, _ => by simpa using h
  | call :: more, calls, h, hmore => by
    have hcall : l.Orderly (calls ++ [call]) := h.concat fun attempt he =>
      absurd he (hmore call List.mem_cons_self attempt)
    have hrest := hcall.quiet fun call' h' => hmore call' (List.mem_cons_of_mem _ h')
    rwa [List.append_assoc] at hrest

/-- A plugin is built and activated where it sees what it should. -/
theorem Orderly.attempt (h : l.Orderly calls) (hsees : l.Sees calls context) (manifest : Manifest) (plugin : Plugin) :
    l.Orderly (calls ++ [.create manifest, .activate ⟨context, plugin⟩]) := by
  have hcreate : l.Orderly (calls ++ [.create manifest]) := h.concat fun attempt he => by cases he
  have hsees' : l.Sees (calls ++ [.create manifest]) context := by
    have hsame : l.activated (calls ++ [.create manifest]) = l.activated calls := by simp [activated, activates?]
    rw [Sees, hsame]
    exact hsees
  have hboth : l.Orderly (calls ++ [.create manifest] ++ [.activate ⟨context, plugin⟩]) :=
    hcreate.concat fun attempt he => by
      cases he
      exact hsees'
  simpa using hboth

/-- An attempt in vain stays orderly, where the plugin would see what it should. -/
theorem Orderly.vain (h : l.Orderly calls) (hsees : l.Sees calls context) (hmore : l.Vain context more) :
    l.Orderly (calls ++ more) := by
  cases hmore with
  | none => simpa using h
  | create => exact h.concat fun attempt he => by cases he
  | activate => exact h.attempt hsees _ _

end Loader
end PluginHost
