import PluginHost.Version.Requirement.Parser

/-!
# Version ranges

A range is a requirement together with the text that declares it, which diagnostics repeat. The two always belong
together (`VersionRange.declared`), so ranges with one text are one range.

* `VersionRange.ext_text`: a range is determined by its text.
* `VersionRange.parse_text`: reading the text of a range gives the range back.
-/

namespace PluginHost

/-- A requirement on versions and the text that declares it. -/
structure VersionRange where
  text : String
  requirement : Requirement
  declared : Requirement.ofChars text.toList = .ok requirement

namespace VersionRange

def parse (text : String) : Except VersionError VersionRange :=
  match declared : Requirement.ofChars text.toList with
  | .ok requirement => .ok { text, requirement, declared }
  | .error fault => .error (.invalidConstraint text fault)

/-- A range is determined by its text. -/
theorem ext_text {a b : VersionRange} (h : a.text = b.text) : a = b := by
  cases a with
  | mk text requirement declared =>
    cases b with
    | mk text' requirement' declared' =>
      cases h
      have : requirement = requirement' := by
        rw [declared] at declared'
        exact Except.ok.inj declared'
      cases this
      rfl

instance : DecidableEq VersionRange := fun a b =>
  if h : a.text = b.text then .isTrue (ext_text h) else .isFalse fun e => h (congrArg text e)

/-- Reading the text of a range gives the range back. -/
theorem parse_text (r : VersionRange) : parse r.text = .ok r := by
  rw [parse]
  split
  · exact congrArg Except.ok (ext_text rfl)
  · rename_i h
    rw [r.declared] at h
    cases h

theorem text_of_parse {text : String} {r : VersionRange} (h : parse text = .ok r) : r.text = text := by
  unfold parse at h
  split at h
  · rw [← Except.ok.inj h]
  · cases h

def includes (r : VersionRange) (v : Version) : Bool := r.requirement.accepts v

/-- Whether the range takes in the version a text says; a text that says none is in no range. -/
def includesText (r : VersionRange) (version : String) : Bool :=
  match Version.parse version with
  | .ok v => r.includes v
  | .error _ => false

end VersionRange
end PluginHost
