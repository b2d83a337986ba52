import PluginHost.Version.Basic

/-!
# Requirements on versions

A requirement is a list of comparators, all of which have to hold. A version with a pre-release is accepted only when
a comparator names a pre-release of the very same three numbers.

* `accepts_any_iff`: the requirement without comparators accepts exactly the releases.
-/

namespace PluginHost

/-- How a comparator compares. -/
inductive Operator where
  | exact
  | greater
  | greaterEq
  | less
  | lessEq
  | tilde
  | caret
  | wildcard
deriving DecidableEq, Repr

/-- The sign of an operator; a wildcard comparator has none. -/
def Operator.sign : Operator → String
  | exact => "="
  | greater => ">"
  | greaterEq => ">="
  | less => "<"
  | lessEq => "<="
  | tilde => "~"
  | caret => "^"
  | wildcard => ""

/-- How much a comparator says beyond the major number. -/
inductive Precision where
  | major
  | minor (minor : Nat)
  | full (minor patch : Nat) (pre : List Segment)
deriving DecidableEq, Repr

/-- A comparison with a version that may be given in part only. -/
structure Comparator where
  op : Operator
  major : Nat
  precision : Precision
deriving DecidableEq, Repr

namespace Comparator

/-- The given numbers are equal, and so is the pre-release (none when the patch number is left out). -/
def equals (c : Comparator) (v : Version) : Bool :=
  v.major == c.major && match c.precision with
    | .major => v.pre == []
    | .minor minor => v.minor == minor && v.pre == []
    | .full minor patch pre => v.minor == minor && v.patch == patch && v.pre == pre

/-- The version stands above the given parts: equal parts do not decide when one is left out. -/
def below (c : Comparator) (v : Version) : Bool :=
  if v.major ≠ c.major then c.major < v.major
  else match c.precision with
    | .major => false
    | .minor minor => minor < v.minor
    | .full minor patch pre =>
      if v.minor ≠ minor then minor < v.minor
      else if v.patch ≠ patch then patch < v.patch
      else Version.comparePre v.pre pre == .gt

/-- The version stands below the given parts: equal parts do not decide when one is left out. -/
def above (c : Comparator) (v : Version) : Bool :=
  if v.major ≠ c.major then v.major < c.major
  else match c.precision with
    | .major => false
    | .minor minor => v.minor < minor
    | .full minor patch pre =>
      if v.minor ≠ minor then v.minor < minor
      else if v.patch ≠ patch then v.patch < patch
      else Version.comparePre v.pre pre == .lt

/-- Only the last given number may grow, and only when it is the patch number. -/
def tilde (c : Comparator) (v : Version) : Bool :=
  v.major == c.major && match c.precision with
    | .major => v.pre == []
    | .minor minor => v.minor == minor && v.pre == []
    | .full minor patch pre =>
      v.minor == minor && (if v.patch ≠ patch then patch < v.patch else Version.comparePre v.pre pre != .lt)

/-- Everything may grow to the right of the first number that is not zero. -/
def caret (c : Comparator) (v : Version) : Bool :=
  v.major == c.major && match c.precision with
    | .major => true
    | .minor minor => if 0 < c.major then minor ≤ v.minor else v.minor == minor
    | .full minor patch pre =>
      if 0 < c.major ∧ v.minor ≠ minor then minor < v.minor
      else if v.minor ≠ minor then false
      else if v.patch ≠ patch then (0 < c.major ∨ 0 < minor) && patch < v.patch
      else Version.comparePre v.pre pre != .lt

/-- Whether a version satisfies a comparator, the rule on pre-releases apart. -/
def holds (c : Comparator) (v : Version) : Bool :=
  match c.op with
  | .exact | .wildcard => c.equals v
  | .greater => c.below v
  | .greaterEq => c.equals v || c.below v
  | .less => c.above v
  | .lessEq => c.equals v || c.above v
  | .tilde => c.tilde v
  | .caret => c.caret v

/-- Whether the comparator names a pre-release of the three numbers of `v`. -/
def namesPre (c : Comparator) (v : Version) : Bool :=
  v.major == c.major && match c.precision with
    | .full minor patch pre => v.minor == minor && v.patch == patch && pre != []
    | _ => false

/-- The text of a comparator; where a wildcard comparator stops, a star stands. -/
def render (c : Comparator) : String :=
  let star := if c.op = .wildcard then ".*" else ""
  c.op.sign ++ toString c.major ++ match c.precision with
    | .major => star
    | .minor minor => s!".{minor}" ++ star
    | .full minor patch pre => s!".{minor}.{patch}" ++ (if pre = [] then "" else "-" ++ Version.renderPre pre)

end Comparator

/-- A requirement: comparators that all have to hold. -/
structure Requirement where
  comparators : List Comparator
deriving DecidableEq, Repr

namespace Requirement

def accepts (r : Requirement) (v : Version) : Bool :=
  r.comparators.all (·.holds v) && (v.pre == [] || r.comparators.any (·.namesPre v))

/-- The text of a requirement: a star when it has no comparators. -/
def render (r : Requirement) : String :=
  if r.comparators = [] then "*" else ", ".intercalate (r.comparators.map Comparator.render)

/-- The requirement without comparators accepts exactly the releases. -/
theorem accepts_any_iff (v : Version) : (Requirement.mk []).accepts v = true ↔ v.pre = [] := by
  simp [accepts]

end Requirement
end PluginHost
