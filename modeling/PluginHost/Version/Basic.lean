/-!
# Versions

A version has three numbers, a pre-release and build metadata. The pre-release takes part in precedence, the build
metadata never does.

* `comparePre_self`: a pre-release has the precedence of itself.
* `comparePre_release`: a release stands above each of its pre-releases.
-/

namespace PluginHost

/-- A dot-separated part of a pre-release: a number when it holds digits only, else a word. -/
inductive Segment where
  | number (n : Nat)
  | word (s : String)
deriving DecidableEq, Repr

namespace Segment

def render : Segment → String
  | number n => toString n
  | word s => s

/-- Numbers stand below words; numbers are ordered by value, words by their characters. -/
def compare : Segment → Segment → Ordering
  | number a, number b => Ord.compare a b
  | number _, word _ => .lt
  | word _, number _ => .gt
  | word a, word b => Ord.compare a b

/-- Segment by segment; of two lists that agree as far as the shorter one goes, the shorter stands below. -/
def compareAll : List Segment → List Segment → Ordering
  | [], [] => .eq
  | [], _ :: _ => .lt
  | _ :: _, [] => .gt
  | a :: as, b :: bs => (a.compare b).then (compareAll as bs)

theorem compare_self (a : Segment) : a.compare a = .eq := by
  cases a <;> simp [compare]

theorem compareAll_self : ∀ as : List Segment, compareAll as as = .eq
  | [] => rfl
  | a :: as => by rw [compareAll, compare_self, compareAll_self as]; rfl

end Segment

/-- A version: three numbers, a pre-release (empty for a release) and build metadata. -/
structure Version where
  major : Nat
  minor : Nat
  patch : Nat
  pre : List Segment := []
  build : String := ""
deriving DecidableEq, Repr

namespace Version

def renderPre (pre : List Segment) : String := ".".intercalate (pre.map Segment.render)

def render (v : Version) : String :=
  s!"{v.major}.{v.minor}.{v.patch}"
    ++ (if v.pre = [] then "" else "-" ++ renderPre v.pre)
    ++ (if v.build = "" then "" else "+" ++ v.build)

/-- The fields of a version, for diagnostics; an empty pre-release and empty build metadata are left out. -/
def inspect (v : Version) : String :=
  s!"Version \x7b major: {v.major}, minor: {v.minor}, patch: {v.patch}"
    ++ (if v.pre = [] then "" else ", pre: Prerelease(\"" ++ renderPre v.pre ++ "\")")
    ++ (if v.build = "" then "" else ", build: BuildMetadata(\"" ++ v.build ++ "\")") ++ " \x7d"

/-- The precedence of pre-releases of one version: the release, which has none, stands above all others. -/
def comparePre : List Segment → List Segment → Ordering
  | [], [] => .eq
  | [], _ :: _ => .gt
  | _ :: _, [] => .lt
  | as, bs => Segment.compareAll as bs

theorem comparePre_self : ∀ pre : List Segment, comparePre pre pre = .eq
  | [] => rfl
  | a :: as => Segment.compareAll_self (a :: as)

/-- A release stands above each of its pre-releases. -/
theorem comparePre_release {pre : List Segment} (h : pre ≠ []) : comparePre [] pre = .gt := by
  cases pre with
  | nil => exact absurd rfl h
  | cons a as => rfl

end Version
end PluginHost
