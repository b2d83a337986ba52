/-!
# YAML documents

The nodes of a YAML document. Scalars keep their text and their style, since what a text stands for depends on where it
is read. An alias means the last node, in the order of the document, that has its mark.
-/

namespace PluginHost

/-- How a scalar is written. -/
inductive ScalarStyle where
  | plain
  | quoted
  | literal
  | folded
deriving DecidableEq, Repr

/-- A node of a YAML document. -/
inductive Yaml where
  | scalar (tag : Option String) (style : ScalarStyle) (text : String)
  | sequence (tag : Option String) (items : List Yaml)
  | mapping (tag : Option String) (entries : List (Yaml × Yaml))
  /-- A node that aliases may refer to. -/
  | marked (mark : Nat) (node : Yaml)
  | reference (mark : Nat)

namespace Yaml

/-- The node that stands where none was written. -/
def absent : Yaml := scalar none .plain ""

mutual

/-- The last node with a mark. -/
def lastMarked? (mark : Nat) : Yaml → Option Yaml
  | scalar .. => none
  | sequence _ items => lastMarkedOfItems? mark items
  | mapping _ entries => lastMarkedOfEntries? mark entries
  | marked m node => lastMarked? mark node <|> if m = mark then some node else none
  | reference _ => none

/-- The last node with a mark among the items of a sequence. -/
def lastMarkedOfItems? (mark : Nat) : List Yaml → Option Yaml
  | [] => none
  | item :: items => lastMarkedOfItems? mark items <|> lastMarked? mark item

/-- The last node with a mark among the entries of a mapping. -/
def lastMarkedOfEntries? (mark : Nat) : List (Yaml × Yaml) → Option Yaml
  | [] => none
  | (key, value) :: entries =>
    lastMarkedOfEntries? mark entries <|> lastMarked? mark value <|> lastMarked? mark key

end

/-- The node itself, or the one of the document `root` that an alias means. -/
def follow (root : Yaml) : Yaml → Yaml
  | marked _ node => node
  | reference mark => (lastMarked? mark root).getD absent
  | node => node

mutual

/-- The number of steps that a document is told in: one for a scalar or an alias, two around a collection. -/
def steps : Yaml → Nat
  | scalar .. => 1
  | sequence _ items => 2 + stepsOfItems items
  | mapping _ entries => 2 + stepsOfEntries entries
  | marked _ node => steps node
  | reference _ => 1

/-- The number of steps of the items of a sequence. -/
def stepsOfItems : List Yaml → Nat
  | [] => 0
  | item :: items => steps item + stepsOfItems items

/-- The number of steps of the entries of a mapping. -/
def stepsOfEntries : List (Yaml × Yaml) → Nat
  | [] => 0
  | (key, value) :: entries => steps key + steps value + stepsOfEntries entries

end

end Yaml
end PluginHost
