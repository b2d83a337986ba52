import PluginHost.Document.Yaml.Token

/-!
# Nodes from tokens

A text is one document at most. Anchors get a number, the number of different names before them.
-/

namespace PluginHost.Yaml

/-- What is left to read, and what was told so far. -/
structure Reader where
  tokens : List Token
  /-- The anchors with their numbers. -/
  anchors : List (String × Nat) := []
  /-- The handles of tags with what they stand for. -/
  handles : List (String × String) := []

/-- Reads tokens; fails where none of them may stand. -/
abbrev Read := StateT Reader Option

namespace Read

def peek : Read (Option Token) := do return (← get).tokens.head?

def drop : Read Unit := modify fun r => { r with tokens := r.tokens.tail }

/-- Moves over a token if it is the next one. -/
def dropIf (t : Token) : Read Bool := do
  if (← peek) = some t then
    drop
    return true
  return false

/-- Gives an anchor its number. -/
def declare (name : String) : Read Nat := do
  let r ← get
  let number := r.anchors.length
  set { r with anchors := (name, number) :: r.anchors.filter (·.1 ≠ name) }
  return number

/-- The tag that a handle and a suffix write. -/
def tagOf (handle suffix : String) : Read String := do
  if handle = "" then return suffix
  match (← get).handles.lookup handle with
  | some start => return start ++ suffix
  | none => failure

def anchor : Read (Option String) := do
  match ← peek with
  | some (.anchor name) =>
    drop
    return some name
  | _ => return none

def tag : Read (Option String) := do
  match ← peek with
  | some (.tag handle suffix) =>
    drop
    return some (← tagOf handle suffix)
  | _ => return none

def properties : Read (Option String × Option String) := do
  match ← anchor with
  | some name => return (some name, ← tag)
  | none =>
    match ← tag with
    | some t => return (← anchor, some t)
    | none => return (none, none)

mutual

/-- Reads a node. Only where `block` says so may it be a block, and only where `indentless` says so a sequence whose
entries are not indented further. -/
def node (block indentless : Bool) : Nat → Read Yaml
  | 0 => failure
  | fuel + 1 => do
    if let some (.reference name) ← peek then
      drop
      match (← get).anchors.lookup name with
      | some number => return .reference number
      | none => failure
    let (name, tag) ← properties
    let number ← name.mapM declare
    let node ← content block indentless name.isSome tag fuel
    return match number with
      | some number => .marked number node
      | none => node

/-- Reads a node after its properties. With a property it may be absent. -/
def content (block indentless anchored : Bool) (tag : Option String) : Nat → Read Yaml
  | 0 => failure
  | fuel + 1 => do
    match ← peek with
    | some (.scalar style text) =>
      drop
      return .scalar (tag.filter (· ≠ "!")) style text
    | some .flowSequence =>
      drop
      return .sequence tag (← flowItems true fuel)
    | some .flowMapping =>
      drop
      return .mapping tag (← flowEntries true fuel)
    | t =>
      if t = some .blockEntry ∧ indentless then return .sequence tag (← indentlessItems fuel)
      else if t = some .blockSequence ∧ block then
        drop
        return .sequence tag (← blockItems fuel)
      else if t = some .blockMapping ∧ block then
        drop
        return .mapping tag (← blockEntries fuel)
      else if anchored ∨ tag.isSome then return .scalar tag .plain ""
      else failure

/-- Reads a node, unless one of some tokens follows; then it is absent. -/
def nodeUnless (block indentless : Bool) (ends : List Token) : Nat → Read Yaml
  | 0 => failure
  | fuel + 1 => do
    if (← peek).any ends.contains then return .absent
    node block indentless fuel

/-- Reads the items of a sequence up to the end of its block. -/
def blockItems : Nat → Read (List Yaml)
  | 0 => failure
  | fuel + 1 => do
    if ← dropIf .blockEnd then return []
    if !(← dropIf .blockEntry) then failure
    let item ← nodeUnless true false [.blockEntry, .blockEnd] fuel
    return item :: (← blockItems fuel)

/-- Reads the items of a sequence that is not indented further than what it stands in. -/
def indentlessItems : Nat → Read (List Yaml)
  | 0 => failure
  | fuel + 1 => do
    if !(← dropIf .blockEntry) then return []
    let item ← nodeUnless true false [.blockEntry, .key, .value, .blockEnd] fuel
    return item :: (← indentlessItems fuel)

/-- Reads the entries of a mapping up to the end of its block. -/
def blockEntries : Nat → Read (List (Yaml × Yaml))
  | 0 => failure
  | fuel + 1 => do
    if ← dropIf .blockEnd then return []
    if !(← dropIf .key) then failure
    let ends : List Token := [.key, .value, .blockEnd]
    let key ← nodeUnless true true ends fuel
    let value ← if ← dropIf .value then nodeUnless true true ends fuel else pure .absent
    return (key, value) :: (← blockEntries fuel)

/-- Reads the items of a sequence up to its closing bracket. -/
def flowItems (first : Bool) : Nat → Read (List Yaml)
  | 0 => failure
  | fuel + 1 => do
    if ← dropIf .flowSequenceEnd then return []
    if !first then
      if !(← dropIf .flowEntry) then failure
      if ← dropIf .flowSequenceEnd then return []
    let item ← if ← dropIf .key then Yaml.mapping none <$> flowPair fuel else node false false fuel
    return item :: (← flowItems false fuel)

/-- Reads an item that is a mapping of one entry, after the mark of its key. A key that is absent takes the next token
with it. -/
def flowPair : Nat → Read (List (Yaml × Yaml))
  | 0 => failure
  | fuel + 1 => do
    let key ← if (← peek).any [Token.value, .flowEntry, .flowSequenceEnd].contains then do
        drop
        pure absent
      else node false false fuel
    let value ← if ← dropIf .value then nodeUnless false false [.flowEntry, .flowSequenceEnd] fuel else pure absent
    return [(key, value)]

/-- Reads the entries of a mapping up to its closing brace. -/
def flowEntries (first : Bool) : Nat → Read (List (Yaml × Yaml))
  | 0 => failure
  | fuel + 1 => do
    if ← dropIf .flowMappingEnd then return []
    if !first then
      if !(← dropIf .flowEntry) then failure
      if ← dropIf .flowMappingEnd then return []
    if ← dropIf .key then
      let key ← nodeUnless false false [.value, .flowEntry, .flowMappingEnd] fuel
      let value ← if ← dropIf .value then nodeUnless false false [.flowEntry, .flowMappingEnd] fuel else pure absent
      return (key, value) :: (← flowEntries false fuel)
    else
      let key ← node false false fuel
      return (key, absent) :: (← flowEntries false fuel)

end

/-! ## Documents -/

/-- Reads the directives in front of a document; none is said twice, and the format has a version that is known. -/
def directives (versioned : Bool) : Nat → Read Unit
  | 0 => failure
  | fuel + 1 => do
    match ← peek with
    | some (.versionDirective major minor) =>
      drop
      if versioned ∨ major ≠ 1 ∨ minor ≠ 1 ∧ minor ≠ 2 then failure
      directives true fuel
    | some (.tagDirective handle start) =>
      drop
      let r ← get
      if (r.handles.lookup handle).isSome then failure
      set { r with handles := r.handles ++ [(handle, start)] }
      directives versioned fuel
    | _ => modify fun r => { r with handles := r.handles ++ [("!", "!"), ("!!", "tag:yaml.org,2002:")] }

/-- Whether a token can stand in front of a document or behind it. -/
def isDocumentToken : Token → Bool
  | .versionDirective .. | .tagDirective .. | .documentStart | .documentEnd => true
  | _ => false

/-- Reads the ends of documents up to the end of the text. -/
def ends : Nat → Read Unit
  | 0 => failure
  | fuel + 1 => do
    match ← peek with
    | none => return ()
    | some .documentEnd =>
      drop
      ends fuel
    | some _ => failure

/-- Reads the document of a text, if there is one. -/
def document (fuel : Nat) : Read (Option Yaml) := do
  match ← peek with
  | none => return none
  | some .documentEnd => failure
  | some t =>
    directives false fuel
    let root ← if isDocumentToken t then do
        if !(← dropIf .documentStart) then failure
        match ← peek with
        | some t => if isDocumentToken t then pure absent else node true false fuel
        | none => pure absent
      else node true false fuel
    ends fuel
    return some root

end Read

/-- The node of a text: none inside when the text has no document, and none at all when it is not YAML. -/
def parse? (s : String) : Option (Option Yaml) := do
  let tokens ← Token.ofChars? s.toList
  let (root, _) ← (Read.document (4 * tokens.length + 4)).run { tokens }
  return root

end PluginHost.Yaml
