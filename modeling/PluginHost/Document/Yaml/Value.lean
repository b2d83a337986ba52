import PluginHost.Document.Basic
import PluginHost.Document.Yaml.Parser
import PluginHost.Number.Literal

/-!
# What YAML nodes stand for

A plain scalar without a tag stands for null, a truth value or a number where it is written like one, else for its text.
A scalar in another style stands for its text. Tags of the core can say otherwise; a tag of one's own has no value.
-/

namespace PluginHost.Yaml

/-! ## Plain scalars -/

def isNull (s : String) : Bool := s == "~" || s == "null" || s == "Null" || s == "NULL"

def bool? (s : String) : Option Bool :=
  if s = "true" ∨ s = "True" ∨ s = "TRUE" then some true
  else if s = "false" ∨ s = "False" ∨ s = "FALSE" then some false
  else none

/-- Whether digits, a sign in front of them apart, start with a zero that does not stand alone. Such a text writes no
number. -/
def isZeroPadded (cs : List Char) : Bool :=
  let digits := match cs with
    | '-' :: cs | '+' :: cs => cs
    | cs => cs
  match digits with
  | '0' :: c :: cs => (c :: cs).all Char.isDigit
  | _ => false

/-- The number that digits write, in the base that is told in front of them. -/
def natural? (cs : List Char) : Option Nat :=
  match cs with
  | '0' :: 'x' :: digits => natOfBase? 16 digits
  | '0' :: 'o' :: digits => natOfBase? 8 digits
  | '0' :: 'b' :: digits => natOfBase? 2 digits
  | digits => natOfBase? 10 digits

/-- The integer that a text writes, if it has 128 bits at most. -/
def integer? (cs : List Char) : Option Int := do
  if isZeroPadded cs then none
  match cs with
  | '-' :: digits =>
    let n ← natural? digits
    if n ≤ Nat.pow 2 127 then some (-(n : Int)) else none
  | '+' :: digits | digits =>
    let n ← natural? digits
    if n < Nat.pow 2 128 then some n else none

/-- The value of an integer; it has one only if it has 64 bits at most. -/
def ofInteger (n : Int) : Option Document :=
  if -(Nat.pow 2 63 : Int) ≤ n ∧ n < Nat.pow 2 64 then some (.integer n) else none

/-- The value of a number with a point or an exponent, which is null for one that is not finite. -/
def float? (cs : List Char) : Option Document := do
  let positive := match cs with
    | '+' :: rest => rest
    | rest => rest
  if [".inf", ".Inf", ".INF"].contains (String.ofList positive) then return .null
  if ["-.inf", "-.Inf", "-.INF", ".nan", ".NaN", ".NAN"].contains (String.ofList cs) then return .null
  match cs with
  | '-' :: digits => return .float (← (← Literal.ofChars? digits).toBinary64 true)
  | _ => return .float (← (← Literal.ofChars? positive).toBinary64 false)

/-- The value of a plain scalar without a tag. -/
def untagged? (s : String) : Option Document :=
  if s = "" ∨ isNull s then some .null
  else match bool? s with
    | some b => some (.bool b)
    | none =>
      match integer? s.toList with
      | some n => ofInteger n
      | none =>
        if isZeroPadded s.toList then some (.text s) else some ((float? s.toList).getD (.text s))

/-! ## Tags -/

/-- A tag of the core. -/
def coreTag (name : String) : String := "tag:yaml.org,2002:" ++ name

/-- Whether a tag is one of one's own. -/
def isLocal (tag : Option String) : Bool := tag.any fun t => t.toList.head? == some '!'

def scalar? (tag : Option String) (style : ScalarStyle) (s : String) : Option Document :=
  match tag with
  | none => if style = .plain then untagged? s else some (.text s)
  | some t =>
    if isLocal tag then none
    else if t = coreTag "bool" then (bool? s).map .bool
    else if t = coreTag "int" then (integer? s.toList).bind ofInteger
    else if t = coreTag "float" then float? s.toList
    else if t = coreTag "null" then if isNull s then some .null else none
    else some (.text s)

/-! ## Nodes -/

/-- Collections are nested this deep at most. -/
def maxDepth : Nat := 128

/-- Reads values; the state is how many more aliases may be followed. -/
abbrev Resolve := StateT Nat Option

def jump : Resolve Unit := do
  match ← get with
  | 0 => failure
  | n + 1 => set n

/-- The text of a key, an alias followed. -/
def keyText (root : Yaml) (key : Yaml) : Resolve String := do
  if let .reference _ := key then jump
  match root.follow key with
  | .scalar _ _ s => return s
  | _ => failure

/-- The value of a node that may be nested `depth` deep. -/
def valueOf (root : Yaml) : Nat → Nat → Yaml → Resolve Document
  | 0, _, _ => failure
  | fuel + 1, depth, node =>
    match node with
    | .scalar tag style s => StateT.lift (scalar? tag style s)
    | .marked _ node => valueOf root fuel depth node
    | .reference mark => do
      jump
      valueOf root fuel depth (root.follow (.reference mark))
    | .sequence tag items => do
      if depth = 0 ∨ isLocal tag then failure
      return .list (← items.mapM (valueOf root fuel (depth - 1)))
    | .mapping tag entries => do
      if depth = 0 ∨ isLocal tag then failure
      return Document.tableOf (← entries.mapM fun (key, value) => do
        return (← keyText root key, ← valueOf root fuel (depth - 1) value))

/-- No more aliases than this for each step of a document are followed. -/
def maxJumps : Nat := 100

/-- The value of a text: null when it has no document. -/
def toDocument? : Option Yaml → Option Document
  | none => some .null
  | some root => ((valueOf root (4 * maxDepth + 4) maxDepth root).run (maxJumps * root.steps)).map (·.1)

end PluginHost.Yaml
