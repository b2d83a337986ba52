import PluginHost.Document.Yaml.Cursor
import PluginHost.Number.Digit

/-!
# The texts of YAML scalars

Plain and quoted scalars are words with gaps between them. A gap inside a line stays as it is; across lines it is
folded: one line end becomes a space, of several the first is dropped. Block scalars keep their lines, or fold those
that are not indented further.

* `length_joined_le`: folding makes no gap longer.
-/

namespace PluginHost.Yaml

/-! ## Gaps -/

/-- What the line ends between two words become. -/
def folded : List Char → List Char
  | ['\n'] => [' ']
  | '\n' :: breaks => breaks
  | breaks => breaks

/-- Folding line ends gives no more characters than there were. -/
theorem length_folded_le (breaks : List Char) : (folded breaks).length ≤ breaks.length := by
  unfold folded
  split <;> simp

def breaksOf (gap : List Char) : List Char := gap.filter isBreak

/-- What a gap between two words becomes. -/
def joined (gap : List Char) : List Char := if breaksOf gap = [] then gap else folded (breaksOf gap)

/-- Folding makes no gap longer. -/
theorem length_joined_le (gap : List Char) : (joined gap).length ≤ gap.length := by
  unfold joined
  split
  · exact Nat.le_refl _
  · exact Nat.le_trans (length_folded_le _) (List.length_filter_le _ _)

/-- Whether a gap that starts at a column has a tab before the column `indent`. -/
def hasEarlyTab (indent : Int) : Nat → List Char → Bool
  | _, [] => false
  | column, c :: cs =>
    if isBreak c then hasEarlyTab indent 0 cs
    else c == '\t' && (column : Int) < indent || hasEarlyTab indent (column + 1) cs

/-- Whether a gap has a tab where the indentation of a new line has to be. -/
def abusesTab (indent : Int) (gap : List Char) : Bool := hasEarlyTab indent 0 (gap.dropWhile isBlank)

/-! ## Plain scalars -/

/-- The characters that mean something between brackets and braces. -/
def isFlowIndicator (c : Char) : Bool := [',', '[', ']', '\x7b', '\x7d'].contains c

/-- Whether a plain scalar ends in front of a text; `flow` tells that brackets or braces are open. -/
def endsPlain (flow : Bool) : List Char → Bool
  | [] => true
  | ':' :: cs => wordEnds cs
  | c :: _ => isBlank c || isBreak c || flow && isFlowIndicator c

/-- The word at the front. Between brackets and braces a colon must not stand right before an indicator. -/
def plainWord? (flow : Bool) : List Char → Option (List Char)
  | [] => some []
  | c :: cs =>
    if endsPlain flow (c :: cs) then some []
    else if flow && c == ':' && cs.head?.any fun d => d == '?' || isFlowIndicator d then none
    else (plainWord? flow cs).map (c :: ·)

/-- Reads a plain scalar after a gap; further lines are indented at least by `indent`. Tells also whether the last gap,
which is not part of the text, spans lines. -/
def readPlain (flow : Bool) (indent : Int) : Nat → List Char → Cursor → Option (List Char × Bool × Cursor)
  | 0, _, _ => none
  | fuel + 1, gap, c =>
    if c.isMarker ∨ c.rest.head? = some '#' then some ([], breaksOf gap ≠ [], c)
    else do
      let word ← plainWord? flow c.rest
      if word = [] then return ([], decide (breaksOf gap ≠ []), c)
      let text := joined gap ++ word
      let c := c.skip word.length
      let gap := c.gap
      if abusesTab indent gap then none
      if gap = [] then return (text, false, c)
      let c := c.skip gap.length
      if !flow && (c.column : Int) < indent then return (text, decide (breaksOf gap ≠ []), c)
      let (more, spansLines, c) ← readPlain flow indent fuel gap c
      return (text ++ more, spansLines, c)

/-! ## Quoted scalars -/

/-- The character that an escape of one character stands for. -/
def escaped? : Char → Option Char
  | '0' => some '\x00'
  | 'a' => some '\x07'
  | 'b' => some '\x08'
  | 't' | '\t' => some '\t'
  | 'n' => some '\n'
  | 'v' => some '\x0b'
  | 'f' => some '\x0c'
  | 'r' => some '\r'
  | 'e' => some '\x1b'
  | ' ' => some ' '
  | '"' => some '"'
  | '/' => some '/'
  | '\\' => some '\\'
  | 'N' => some '\u0085'
  | '_' => some '\u00a0'
  | 'L' => some '\u2028'
  | 'P' => some '\u2029'
  | _ => none

/-- A word of a quoted scalar. -/
structure Word where
  text : List Char := []
  /-- The word ends with a line end that is escaped. -/
  brokenOff : Bool := false
  rest : List Char

/-- Puts a character in front of a word. -/
def Word.push (c : Char) (w : Word) : Word := { w with text := c :: w.text }

/-- The word at the front, between single quotes: two of them stand for one. -/
def singleWord : List Char → Word
  | '\'' :: '\'' :: cs => (singleWord cs).push '\''
  | '\'' :: cs => { rest := '\'' :: cs }
  | c :: cs => if isBlank c || isBreak c then { rest := c :: cs } else (singleWord cs).push c
  | [] => { rest := [] }

/-- The word at the front, between double quotes. -/
def doubleWord? : List Char → Option Word
  | '"' :: cs => some { rest := '"' :: cs }
  | '\\' :: 'x' :: a :: b :: cs => do return (← doubleWord? cs).push (← charOfHex? [a, b])
  | '\\' :: 'u' :: a :: b :: c :: d :: cs => do return (← doubleWord? cs).push (← charOfHex? [a, b, c, d])
  | '\\' :: 'U' :: a :: b :: c :: d :: e :: f :: g :: h :: cs => do
    return (← doubleWord? cs).push (← charOfHex? [a, b, c, d, e, f, g, h])
  | '\\' :: c :: cs =>
    if isBreak c then some { brokenOff := true, rest := cs }
    else do return (← doubleWord? cs).push (← escaped? c)
  | ['\\'] => none
  | c :: cs => if isBlank c || isBreak c then some { rest := c :: cs } else (doubleWord? cs).map (·.push c)
  | [] => some { rest := [] }

/-- Reads a quoted scalar after its opening quote. No marker of a document may stand in it. -/
def readQuoted (quote : Char) : Nat → Cursor → Option (List Char × Cursor)
  | 0, _ => none
  | fuel + 1, c => do
    if c.isMarker ∨ c.rest = [] then none
    let word ← if quote = '\'' then some (singleWord c.rest) else doubleWord? c.rest
    let c := c.skipTo word.rest
    if c.rest.head? = some quote then return (word.text, c.next)
    let gap := c.gap
    let (more, c) ← readQuoted quote fuel (c.skip gap.length)
    return (word.text ++ (if word.brokenOff then breaksOf gap else joined gap) ++ more, c)

/-! ## Block scalars -/

/-- What becomes of the line ends after the last line. -/
inductive Chomping where
  /-- The first one stays. -/
  | clip
  /-- None stays. -/
  | strip
  /-- All stay. -/
  | keep
deriving DecidableEq, Repr

/-- Reads a sign for the line ends at the end. -/
def readChomping : List Char → Chomping × List Char
  | '+' :: cs => (.keep, cs)
  | '-' :: cs => (.strip, cs)
  | cs => (.clip, cs)

/-- Reads a digit that tells the indentation; it is not zero. -/
def readIncrement : List Char → Option (Option Nat × List Char)
  | c :: cs =>
    if c = '0' then none else if c.isDigit then some (some (digitValue c), cs) else some (none, c :: cs)
  | [] => some (none, [])

def readIndicators (cs : List Char) : Option (Chomping × Option Nat × List Char) := do
  match readChomping cs with
  | (.clip, _) =>
    let (increment, cs) ← readIncrement cs
    match increment with
    | some _ =>
      let (chomping, cs) := readChomping cs
      return (chomping, increment, cs)
    | none => return (.clip, none, cs)
  | (chomping, cs) =>
    let (increment, cs) ← readIncrement cs
    return (chomping, increment, cs)

/-- Empty lines: their ends, and the deepest column that was reached on the way. -/
structure EmptyLines where
  breaks : List Char := []
  deepest : Nat := 0

/-- Reads empty lines and the indentation of the line after them. The indentation is at most `indent`, if that is
known; no tab may stand in it. -/
def readEmptyLines (indent : Option Nat) : Nat → EmptyLines → Cursor → Option (EmptyLines × Cursor)
  | 0, _, _ => none
  | fuel + 1, lines, c =>
    let spaces := (c.rest.takeWhile (· == ' ')).length
    let c := c.skip (match indent with
      | some n => min spaces (n - c.column)
      | none => spaces)
    let lines := { lines with deepest := max lines.deepest c.column }
    match c.rest with
    | x :: _ =>
      if x = '\t' ∧ indent.all (c.column < ·) then none
      else if isBreak x then readEmptyLines indent fuel { lines with breaks := lines.breaks ++ [x] } c.next
      else some (lines, c)
    | [] => some (lines, c)

/-- The end of a block scalar: the line end after its last line and those after it. -/
structure Tail where
  first : List Char := []
  more : List Char := []

/-- Reads the lines of a block scalar, after the line ends in `tail`. Those of a folded scalar are joined, unless one
of them is indented further. -/
def readBlockLines (fold : Bool) (indent : Nat) : Nat → Tail → Bool → Cursor → Option (List Char × Tail × Cursor)
  | 0, _, _, _ => none
  | fuel + 1, tail, afterBlank, c =>
    if c.column ≠ indent ∨ c.rest = [] then some ([], tail, c)
    else do
      let blank := c.rest.head?.any isBlank
      let first := if fold ∧ tail.first = ['\n'] ∧ !afterBlank ∧ !blank then
        (if tail.more = [] then [' '] else []) else tail.first
      let line := c.rest.takeWhile (!isBreak ·)
      let c := c.skip line.length
      let ended := c.rest.take 1
      let (lines, c) ← readEmptyLines (some indent) (c.rest.length + 1) {} c.next
      let (more, last, c) ← readBlockLines fold indent fuel { first := ended, more := lines.breaks } blank c
      return (first ++ tail.more ++ line ++ more, last, c)

/-- Reads a block scalar after its first character, in a block that is indented by `outer`. -/
def readBlock (fold : Bool) (outer : Int) (c : Cursor) : Option (List Char × Cursor) := do
  let (chomping, increment, rest) ← readIndicators c.rest
  let c := (c.skipTo rest).skipWhile isBlank
  let c := if c.rest.head? = some '#' then c.skipWhile (!isBreak ·) else c
  if !(c.rest.head?.all isBreak) then none
  let given : Option Nat := increment.map fun n => (max outer 0).toNat + n
  let c := c.next
  let fuel := c.rest.length + 1
  let (lines, c) ← readEmptyLines given fuel {} c
  let indent := given.getD (max (max lines.deepest (outer + 1).toNat) 1)
  let (text, last, c) ← readBlockLines fold indent fuel { more := lines.breaks } false c
  return (text ++ match chomping with
    | .strip => []
    | .clip => last.first
    | .keep => last.first ++ last.more, c)

end PluginHost.Yaml
