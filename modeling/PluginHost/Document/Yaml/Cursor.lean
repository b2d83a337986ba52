/-!
# Places in a YAML text

All line ends are line feeds once a text is prepared, but for the line and the paragraph separator, which stay what
they are. A cursor is a place in such a text.

* `rest_skip`: moving over some characters drops them from what is left.
-/

namespace PluginHost.Yaml

/-- The characters that may stand in a YAML text. -/
def isAllowed (c : Char) : Bool :=
  let n := c.toNat
  n == 0x09 || n == 0x0A || n == 0x0D || n == 0x85 || 0x20 ≤ n && n ≤ 0x7E || 0xA0 ≤ n && n ≤ 0xFFFD || 0x10000 ≤ n

/-- Makes every line end a line feed. -/
def unifyBreaks : List Char → List Char
  | '\r' :: '\n' :: cs => '\n' :: unifyBreaks cs
  | '\r' :: cs => '\n' :: unifyBreaks cs
  | '\u0085' :: cs => '\n' :: unifyBreaks cs
  | c :: cs => c :: unifyBreaks cs
  | [] => []

def isBreak (c : Char) : Bool := c == '\n' || c == '\u2028' || c == '\u2029'

def isBlank (c : Char) : Bool := c == ' ' || c == '\t'

/-- Whether a word ends in front of a text: the text is empty or starts with a blank or a line end. -/
def wordEnds : List Char → Bool
  | [] => true
  | c :: _ => isBlank c || isBreak c

/-- The characters of names: of anchors, tags and directives. -/
def isNameChar (c : Char) : Bool := c.isAlphanum || c == '_' || c == '-'

/-- A place in a text. -/
structure Cursor where
  rest : List Char
  line : Nat := 0
  column : Nat := 0

namespace Cursor

def next (c : Cursor) : Cursor :=
  match c.rest with
  | [] => c
  | x :: rest => if isBreak x then { rest, line := c.line + 1 } else { c with rest, column := c.column + 1 }

def skip : Nat → Cursor → Cursor
  | 0, c => c
  | n + 1, c => skip n c.next

/-- Moving over a character drops it from what is left. -/
theorem rest_next (c : Cursor) : c.next.rest = c.rest.tail := by
  unfold next
  split
  · rename_i h; rw [h]; rfl
  · rename_i x rest h
    rw [h]
    split <;> rfl

/-- Moving over some characters drops them from what is left. -/
theorem rest_skip : ∀ (n : Nat) (c : Cursor), (c.skip n).rest = c.rest.drop n
  | 0, _ => rfl
  | n + 1, c => by
    rw [skip, rest_skip n, rest_next]
    cases c.rest with
    | nil => simp
    | cons x rest => rfl

/-- Moves to a later place, given by the text from there on. -/
def skipTo (c : Cursor) (rest : List Char) : Cursor := c.skip (c.rest.length - rest.length)

/-- Moves over the characters at the front that have a property. -/
def skipWhile (p : Char → Bool) (c : Cursor) : Cursor := c.skip (c.rest.takeWhile p).length

/-- Whether a line starts here with the marker of a document's start or end. -/
def isMarker (c : Cursor) : Bool :=
  c.column == 0 && (c.rest.take 3 == "---".toList || c.rest.take 3 == "...".toList) && wordEnds (c.rest.drop 3)

/-- The blanks and line ends that follow. -/
def gap (c : Cursor) : List Char := c.rest.takeWhile fun x => isBlank x || isBreak x

end Cursor
end PluginHost.Yaml
