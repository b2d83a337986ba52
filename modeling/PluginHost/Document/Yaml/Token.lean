import PluginHost.Document.Yaml.Basic
import PluginHost.Document.Yaml.Text

/-!
# Tokens of YAML

`Token.ofChars?` cuts a text into tokens. Where a block starts or ends is told by indentation; that a scalar is a key is
known only at the colon behind it, and the tokens that say so are then put in front of it.

* `unroll_flow`: between brackets and braces, indentation ends no block.
-/

namespace PluginHost.Yaml

/-- A token of a YAML text. -/
inductive Token where
  | versionDirective (major minor : Nat)
  | tagDirective (handle start : String)
  | documentStart
  | documentEnd
  | blockSequence
  | blockMapping
  | blockEnd
  | blockEntry
  | flowSequence
  | flowSequenceEnd
  | flowMapping
  | flowMappingEnd
  | flowEntry
  | key
  | value
  | reference (name : String)
  | anchor (name : String)
  | tag (handle suffix : String)
  | scalar (style : ScalarStyle) (text : String)
deriving DecidableEq, Repr

namespace Token

/-- Where a key may have started. -/
structure KeyStart where
  /-- The number of tokens before it. -/
  index : Nat
  line : Nat
  column : Nat
  /-- Nothing but a key may stand there. -/
  required : Bool

/-- How far a text is cut. -/
structure Scanner where
  cursor : Cursor
  tokens : Array Token := #[]
  /-- The indentation of the innermost block, and those of the blocks around it. -/
  indent : Int := -1
  outer : List Int := []
  /-- A key may start here. -/
  keyAllowed : Bool := true
  /-- Where a key may have started: outside all brackets and braces, and inside each that is open; innermost first. -/
  keys : List (Option KeyStart) := [none]

namespace Scanner

def inFlow (s : Scanner) : Bool := 1 < s.keys.length

def emit (t : Token) (s : Scanner) : Scanner := { s with tokens := s.tokens.push t }

/-- Adds a token in front of those from `index` on. -/
def emitAt (index : Nat) (t : Token) (s : Scanner) : Scanner :=
  { s with tokens := (s.tokens.extract 0 index).push t ++ s.tokens.extract index s.tokens.size }

def skip (n : Nat) (s : Scanner) : Scanner := { s with cursor := s.cursor.skip n }

/-! ## Indentation -/

/-- Starts a block, unless one with this indentation is open. -/
def roll (column index : Nat) (t : Token) (s : Scanner) : Scanner :=
  if s.inFlow ∨ (column : Int) ≤ s.indent then s
  else { s with indent := column, outer := s.indent :: s.outer }.emitAt index t

/-- Ends the blocks that are indented further than a column. -/
def unrollFrom (column : Int) : Int → List Int → Scanner → Scanner
  | indent, outer, s =>
    if indent ≤ column then { s with indent, outer }
    else match outer with
      | [] => { s with indent := -1, outer := [] }.emit .blockEnd
      | next :: outer => unrollFrom column next outer (s.emit .blockEnd)

/-- Ends the blocks that are indented further than a column; between brackets and braces none. -/
def unroll (column : Int) (s : Scanner) : Scanner :=
  if s.inFlow then s else unrollFrom column s.indent s.outer s

/-- Between brackets and braces, indentation ends no block. -/
theorem unroll_flow {s : Scanner} (h : s.inFlow = true) (column : Int) : s.unroll column = s := by
  simp [unroll, h]

/-! ## Keys -/

/-- The innermost place where a key may have started. -/
def keyStart? (s : Scanner) : Option KeyStart := s.keys.head?.join

/-- Replaces the innermost place where a key may have started. -/
def setKey (key : Option KeyStart) (s : Scanner) : Scanner := { s with keys := key :: s.keys.tail }

/-- No key started at the innermost place after all; it is an error when one had to. -/
def dropKey (s : Scanner) : Option Scanner :=
  if s.keyStart?.any (·.required) then none else some (s.setKey none)

def saveKey (s : Scanner) : Option Scanner :=
  if !s.keyAllowed then some s
  else
    let required := !s.inFlow && s.indent == s.cursor.column
    s.dropKey.map fun s => s.setKey <| some
      { index := s.tokens.size, line := s.cursor.line, column := s.cursor.column, required }

/-- A key and the colon behind it stand in one line, no further apart than this. -/
def maxKeyLength : Nat := 1024

/-- Whether a colon here is too far from where a key started. -/
def isExpired (s : Scanner) (k : KeyStart) : Bool :=
  k.line < s.cursor.line || k.column + maxKeyLength < s.cursor.column

/-- Forgets the keys that are too far away; it is an error when one had to be there. -/
def expireKeys (s : Scanner) : Option Scanner :=
  if s.keys.any fun k => k.any fun k => k.required && s.isExpired k then none
  else some { s with keys := s.keys.map fun k => k.filter fun k => !s.isExpired k }

/-! ## Between tokens -/

/-- Moves over blanks, comments and line ends. Outside brackets and braces a tab must not stand where a key may start,
and a new line may start one. A mark for the order of bytes may stand at the start of a line; it takes up a column. -/
def skipSpace : Nat → Scanner → Scanner
  | 0, s => s
  | fuel + 1, s =>
    let c := if s.cursor.column = 0 ∧ s.cursor.rest.head? = some '\uFEFF' then s.cursor.next else s.cursor
    let tabs := s.inFlow || !s.keyAllowed
    let c := c.skipWhile fun x => x == ' ' || tabs && x == '\t'
    let c := if c.rest.head? = some '#' then c.skipWhile (!isBreak ·) else c
    if c.rest.head?.any isBreak then
      skipSpace fuel { s with cursor := c.next, keyAllowed := s.keyAllowed || !s.inFlow }
    else { s with cursor := c }

/-! ## Directives -/

def readNumber (cs : List Char) : Option (Nat × List Char) :=
  let digits := cs.takeWhile Char.isDigit
  if digits = [] ∨ 9 < digits.length then none else some (natOfDigits digits, cs.dropWhile Char.isDigit)

/-- Reads a handle of tags: an exclamation mark, and perhaps a name and a second mark. -/
def readHandle : List Char → Option (List Char × List Char)
  | '!' :: cs =>
    let name := cs.takeWhile isNameChar
    match cs.dropWhile isNameChar with
    | '!' :: rest => some ('!' :: name ++ ['!'], rest)
    | rest => some ('!' :: name, rest)
  | _ => none

/-- The characters of tags; a verbatim tag may have some more. -/
def isTagChar (verbatim : Bool) (c : Char) : Bool :=
  isNameChar c || ";/?:@&=+$.!~*'()".toList.contains c || verbatim && [',', '[', ']'].contains c

/-- Reads an octet after a percent sign. -/
def readOctet : List Char → Option (Nat × List Char)
  | '%' :: a :: b :: cs => (natOfBase? 16 [a, b]).map fun n => (n, cs)
  | _ => none

/-- The number of octets that follow a first one. -/
def octetsAfter? (first : Nat) : Option Nat :=
  if first < 0x80 then some 0
  else if first / 0x20 = 0x6 then some 1
  else if first / 0x10 = 0xE then some 2
  else if first / 0x8 = 0x1E then some 3
  else none

/-- Reads the octets after the first one of a character. -/
def readOctets : Nat → List Char → Option (List Char × List Char)
  | 0, cs => some ([], cs)
  | n + 1, cs => do
    let (octet, cs) ← readOctet cs
    if octet / 0x40 ≠ 2 then none
    let (more, cs) ← readOctets n cs
    return (Char.ofNat octet :: more, cs)

/-- Reads the characters of a tag, escaped octets included; each octet is kept as a character. -/
def readTagChars (verbatim : Bool) : Nat → List Char → Option (List Char × List Char)
  | 0, cs => some ([], cs)
  | fuel + 1, cs =>
    match cs with
    | '%' :: _ => do
      let (first, cs) ← readOctet cs
      let (octets, cs) ← readOctets (← octetsAfter? first) cs
      let (more, cs) ← readTagChars verbatim fuel cs
      return (Char.ofNat first :: octets ++ more, cs)
    | c :: rest =>
      if isTagChar verbatim c then (readTagChars verbatim fuel rest).map fun (more, cs) => (c :: more, cs)
      else some ([], cs)
    | [] => some ([], [])

def dropBlanks (cs : List Char) : List Char := cs.dropWhile isBlank

def readVersion (cs : List Char) : Option (Token × List Char) := do
  let (major, cs) ← readNumber (dropBlanks cs)
  match cs with
  | '.' :: cs =>
    let (minor, cs) ← readNumber cs
    return (.versionDirective major minor, cs)
  | _ => none

/-- Reads a handle of tags and what it stands for. -/
def readTagDirective (cs : List Char) : Option (Token × List Char) := do
  let (handle, cs) ← readHandle (dropBlanks cs)
  if handle ≠ ['!'] ∧ handle.getLast? ≠ some '!' then none
  if !(cs.head?.any isBlank) then none
  let cs := dropBlanks cs
  let (start, cs) ← readTagChars true (cs.length + 1) cs
  if start = [] ∨ !wordEnds cs then none
  return (.tagDirective (String.ofList handle) (String.ofList start), cs)

/-- Reads a directive; only blanks and a comment may follow in its line. -/
def fetchDirective (s : Scanner) : Option Scanner := do
  let s ← (s.unroll (-1)).dropKey
  let cs := s.cursor.rest.tail
  let name := cs.takeWhile isNameChar
  let cs := cs.dropWhile isNameChar
  if !wordEnds cs then none
  let (t, cs) ← if name = "YAML".toList then readVersion cs
    else if name = "TAG".toList then readTagDirective cs else none
  let c := (s.cursor.skipTo cs).skipWhile isBlank
  let c := if c.rest.head? = some '#' then c.skipWhile (!isBreak ·) else c
  if !(c.rest.head?.all isBreak) then none
  return { s with cursor := c.next, keyAllowed := false }.emit t

/-- Reads the marker of a document's start or end. -/
def fetchMarker (s : Scanner) : Option Scanner := do
  let s ← (s.unroll (-1)).dropKey
  let t : Token := if s.cursor.rest.head? = some '-' then .documentStart else .documentEnd
  return { s.skip 3 with keyAllowed := false }.emit t

/-! ## Flow collections -/

def fetchFlowStart (t : Token) (s : Scanner) : Option Scanner := do
  let s ← s.saveKey
  return { s.skip 1 with keyAllowed := true, keys := none :: s.keys }.emit t

def fetchFlowEnd (t : Token) (s : Scanner) : Option Scanner := do
  let s ← s.dropKey
  let keys := if s.inFlow then s.keys.tail else s.keys
  return { s.skip 1 with keyAllowed := false, keys }.emit t

def fetchFlowEntry (s : Scanner) : Option Scanner := do
  let s ← s.dropKey
  return { s.skip 1 with keyAllowed := true }.emit .flowEntry

/-! ## Entries, keys and values -/

/-- Starts a block at this column; outside brackets and braces that is allowed only where a key is. -/
def rollHere (t : Token) (s : Scanner) : Option Scanner :=
  if s.inFlow then some s
  else if !s.keyAllowed then none
  else some (s.roll s.cursor.column s.tokens.size t)

def fetchBlockEntry (s : Scanner) : Option Scanner := do
  let s ← (← s.rollHere .blockSequence).dropKey
  return { s.skip 1 with keyAllowed := true }.emit .blockEntry

def fetchKey (s : Scanner) : Option Scanner := do
  let s ← (← s.rollHere .blockMapping).dropKey
  return { s.skip 1 with keyAllowed := !s.inFlow }.emit .key

/-- Reads the colon in front of a value. What started at the saved place is then a key. -/
def fetchValue (s : Scanner) : Option Scanner :=
  match s.keyStart? with
  | some k =>
    let s := (s.emitAt k.index .key).roll k.column k.index .blockMapping
    some ({ s.setKey none with keyAllowed := false }.skip 1 |>.emit .value)
  | none => do
    let s ← s.rollHere .blockMapping
    return { s.skip 1 with keyAllowed := !s.inFlow }.emit .value

/-! ## Properties and scalars -/

def fetchAnchor (token : String → Token) (s : Scanner) : Option Scanner := do
  let s ← s.saveKey
  let name := s.cursor.rest.tail.takeWhile isNameChar
  let s := s.skip (name.length + 1)
  let cs := s.cursor.rest
  if name = [] ∨ !(wordEnds cs || cs.head?.any fun c => "?:,]%@`\x7d".toList.contains c) then none
  return { s with keyAllowed := false }.emit (token (String.ofList name))

/-- Reads a tag: verbatim between `!<` and `>`, or a handle and what follows it. -/
def readTag : List Char → Option (Token × List Char)
  | '!' :: '<' :: cs => do
    let (suffix, cs) ← readTagChars true (cs.length + 1) cs
    match suffix, cs with
    | _ :: _, '>' :: cs => some (.tag "" (String.ofList suffix), cs)
    | _, _ => none
  | cs => do
    let (handle, cs) ← readHandle cs
    let (suffix, cs) ← readTagChars false (cs.length + 1) cs
    if handle.length ≠ 1 ∧ handle.getLast? = some '!' then
      if suffix = [] then none else some (.tag (String.ofList handle) (String.ofList suffix), cs)
    else
      let suffix := handle.tail ++ suffix
      some (if suffix = [] then .tag "" "!" else .tag "!" (String.ofList suffix), cs)

/-- Reads a tag; a blank, a line end or, between brackets and braces, a comma has to follow. -/
def fetchTag (s : Scanner) : Option Scanner := do
  let s ← s.saveKey
  let (t, cs) ← readTag s.cursor.rest
  if !(wordEnds cs || s.inFlow && cs.head? == some ',') then none
  return { s with cursor := s.cursor.skipTo cs, keyAllowed := false }.emit t

def fetchBlockScalar (style : ScalarStyle) (s : Scanner) : Option Scanner := do
  let s ← s.dropKey
  let (text, cursor) ← readBlock (style == .folded) s.indent s.cursor.next
  return { s with cursor, keyAllowed := true }.emit (.scalar style (String.ofList text))

def fetchQuoted (quote : Char) (s : Scanner) : Option Scanner := do
  let s ← s.saveKey
  let c := s.cursor.next
  let (text, cursor) ← readQuoted quote (c.rest.length + 1) c
  return { s with cursor, keyAllowed := false }.emit (.scalar .quoted (String.ofList text))

/-- Reads a plain scalar. After one that was followed by a line end a key may start. -/
def fetchPlain (s : Scanner) : Option Scanner := do
  let s ← s.saveKey
  let (text, spansLines, cursor) ← readPlain s.inFlow (s.indent + 1) (s.cursor.rest.length + 1) [] s.cursor
  return { s with cursor, keyAllowed := spansLines }.emit (.scalar .plain (String.ofList text))

/-- Whether a plain scalar may start with a text. -/
def startsPlain (flow : Bool) : List Char → Bool
  | '-' :: cs => !(cs.head?.any isBlank)
  | '?' :: cs | ':' :: cs => !flow && !wordEnds cs
  | c :: _ => !("#&*!|>'\"%@`".toList.contains c || isFlowIndicator c || isBlank c || isBreak c)
  | [] => false

def fetch (s : Scanner) : Option Scanner :=
  let c := s.cursor
  let flow := s.inFlow
  if c.column = 0 ∧ c.rest.head? = some '%' then s.fetchDirective
  else if c.isMarker then s.fetchMarker
  else match c.rest with
    | '[' :: _ => s.fetchFlowStart .flowSequence
    | '\x7b' :: _ => s.fetchFlowStart .flowMapping
    | ']' :: _ => s.fetchFlowEnd .flowSequenceEnd
    | '\x7d' :: _ => s.fetchFlowEnd .flowMappingEnd
    | ',' :: _ => s.fetchFlowEntry
    | '*' :: _ => s.fetchAnchor .reference
    | '&' :: _ => s.fetchAnchor .anchor
    | '!' :: _ => s.fetchTag
    | '\'' :: _ => s.fetchQuoted '\''
    | '"' :: _ => s.fetchQuoted '"'
    | x :: rest =>
      if x = '-' ∧ wordEnds rest then s.fetchBlockEntry
      else if x = '?' ∧ (flow ∨ wordEnds rest) then s.fetchKey
      else if x = ':' ∧ (flow ∨ wordEnds rest) then s.fetchValue
      else if x = '|' ∧ !flow then s.fetchBlockScalar .literal
      else if x = '>' ∧ !flow then s.fetchBlockScalar .folded
      else if startsPlain flow c.rest then s.fetchPlain
      else none
    | [] => none

/-- Cuts the rest of a text. At its end all blocks end. -/
def run : Nat → Scanner → Option (Array Token)
  | 0, _ => none
  | fuel + 1, s => do
    let s ← (s.skipSpace (s.cursor.rest.length + 1)).expireKeys
    let s := s.unroll s.cursor.column
    if s.cursor.rest = [] then (s.unroll (-1)).dropKey.map (·.tokens)
    else run fuel (← s.fetch)

end Scanner

def ofChars? (cs : List Char) : Option (List Token) :=
  if !cs.all isAllowed then none
  else (Scanner.run (cs.length + 1) { cursor := { rest := unifyBreaks cs } }).map Array.toList

end Token
end PluginHost.Yaml
