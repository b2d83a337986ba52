import PluginHost.Document.Toml.Scalar
import PluginHost.Document.Toml.Text

/-!
# Reading TOML

A document is read line by line into its outermost table.
-/

namespace PluginHost.Toml

/-! ## Between the values -/

def skipBlanks (cs : List Char) : List Char := cs.dropWhile isBlank

/-- Reads what may stand behind a value, a header or alone in a line: blanks, a comment, the end of the line. -/
def endLine (cs : List Char) : Option (List Char) :=
  let rest := match skipBlanks cs with
    | '#' :: comment => comment.dropWhile isLineChar
    | rest => rest
  match rest with
  | [] => some []
  | '\n' :: rest => some rest
  | '\r' :: '\n' :: rest => some rest
  | _ => none

/-- Skips blanks, line ends and comments; a comment has to end with its line. -/
def skipLines (inComment : Bool) : List Char → Option (List Char)
  | '\n' :: cs => skipLines false cs
  | '\r' :: '\n' :: cs => skipLines false cs
  | c :: cs =>
    if inComment then if isLineChar c then skipLines true cs else none
    else if isBlank c then skipLines false cs
    else if c = '#' then skipLines true cs
    else some (c :: cs)
  | [] => if inComment then none else some []

/-! ## Keys -/

def isKeyChar (c : Char) : Bool := c.isAlphanum || c == '_' || c == '-'

def readSimpleKey : List Char → Option (String × List Char)
  | '"' :: rest => (readBasic rest).map fun (key, rest) => (String.ofList key, rest)
  | '\'' :: rest => (readLiteral rest).map fun (key, rest) => (String.ofList key, rest)
  | cs =>
    let key := cs.takeWhile isKeyChar
    if key = [] then none else some (String.ofList key, cs.dropWhile isKeyChar)

/-- Reads keys with dots between them, and the blanks around each. -/
def readKeys : Nat → List Char → Option (List String × List Char)
  | 0, _ => none
  | fuel + 1, cs => do
    let (key, rest) ← readSimpleKey (skipBlanks cs)
    match skipBlanks rest with
    | '.' :: rest => (readKeys fuel rest).map fun (keys, rest) => (key :: keys, rest)
    | rest => some ([key], rest)

/-- A dotted key has fewer parts than this, and values are nested less deep. -/
def maxDepth : Nat := 80

/-- Reads a dotted key: the path to a table, and a key in it. -/
def readKey (cs : List Char) : Option (List String × String × List Char) := do
  let (keys, rest) ← readKeys maxDepth cs
  if maxDepth ≤ keys.length then none
  let last ← keys.getLast?
  return (keys.dropLast, last, rest)

/-! ## Values -/

mutual

def readValue : Nat → Nat → List Char → Option (Toml × List Char)
  | 0, _, _ => none
  | fuel + 1, room, cs =>
    match cs with
    | '"' :: _ | '\'' :: _ => (readText cs).map fun (s, rest) => (text (String.ofList s), rest)
    | '[' :: rest =>
      if room ≤ 1 then none else (readItems fuel (room - 1) rest).map fun (items, rest) => (array items, rest)
    | '\x7b' :: rest =>
      if room ≤ 1 then none
      else match skipBlanks rest with
        | '\x7d' :: rest => some (table .inline [], rest)
        | rest => (readPairs fuel (room - 1) [] rest).map fun (fields, rest) => (table .inline fields, rest)
    | cs => readScalar cs

/-- Reads the items of an array up to its closing bracket. -/
def readItems : Nat → Nat → List Char → Option (List Toml × List Char)
  | 0, _, _ => none
  | fuel + 1, room, cs => do
    match ← skipLines false cs with
    | ']' :: rest => some ([], rest)
    | cs =>
      let (item, rest) ← readValue fuel room cs
      match ← skipLines false rest with
      | ',' :: rest => (readItems fuel room rest).map fun (items, rest) => (item :: items, rest)
      | ']' :: rest => some ([item], rest)
      | _ => none

/-- Reads the fields of a table between braces up to its closing brace; `fields` were read before. -/
def readPairs : Nat → Nat → Fields → List Char → Option (Fields × List Char)
  | 0, _, _, _ => none
  | fuel + 1, room, fields, cs => do
    let (path, key, rest) ← readKey cs
    let (value, rest) ← readValue fuel room (skipBlanks (← expect '=' rest))
    let fields ← insert path key value .inline fields
    match skipBlanks rest with
    | ',' :: rest => readPairs fuel room fields rest
    | '\x7d' :: rest => some (fields, rest)
    | _ => none

end

/-! ## Lines -/

/-- Reads a key, its value and the end of the line. -/
def readField (cs : List Char) : Option (List String × String × Toml × List Char) := do
  let (path, key, rest) ← readKey cs
  let rest := skipBlanks (← expect '=' rest)
  let (value, rest) ← readValue (2 * rest.length + 2) maxDepth rest
  return (path, key, value, ← endLine rest)

/-- Reads the lines of a document; `header` is the path of the last header and `root` the outermost table so far. -/
def readLines : Nat → List String → Fields → List Char → Option Fields
  | 0, _, _, _ => none
  | fuel + 1, header, root, cs =>
    match skipBlanks cs with
    | [] => some root
    | '#' :: rest => do readLines fuel header root (← endLine ('#' :: rest))
    | '\n' :: rest => readLines fuel header root rest
    | '\r' :: rest => do readLines fuel header root (← endLine ('\r' :: rest))
    | '[' :: '[' :: rest => do
      let (path, key, rest) ← readKey rest
      let root ← openItem path key root
      readLines fuel (path ++ [key]) root (← endLine (← expect ']' (← expect ']' rest)))
    | '[' :: rest => do
      let (path, key, rest) ← readKey rest
      let root ← openTable path key root
      readLines fuel (path ++ [key]) root (← endLine (← expect ']' rest))
    | cs => do
      let (path, key, value, rest) ← readField cs
      readLines fuel header (← insertUnder header path key value root) rest

def parse? (s : String) : Option Toml :=
  let cs := match s.toList with
    | '\uFEFF' :: cs => cs
    | cs => cs
  (readLines (cs.length + 1) [] [] cs).map (table .header)

end PluginHost.Toml
