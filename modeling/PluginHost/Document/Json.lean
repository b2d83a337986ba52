import PluginHost.Document.Basic
import PluginHost.Number.Digit

/-!
# Reading JSON

`Json.parse?` reads the syntax alone: fields stay in the order of the text, repeated keys included, and a number or a
text that has no value (out of range, half of a surrogate pair) is kept as such. `Json.toDocument?` gives the value:
the last of several fields with one key counts, nesting is bounded, and everything must have a value.
-/

namespace PluginHost

/-- A JSON text as written. -/
inductive Json where
  | null
  | bool (b : Bool)
  | integer (n : Int)
  /-- A number with a point or an exponent or beyond 64 bits; `none` when it is out of range. -/
  | float (x : Option Binary64)
  /-- A text; `none` when it has half of a surrogate pair. -/
  | text (s : Option String)
  | array (items : List Json)
  | object (fields : List (Option String × Json))

namespace Json

def isSpace (c : Char) : Bool := c == ' ' || c == '\n' || c == '\t' || c == '\r'

def skipSpace (cs : List Char) : List Char := cs.dropWhile isSpace

/-! ## Numbers -/

/-- The greatest significand of a number while it is read: digits that would pass it are left out. -/
def maxSignificand : Nat := Nat.pow 2 64 - 1

/-- The greatest exponent that may be written; a longer one makes the number zero or puts it out of range. -/
def maxWrittenExponent : Nat := Nat.pow 2 31 - 1

/-- A number while it is read: `significand * 10 ^ exponent`, and whether digits had to be left out. -/
structure Significand where
  significand : Nat
  exponent : Int
  cut : Bool

/-- Takes in a digit before the point. A digit left out there counts as a zero. -/
def Significand.whole (s : Significand) (c : Char) : Significand :=
  if s.cut ∨ maxSignificand < s.significand * 10 + digitValue c then
    { s with exponent := s.exponent + 1, cut := true }
  else { s with significand := s.significand * 10 + digitValue c }

/-- Takes in a digit after the point, unless one was left out there already. -/
def Significand.fraction (s : Significand) (c : Char) : Significand :=
  if s.cut ∨ maxSignificand < s.significand * 10 + digitValue c then { s with cut := true }
  else { s with significand := s.significand * 10 + digitValue c, exponent := s.exponent - 1 }

/-- Divides by `10 ^ 308` and once more by the rest of the power, each time rounding. -/
def divideTwice (x : Binary64) (exponent : Nat) : Option Binary64 := do
  let large ← Binary64.ofDecimal false 1 308
  let rest ← Binary64.ofDecimal false 1 (exponent - 308 : Nat)
  let y ← x.div large
  if y.significand = 0 then return y else y.div rest

/-- The value of a number: the significand is rounded first, and its product with the power of ten once more. What is
divided by more than `10 ^ 616` is too small for any number but zero. -/
def scale (negative : Bool) (significand : Nat) (exponent : Int) : Option Binary64 := do
  let x ← Binary64.ofDecimal negative significand 0
  if x.significand = 0 then return x
  if 308 < exponent then none
  else if 0 ≤ exponent then x.mul (← Binary64.ofDecimal false 1 exponent)
  else if -308 ≤ exponent then x.div (← Binary64.ofDecimal false 1 (-exponent))
  else if exponent < -616 then return Binary64.zero negative
  else divideTwice x (-exponent).toNat

/-- Reads the exponent after `e`, and gives the value of the number. -/
def readExponent (negative : Bool) (s : Significand) (cs : List Char) : Option (Json × List Char) :=
  let (sign, cs) := match cs with
    | '+' :: cs => (false, cs)
    | '-' :: cs => (true, cs)
    | cs => (false, cs)
  let digits := cs.takeWhile Char.isDigit
  let rest := cs.dropWhile Char.isDigit
  let written := natOfDigits digits
  if digits = [] then none
  else if maxWrittenExponent < written then
    if s.significand ≠ 0 ∧ ¬ sign then some (float none, rest)
    else some (float (some (Binary64.zero negative)), rest)
  else
    let exponent := s.exponent + (if sign then -(written : Int) else written)
    some (float (scale negative s.significand exponent), rest)

/-- Reads what follows the digits before the point. -/
def readFraction (negative : Bool) (s : Significand) : List Char → Option (Json × List Char)
  | '.' :: cs =>
    let digits := cs.takeWhile Char.isDigit
    let rest := cs.dropWhile Char.isDigit
    if digits = [] then none
    else
      let s := digits.foldl Significand.fraction { s with cut := false }
      match rest with
      | 'e' :: rest | 'E' :: rest => readExponent negative s rest
      | rest => some (float (scale negative s.significand s.exponent), rest)
  | 'e' :: cs | 'E' :: cs => readExponent negative s cs
  | cs =>
    if s.cut then some (float (scale negative s.significand s.exponent), cs)
    else if ¬ negative then some (integer s.significand, cs)
    else if s.significand = 0 ∨ Nat.pow 2 63 < s.significand then
      some (float (scale true s.significand 0), cs)
    else some (integer (-(s.significand : Int)), cs)

def readNumber (negative : Bool) (cs : List Char) : Option (Json × List Char) :=
  let digits := cs.takeWhile Char.isDigit
  let rest := cs.dropWhile Char.isDigit
  match digits with
  | [] => none
  | '0' :: _ :: _ => none
  | digits =>
    readFraction negative (digits.foldl Significand.whole { significand := 0, exponent := 0, cut := false }) rest

/-! ## Texts -/

/-- One unit of a text as written: a character, or half of a surrogate pair. -/
inductive TextUnit where
  | char (c : Char)
  | half (code : Nat)

/-- The unit that hexadecimal digits write. -/
def unitOfHex? (digits : List Char) : Option TextUnit :=
  (natOfBase? 16 digits).map fun code =>
    if 0xD800 ≤ code ∧ code < 0xE000 then .half code else .char (Char.ofNat code)

/-- The character that an escape of one letter stands for. -/
def escaped? : Char → Option Char
  | '"' => some '"'
  | '\\' => some '\\'
  | '/' => some '/'
  | 'b' => some '\x08'
  | 'f' => some '\x0c'
  | 'n' => some '\n'
  | 'r' => some '\r'
  | 't' => some '\t'
  | _ => none

/-- Puts a unit that was read in front of what is read on. -/
def pushUnit (unit : Option TextUnit) (rest : Option (List TextUnit × List Char)) :
    Option (List TextUnit × List Char) := do
  let unit ← unit
  let (units, rest) ← rest
  return (unit :: units, rest)

/-- Reads the units of a text up to its closing quote. -/
def readUnits : List Char → Option (List TextUnit × List Char)
  | '"' :: rest => some ([], rest)
  | '\\' :: 'u' :: a :: b :: c :: d :: rest => pushUnit (unitOfHex? [a, b, c, d]) (readUnits rest)
  | '\\' :: c :: rest => pushUnit ((escaped? c).map .char) (readUnits rest)
  | c :: rest => if c.toNat < 0x20 ∨ c = '\\' then none else pushUnit (some (.char c)) (readUnits rest)
  | [] => none

/-- The characters that units stand for: a high half and a low half make one; any other half has no value. -/
def charsOf? : List TextUnit → Option (List Char)
  | [] => some []
  | .char c :: units => (charsOf? units).map (c :: ·)
  | .half high :: .half low :: units =>
    if high < 0xDC00 ∧ 0xDC00 ≤ low then
      (charsOf? units).map (Char.ofNat (0x10000 + (high - 0xD800) * 0x400 + (low - 0xDC00)) :: ·)
    else none
  | .half _ :: _ => none

def readText (cs : List Char) : Option (Option String × List Char) :=
  (readUnits cs).map fun (units, rest) => ((charsOf? units).map String.ofList, rest)

/-! ## Values -/

mutual

/-- Reads a value; every call passes at least one character or one unit of fuel. -/
def readValue : Nat → List Char → Option (Json × List Char)
  | 0, _ => none
  | fuel + 1, cs =>
    match skipSpace cs with
    | 'n' :: 'u' :: 'l' :: 'l' :: rest => some (null, rest)
    | 't' :: 'r' :: 'u' :: 'e' :: rest => some (bool true, rest)
    | 'f' :: 'a' :: 'l' :: 's' :: 'e' :: rest => some (bool false, rest)
    | '"' :: rest => (readText rest).map fun (s, rest) => (text s, rest)
    | '-' :: rest => readNumber true rest
    | '[' :: rest =>
      match skipSpace rest with
      | ']' :: rest => some (array [], rest)
      | rest => (readItems fuel rest).map fun (items, rest) => (array items, rest)
    | '\x7b' :: rest =>
      match skipSpace rest with
      | '\x7d' :: rest => some (object [], rest)
      | rest => (readFields fuel rest).map fun (fields, rest) => (object fields, rest)
    | c :: rest => if c.isDigit then readNumber false (c :: rest) else none
    | [] => none

/-- Reads the items of an array up to its closing bracket. -/
def readItems : Nat → List Char → Option (List Json × List Char)
  | 0, _ => none
  | fuel + 1, cs => do
    let (item, rest) ← readValue fuel cs
    match skipSpace rest with
    | ',' :: rest => (readItems fuel rest).map fun (items, rest) => (item :: items, rest)
    | ']' :: rest => some ([item], rest)
    | _ => none

/-- Reads the fields of an object up to its closing brace. -/
def readFields : Nat → List Char → Option (List (Option String × Json) × List Char)
  | 0, _ => none
  | fuel + 1, cs =>
    match skipSpace cs with
    | '"' :: rest => do
      let (key, rest) ← readText rest
      match skipSpace rest with
      | ':' :: rest =>
        let (value, rest) ← readValue fuel rest
        match skipSpace rest with
        | ',' :: rest => (readFields fuel rest).map fun (fields, rest) => ((key, value) :: fields, rest)
        | '\x7d' :: rest => some ([(key, value)], rest)
        | _ => none
      | _ => none
    | _ => none

end

/-- Reads a JSON text; blanks may stand around the value, nothing else. -/
def parse? (s : String) : Option Json :=
  let cs := s.toList
  match readValue (2 * cs.length + 2) cs with
  | some (value, rest) => if skipSpace rest = [] then some value else none
  | none => none

/-! ## The value -/

/-- Arrays and objects are nested less deep than this. -/
def maxDepth : Nat := 128

mutual

/-- The value of a JSON text that may still be nested `depth` deep. -/
def valueOf? (depth : Nat) : Json → Option Document
  | null => some .null
  | bool b => some (.bool b)
  | integer n => some (.integer n)
  | float x => x.map .float
  | text s => s.map .text
  | array items => if depth ≤ 1 then none else (valuesOf? (depth - 1) items).map .list
  | object fields =>
    if depth ≤ 1 then none else (fieldsOf? (depth - 1) fields).map Document.tableOf

def valuesOf? (depth : Nat) : List Json → Option (List Document)
  | [] => some []
  | item :: items => do
    let value ← valueOf? depth item
    let values ← valuesOf? depth items
    return value :: values

def fieldsOf? (depth : Nat) : List (Option String × Json) → Option (List (String × Document))
  | [] => some []
  | (key, item) :: fields => do
    let key ← key
    let value ← valueOf? depth item
    let values ← fieldsOf? depth fields
    return (key, value) :: values

end

def toDocument? (json : Json) : Option Document := valueOf? maxDepth json

end Json
end PluginHost
