import PluginHost.Number.Digit
import PluginHost.Text.Blank
import PluginHost.Text.Split
import PluginHost.Version.Basic
import PluginHost.Version.Fault

/-!
# Reading versions

`Version.ofChars` reads `major.minor.patch[-pre][+build]`, and `Version.parse` the same after dropping the blanks
around it. The readers of the parts (`readNumber`, `readIdentifier`) give back what follows the part.
-/

namespace PluginHost.Version

/-- The greatest number a version may hold. -/
def maxNumber : Nat := Nat.pow 2 64 - 1

/-- Reads on in a number whose digits so far have the value `value`. -/
def readDigits (part : VersionPart) (value : Nat) : List Char → Except VersionFault (Nat × List Char)
  | [] => .ok (value, [])
  | c :: cs =>
    if c.isDigit then
      if value = 0 then .error (.leadingZero part)
      else
        let next := value * 10 + digitValue c
        if maxNumber < next then .error (.tooLarge part) else readDigits part next cs
    else .ok (value, c :: cs)

/-- Reads a number: at least one digit, no leading zero, at most `maxNumber`. -/
def readNumber (part : VersionPart) : List Char → Except VersionFault (Nat × List Char)
  | [] => .error (.endOfInput part)
  | c :: cs => if c.isDigit then readDigits part (digitValue c) cs else .error (.unexpected part c)

def readDot (part : VersionPart) : List Char → Except VersionFault (List Char)
  | [] => .error (.endOfInput part)
  | c :: cs => if c = '.' then .ok cs else .error (.unexpectedAfter part c)

def isIdentifierChar (c : Char) : Bool := c.isAlphanum || c == '-'

/-- What is wrong with one segment of an identifier, if anything. -/
def segmentFault? (part : VersionPart) (segment : List Char) : Option VersionFault :=
  if segment = [] then some (.emptySegment part)
  else if part = .pre ∧ segment.all Char.isDigit ∧ 1 < segment.length ∧ segment.head? = some '0' then
    some (.leadingZero part)
  else none

/-- Reads dot-separated segments, none of them empty. -/
def readIdentifier (part : VersionPart) (cs : List Char) : Except VersionFault (List (List Char) × List Char) :=
  let inside := fun c => isIdentifierChar c || c == '.'
  let segments := Text.splitAtSep '.' (cs.takeWhile inside)
  match segments.findSome? (segmentFault? part) with
  | some fault => .error fault
  | none => .ok (segments, cs.dropWhile inside)

/-- A segment of a pre-release: digits only make a number. -/
def segmentOf (segment : List Char) : Segment :=
  if segment.all Char.isDigit then .number (natOfDigits segment)
  else .word (String.ofList segment)

/-- Reads a pre-release when a hyphen announces one; the part says what was read last. -/
def readPre (before : VersionPart) : List Char → Except VersionFault (List Segment × VersionPart × List Char)
  | '-' :: cs => do
    let (segments, rest) ← readIdentifier .pre cs
    return (segments.map segmentOf, .pre, rest)
  | cs => .ok ([], before, cs)

/-- Reads build metadata when a plus sign announces it; the part says what was read last. -/
def readBuild (before : VersionPart) : List Char → Except VersionFault (String × VersionPart × List Char)
  | '+' :: cs => do
    let (segments, rest) ← readIdentifier .build cs
    return (String.ofList (Text.joinWith '.' segments), .build, rest)
  | cs => .ok ("", before, cs)

def ofChars (cs : List Char) : Except VersionFault Version := do
  if cs = [] then throw .empty
  let (major, cs) ← readNumber .major cs
  let cs ← readDot .major cs
  let (minor, cs) ← readNumber .minor cs
  let cs ← readDot .minor cs
  let (patch, cs) ← readNumber .patch cs
  let (pre, last, cs) ← readPre .patch cs
  let (build, last, cs) ← readBuild last cs
  match cs with
  | [] => return { major, minor, patch, pre, build }
  | c :: _ => throw (.unexpectedAfter last c)

/-- Reads a version, with blanks around it allowed. -/
def parse (input : String) : Except VersionError Version :=
  match ofChars (Text.trimChars input.toList) with
  | .ok v => .ok v
  | .error fault => .error (.invalidVersion input fault)

end PluginHost.Version
