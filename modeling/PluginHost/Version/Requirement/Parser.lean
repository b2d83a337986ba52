import PluginHost.Version.Parser
import PluginHost.Version.Requirement

/-!
# Reading requirements

A requirement is a star (or `x`) alone, or up to `maxComparators` comparators with commas between them. Spaces may
stand before a comparator, between its operator and its first number, and after it; other blanks may not.
-/

namespace PluginHost.Requirement

/-- A requirement has no more comparators than this. -/
def maxComparators : Nat := 32

def skipSpaces (cs : List Char) : List Char := cs.dropWhile (· == ' ')

def isWildcard (c : Char) : Bool := c == '*' || c == 'x' || c == 'X'

/-- Reads an operator; without one the comparator has the default, which is the caret. -/
def readOperator : List Char → Option Operator × List Char
  | '=' :: cs => (some .exact, cs)
  | '>' :: '=' :: cs => (some .greaterEq, cs)
  | '>' :: cs => (some .greater, cs)
  | '<' :: '=' :: cs => (some .lessEq, cs)
  | '<' :: cs => (some .less, cs)
  | '~' :: cs => (some .tilde, cs)
  | '^' :: cs => (some .caret, cs)
  | cs => (none, cs)

/-- What the reader of a comparator has found after the major number. -/
structure Tail where
  precision : Precision
  /-- A wildcard stands for a missing number. -/
  starred : Bool
  /-- The part that was read last. -/
  last : VersionPart
  rest : List Char

/-- Reads the pre-release and the build metadata, which is dropped, after a full version. -/
def readSuffix (minor patch : Nat) (cs : List Char) : Except VersionFault Tail := do
  let (pre, last, cs) ← Version.readPre .patch cs
  let (_, last, cs) ← Version.readBuild last cs
  return { precision := .full minor patch pre, starred := false, last, rest := cs }

def readPatch (minor : Nat) : List Char → Except VersionFault Tail
  | '.' :: cs =>
    match cs with
    | c :: rest =>
      if isWildcard c then .ok { precision := .minor minor, starred := true, last := .patch, rest }
      else do
        let (patch, cs) ← Version.readNumber .patch cs
        readSuffix minor patch cs
    | [] => .error (.endOfInput .patch)
  | cs => .ok { precision := .minor minor, starred := false, last := .minor, rest := cs }

/-- Reads what follows a wildcard in the place of the minor number: nothing, or another wildcard. -/
def readStarredPatch : List Char → Except VersionFault Tail
  | '.' :: cs =>
    match cs with
    | c :: rest =>
      if isWildcard c then .ok { precision := .major, starred := true, last := .patch, rest }
      else .error .afterWildcard
    | [] => .error .afterWildcard
  | cs => .ok { precision := .major, starred := true, last := .minor, rest := cs }

def readMinor : List Char → Except VersionFault Tail
  | '.' :: cs =>
    match cs with
    | c :: rest =>
      if isWildcard c then readStarredPatch rest
      else do
        let (minor, cs) ← Version.readNumber .minor cs
        readPatch minor cs
    | [] => .error (.endOfInput .minor)
  | cs => .ok { precision := .major, starred := false, last := .major, rest := cs }

/-- Reads a comparator and the spaces after it; the part says what was read last. -/
def readComparator (cs : List Char) : Except VersionFault (Comparator × VersionPart × List Char) := do
  let (op, cs) := readOperator cs
  let (major, cs) ← Version.readNumber .major (skipSpaces cs)
  let tail ← readMinor cs
  let op := op.getD (if tail.starred then .wildcard else .caret)
  return ({ op, major, precision := tail.precision }, tail.last, skipSpaces tail.rest)

/-- The fault of a comparator that cannot be read: a wildcard that fills its place is reported as such. -/
def comparatorFault (cs : List Char) (fault : VersionFault) : VersionFault :=
  match cs with
  | c :: rest =>
    if isWildcard c then
      match skipSpaces rest with
      | [] | ',' :: _ => .wildcardNotAlone c
      | _ => fault
    else fault
  | [] => fault

/-- Reads comparators with commas between them, `room` of them at most. -/
def readComparators : Nat → List Char → Except VersionFault (List Comparator)
  | 0, _ => .error .tooManyComparators
  | room + 1, cs =>
    match readComparator cs with
    | .error fault => .error (comparatorFault cs fault)
    | .ok (c, _, []) => .ok [c]
    | .ok (c, _, ',' :: rest) => (readComparators room (skipSpaces rest)).map (c :: ·)
    | .ok (_, last, d :: _) => .error (.commaExpected last d)

def ofChars (cs : List Char) : Except VersionFault Requirement :=
  let cs := skipSpaces cs
  match cs with
  | c :: rest =>
    if isWildcard c then
      match skipSpaces rest with
      | [] => .ok { comparators := [] }
      | ',' :: _ => .error (.wildcardNotAlone c)
      | _ => .error .afterWildcard
    else (readComparators maxComparators cs).map Requirement.mk
  | [] => (readComparators maxComparators cs).map Requirement.mk

end PluginHost.Requirement
