import PluginHost.Document.Toml.Basic
import PluginHost.Number.Literal
import PluginHost.Text.Split

/-!
# Numbers, dates and truth values in TOML

What stands for such a value is a run of letters, digits and `_ + - . :`, which is read as a whole: nothing else that
may follow a value starts with one of these characters.

* `isDigit_of_mem_digitGroups?`: what is left without the underscores are digits.
-/

namespace PluginHost.Toml

/-- The digits of a number without the underscores, each of which stands between two digits. -/
def digitGroups? (isDigit : Char → Bool) (cs : List Char) : Option (List Char) :=
  let groups := Text.splitAtSep '_' cs
  if groups.all fun g => !g.isEmpty && g.all isDigit then some groups.flatten else none

/-- What is left without the underscores are digits. -/
theorem isDigit_of_mem_digitGroups? {isDigit : Char → Bool} {cs digits : List Char}
    (h : digitGroups? isDigit cs = some digits) : ∀ d ∈ digits, isDigit d = true := by
  simp only [digitGroups?] at h
  split at h
  · rename_i hall
    cases h
    intro d hd
    obtain ⟨g, hg, hd⟩ := List.mem_flatten.1 hd
    have := List.all_eq_true.1 hall g hg
    simp only [Bool.and_eq_true] at this
    exact List.all_eq_true.1 this.2 d hd
  · cases h

/-- The digits of a number that does not start with a zero, unless it is zero. -/
def wholeDigits? (cs : List Char) : Option (List Char) :=
  if cs.head? = some '0' ∧ cs.length ≠ 1 then none else digitGroups? Char.isDigit cs

/-- The sign at the front, true for minus, and what follows it. -/
def splitSign : List Char → Bool × List Char
  | '+' :: cs => (false, cs)
  | '-' :: cs => (true, cs)
  | cs => (false, cs)

def maxInteger : Nat := Nat.pow 2 63 - 1

def basedInteger? (base : Nat) (cs : List Char) : Option Toml := do
  let digits ← digitGroups? (fun c => (hexValue? c).isSome) cs
  let n ← natOfBase? base digits
  if n ≤ maxInteger then some (integer n) else none

def integer? : List Char → Option Toml
  | '0' :: 'x' :: cs => basedInteger? 16 cs
  | '0' :: 'o' :: cs => basedInteger? 8 cs
  | '0' :: 'b' :: cs => basedInteger? 2 cs
  | cs => do
    let (negative, cs) := splitSign cs
    let n := natOfDigits (← wholeDigits? cs)
    if negative then (if n ≤ maxInteger + 1 then some (integer (-n)) else none)
    else if n ≤ maxInteger then some (integer n) else none

/-- The text before and, if there is one, after the first character with a property. -/
def splitFirst (p : Char → Bool) (cs : List Char) : List Char × Option (List Char) :=
  match cs.dropWhile (!p ·) with
  | [] => (cs, none)
  | _ :: rest => (cs.takeWhile (!p ·), some rest)

/-- The parts of a number with a point or an exponent; digits stand on both sides of a point. -/
def literal? (cs : List Char) : Option Literal := do
  let (mantissa, exponent) := splitFirst (fun c => c == 'e' || c == 'E') cs
  let (whole, fraction) := splitFirst (· == '.') mantissa
  if fraction.isNone ∧ exponent.isNone then none
  let whole ← wholeDigits? whole
  let fraction ← match fraction with
    | some cs => digitGroups? Char.isDigit cs
    | none => some []
  let exponent ← match exponent with
    | some cs =>
      let (negative, cs) := splitSign cs
      (digitGroups? Char.isDigit cs).map fun digits =>
        if negative then -(natOfDigits digits : Int) else natOfDigits digits
    | none => some 0
  return { whole, fraction, exponent }

/-- A number with a point or an exponent, or one of the words for what is not finite. A positive number beyond the
greatest one is refused. -/
def float? (cs : List Char) : Option Toml := do
  let (negative, cs) := splitSign cs
  if cs = "inf".toList ∨ cs = "nan".toList then return float none
  match (← literal? cs).toBinary64 negative with
  | some x => some (float (some x))
  | none => if negative then some (float none) else none

/-! ## Dates and times -/

/-- Reads two digits that write a number between bounds. -/
def readPair (low high : Nat) : List Char → Option (Nat × List Char)
  | a :: b :: cs =>
    let n := natOfDigits [a, b]
    if a.isDigit ∧ b.isDigit ∧ low ≤ n ∧ n ≤ high then some (n, cs) else none
  | _ => none

/-- Drops a character that has to come next. -/
def expect (c : Char) : List Char → Option (List Char)
  | d :: cs => if d = c then some cs else none
  | [] => none

def daysIn (year month : Nat) : Nat :=
  if month = 2 then if year % 4 = 0 ∧ (year % 100 ≠ 0 ∨ year % 400 = 0) then 29 else 28
  else if month = 4 ∨ month = 6 ∨ month = 9 ∨ month = 11 then 30 else 31

def readDate (cs : List Char) : Option (List Char) := do
  let (century, cs) ← readPair 0 99 cs
  let (year, cs) ← readPair 0 99 cs
  let (month, cs) ← readPair 1 12 (← expect '-' cs)
  let (_, cs) ← readPair 1 (daysIn (century * 100 + year) month) (← expect '-' cs)
  return cs

/-- Reads a time of day; gives what follows. A minute may have a leap second. -/
def readTime (cs : List Char) : Option (List Char) := do
  let (_, cs) ← readPair 0 23 cs
  let (_, cs) ← readPair 0 59 (← expect ':' cs)
  let (_, cs) ← readPair 0 60 (← expect ':' cs)
  match cs with
  | '.' :: cs => if cs.head?.any Char.isDigit then some (cs.dropWhile Char.isDigit) else none
  | cs => some cs

/-- Whether a text is a distance from universal time. -/
def isOffset : List Char → Bool
  | ['Z'] | ['z'] => true
  | c :: cs => (c == '+' || c == '-') && (do
      let (_, cs) ← readPair 0 23 cs
      let (_, cs) ← readPair 0 59 (← expect ':' cs)
      return cs) == some []
  | [] => false

/-- Whether a text is a date, a time, or a date with a time and perhaps an offset. -/
def isMoment (cs : List Char) : Bool :=
  match readDate cs with
  | some [] => true
  | some (c :: cs) =>
    (c == 'T' || c == 't' || c == ' ') &&
      match readTime cs with
      | some rest => rest.isEmpty || isOffset rest
      | none => false
  | none => readTime cs == some []

/-! ## All of them -/

/-- The value that a run of characters stands for. -/
def scalar? (cs : List Char) : Option Toml :=
  if cs = "true".toList then some (bool true)
  else if cs = "false".toList then some (bool false)
  else if isMoment cs then some (moment (String.ofList cs))
  else float? cs <|> integer? cs

/-- The characters of such values. -/
def isScalarChar (c : Char) : Bool := c.isAlphanum || c == '_' || c == '+' || c == '-' || c == '.' || c == ':'

/-- Reads such a value. A date and its time may stand apart, with a single space between them. -/
def readScalar (cs : List Char) : Option (Toml × List Char) :=
  let run := cs.takeWhile isScalarChar
  let rest := cs.dropWhile isScalarChar
  let (run, rest) := match readDate run, rest with
    | some [], ' ' :: time =>
      let more := time.takeWhile isScalarChar
      if (readTime more).isSome then (run ++ ' ' :: more, time.dropWhile isScalarChar) else (run, rest)
    | _, _ => (run, rest)
  (scalar? run).map fun value => (value, rest)

end PluginHost.Toml
