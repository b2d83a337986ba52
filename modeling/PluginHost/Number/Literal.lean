import PluginHost.Number.Binary64
import PluginHost.Number.Digit

/-!
# Decimal literals

A number as it is written: digits, a point somewhere, an exponent.
-/

namespace PluginHost

/-- The parts of a written number. -/
structure Literal where
  whole : List Char
  fraction : List Char := []
  exponent : Int := 0
deriving DecidableEq, Repr

namespace Literal

/-- Reads an exponent, sign included, up to the end. -/
def exponentOf? (cs : List Char) : Option Int :=
  let (negative, digits) := match cs with
    | '+' :: cs => (false, cs)
    | '-' :: cs => (true, cs)
    | cs => (false, cs)
  if digits = [] ∨ digits.any (!·.isDigit) then none
  else some (if negative then -(natOfDigits digits : Int) else natOfDigits digits)

/-- Reads a number without a sign, up to the end: a digit at least on one side of the point. -/
def ofChars? (cs : List Char) : Option Literal :=
  let whole := cs.takeWhile Char.isDigit
  let (fraction, rest) := match cs.dropWhile Char.isDigit with
    | '.' :: cs => (cs.takeWhile Char.isDigit, cs.dropWhile Char.isDigit)
    | cs => ([], cs)
  if whole = [] ∧ fraction = [] then none
  else match rest with
    | [] => some { whole, fraction }
    | 'e' :: cs | 'E' :: cs => (exponentOf? cs).map fun exponent => { whole, fraction, exponent }
    | _ => none

/-- The number of the format nearest to a literal; none when that lies beyond the greatest one. -/
def toBinary64 (l : Literal) (negative : Bool) : Option Binary64 :=
  Binary64.ofDecimal negative (natOfDigits (l.whole ++ l.fraction)) (l.exponent - l.fraction.length)

end Literal
end PluginHost
