import PluginHost.Number.Binary64

/-!
# The fewest digits that read back

`Binary64.shortest` gives the decimal with the fewest digits among those that are rounded to a number of the format,
and of several such decimals the nearest. `Decimal.render` writes it positionally where the point is near the digits.
-/

namespace PluginHost

/-- The positive number `digits * 10 ^ exponent`. -/
structure Decimal where
  digits : Nat
  exponent : Int
deriving DecidableEq, Repr

namespace Binary64

/-- The positive reals that are rounded to a number: twice their bounds over a common denominator, ends included
when the significand is even. -/
structure Interval where
  low : Nat
  high : Nat
  den : Nat
  closed : Bool

/-- The interval around a positive number; below a power of two the neighbour is only half as far away. -/
def interval (x : Binary64) : Interval :=
  let narrow := x.significand = Nat.pow 2 (precision - 1) ∧ minExponent < x.exponent
  let low := 4 * x.significand - (if narrow then 1 else 2)
  let high := 4 * x.significand + 2
  let closed := x.significand % 2 = 0
  if x.exponent < 0 then { low, high, den := 4 * Nat.pow 2 (-x.exponent).toNat, closed }
  else { low := low * Nat.pow 2 x.exponent.toNat, high := high * Nat.pow 2 x.exponent.toNat, den := 4, closed }

/-- Whether `num / den` lies in an interval. -/
def Interval.holds (i : Interval) (num den : Nat) : Bool :=
  if i.closed then i.low * den ≤ num * i.den && num * i.den ≤ i.high * den
  else i.low * den < num * i.den && num * i.den < i.high * den

/-- The grid point that is nearest among the two neighbours of a number on the grid of step `10 ^ step`, when one of
the two lies in the interval of the number. -/
def onGrid? (x : Binary64) (step : Int) : Option Decimal :=
  let (num, den) := x.magnitude
  let (unit, unitDen) := if step < 0 then (1, Nat.pow 10 (-step).toNat) else (Nat.pow 10 step.toNat, 1)
  let lower := (num * unitDen) / (den * unit)
  let fits := fun d => x.interval.holds (d * unit) unitDen
  let nearest := roundDiv (num * unitDen) (den * unit)
  if fits nearest then some { digits := nearest, exponent := step }
  else if fits lower then some { digits := lower, exponent := step }
  else if fits (lower + 1) then some { digits := lower + 1, exponent := step }
  else none

/-- Removes zeros at the end of the digits, `room` of them at most. -/
def stripZeros : Nat → Decimal → Decimal
  | 0, d => d
  | room + 1, d =>
    if d.digits ≠ 0 ∧ d.digits % 10 = 0 then stripZeros room { digits := d.digits / 10, exponent := d.exponent + 1 }
    else d

/-- The decimal with the fewest digits that is rounded to a positive number. -/
def shortest (x : Binary64) : Decimal :=
  let (num, den) := x.magnitude
  let top : Int :=
    if den ≤ num then (Nat.toDigits 10 (num / den)).length else 1 - (Nat.toDigits 10 (den / num)).length
  let grids := (List.range 20).map fun (n : Nat) => top - (n : Int)
  match grids.findSome? x.onGrid? with
  | some d => stripZeros 20 d
  | none => { digits := num / den, exponent := 0 }

/-- The text of an exponent, which always has a sign. -/
def renderExponent (n : Int) : String := "e" ++ (if n < 0 then "" else "+") ++ toString n

/-- The text of a number: positional when the point lies at most 16 places after the first digit and at most 4 places
before it, else with an exponent; a point is always followed by a digit. -/
def render (x : Binary64) : String :=
  let sign := if x.negative then "-" else ""
  if x.significand = 0 then sign ++ "0.0"
  else
    let d := x.shortest
    let ds := Nat.toDigits 10 d.digits
    let text := String.ofList
    let zeros := fun n => String.ofList (List.replicate n '0')
    let point : Int := ds.length + d.exponent
    sign ++
      if 0 ≤ d.exponent ∧ point ≤ 16 then text ds ++ zeros d.exponent.toNat ++ ".0"
      else if 0 < point ∧ point ≤ 16 then text (ds.take point.toNat) ++ "." ++ text (ds.drop point.toNat)
      else if -5 < point ∧ point ≤ 0 then "0." ++ zeros (-point).toNat ++ text ds
      else if ds.length = 1 then text ds ++ renderExponent (point - 1)
      else text (ds.take 1) ++ "." ++ text (ds.drop 1) ++ renderExponent (point - 1)

end Binary64
end PluginHost
