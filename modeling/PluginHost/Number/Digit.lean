/-!
# Digits

* `natOfDigits_append`: a digit at the end counts once, all before it ten times as much.
-/

namespace PluginHost

def digitValue (c : Char) : Nat := c.toNat - '0'.toNat

/-- The value of a hexadecimal digit of either case. -/
def hexValue? (c : Char) : Option Nat :=
  if c.isDigit then some (digitValue c)
  else if 'a' ≤ c ∧ c ≤ 'f' then some (c.toNat - 'a'.toNat + 10)
  else if 'A' ≤ c ∧ c ≤ 'F' then some (c.toNat - 'A'.toNat + 10)
  else none

def natOfDigits (cs : List Char) : Nat := cs.foldl (fun n c => n * 10 + digitValue c) 0

/-- A digit at the end counts once, all before it ten times as much. -/
theorem natOfDigits_append (cs : List Char) (c : Char) :
    natOfDigits (cs ++ [c]) = natOfDigits cs * 10 + digitValue c := by
  simp [natOfDigits]

/-- Takes one more digit of a base into a number. -/
def pushDigit? (base n : Nat) (c : Char) : Option Nat :=
  (hexValue? c).bind fun d => if d < base then some (n * base + d) else none

/-- The number that digits of a base write, 16 at most; none when a character is no digit or there is none. -/
def natOfBase? (base : Nat) (cs : List Char) : Option Nat :=
  if cs = [] then none else cs.foldlM (pushDigit? base) 0

/-- The character with a code of hexadecimal digits, if there is one. -/
def charOfHex? (digits : List Char) : Option Char :=
  (natOfBase? 16 digits).bind fun n => if n.isValidChar then some (Char.ofNat n) else none

end PluginHost
