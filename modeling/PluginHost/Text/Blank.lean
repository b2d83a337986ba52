/-!
# Blank characters

The characters with the Unicode property White_Space, and what is left of a text when those at its ends are dropped.

* `isBlank_of_isWhitespace`: core's white space is blank.
* `trimChars_eq_self`: a text without blank characters is its own trimming.
-/

namespace PluginHost.Text

/-- The blocks of characters with the property White_Space, first and last of each. -/
def blankRanges : List (Nat × Nat) :=
  [(0x09, 0x0D), (0x20, 0x20), (0x85, 0x85), (0xA0, 0xA0), (0x1680, 0x1680), (0x2000, 0x200A), (0x2028, 0x2029),
   (0x202F, 0x202F), (0x205F, 0x205F), (0x3000, 0x3000)]

/-- A character is blank when it lies in a block of `blankRanges`. -/
def isBlank (c : Char) : Bool := blankRanges.any fun r => r.1 ≤ c.toNat && c.toNat ≤ r.2

/-- Core's white space is blank. -/
theorem isBlank_of_isWhitespace {c : Char} (h : c.isWhitespace = true) : isBlank c = true := by
  simp only [Char.isWhitespace, Bool.or_eq_true, decide_eq_true_eq] at h
  rcases h with ((rfl | rfl) | rfl) | rfl <;> decide

/-- The characters left when the blank ones at the end are dropped. -/
def trimRight (cs : List Char) : List Char := (cs.reverse.dropWhile isBlank).reverse

/-- The characters left when the blank ones at both ends are dropped. -/
def trimChars (cs : List Char) : List Char := trimRight (cs.dropWhile isBlank)

/-- The text left when the blank characters at both ends are dropped. -/
def trim (s : String) : String := String.ofList (trimChars s.toList)

/-- A text with no blank character is its own trimming. -/
theorem trimChars_eq_self {cs : List Char} (h : ∀ c ∈ cs, isBlank c = false) : trimChars cs = cs := by
  have drop : ∀ l : List Char, (∀ c ∈ l, isBlank c = false) → l.dropWhile isBlank = l := by
    intro l hl
    cases l with
    | nil => rfl
    | cons c r => simp [List.dropWhile, hl c List.mem_cons_self]
  have hr : ∀ c ∈ cs.reverse, isBlank c = false := fun c hc => h c (List.mem_reverse.mp hc)
  rw [trimChars, trimRight, drop cs h, drop cs.reverse hr, List.reverse_reverse]

end PluginHost.Text
