import PluginHost.Text.Hidden

/-!
# Quoted text

How a text or a single character is shown inside a message: between quotes, with the quote, the backslash, the common
controls and every hidden character escaped.

* `escape_of_plain`: a character that is neither hidden, nor a backslash, nor the quote is written as it is.
-/

namespace PluginHost.Text

/-- The lower-case hexadecimal digits of a number, without leading zeros. -/
def hexDigits (n : Nat) : String := String.ofList (Nat.toDigits 16 n)

/-- How a character is written between two `quote` characters. -/
def escape (quote c : Char) : String :=
  if c = '\x00' then "\\0"
  else if c = '\t' then "\\t"
  else if c = '\r' then "\\r"
  else if c = '\n' then "\\n"
  else if c = '\\' then "\\\\"
  else if c = quote then "\\" ++ String.singleton c
  else if isHidden c then "\\u\x7b" ++ hexDigits c.toNat ++ "\x7d"
  else String.singleton c

def quotedChar (c : Char) : String := "'" ++ escape '\'' c ++ "'"

def quoted (s : String) : String := "\"" ++ String.join (s.toList.map (escape '"')) ++ "\""

/-- The quoted items between brackets, separated by commas. -/
def quotedList (items : List String) : String := "[" ++ ", ".intercalate (items.map quoted) ++ "]"

/-- A character that is neither hidden, nor a backslash, nor the quote is written as it is. -/
theorem escape_of_plain {q c : Char} (hidden : isHidden c = false) (slash : c ≠ '\\') (quote : c ≠ q) :
    escape q c = String.singleton c := by
  have control : ∀ d : Char, isHidden d = true → c ≠ d := fun d hd e => by
    rw [e, hd] at hidden
    cases hidden
  have h0 := control '\x00' (by decide +kernel)
  have h1 := control '\t' (by decide +kernel)
  have h2 := control '\r' (by decide +kernel)
  have h3 := control '\n' (by decide +kernel)
  simp [escape, h0, h1, h2, h3, slash, quote, hidden]

end PluginHost.Text
