import PluginHost.Number.Digit

/-!
# Texts in TOML

Four forms: between double quotes, with escapes, or between single quotes, as it stands; and each of them between three
quotes, over several lines. A line of a text ends with a line feed, whatever ends it in the document.

* `readLiteral_eq_some_iff`: a literal text is what stands in a line before its quote.
-/

namespace PluginHost.Toml

def isBlank (c : Char) : Bool := c == ' ' || c == '\t'

/-- The characters that may stand in a line: all but the controls, the tab excepted. -/
def isLineChar (c : Char) : Bool := c == '\t' || 0x20 ≤ c.toNat && c.toNat != 0x7F

/-- The character that an escape of one letter stands for. -/
def escaped? : Char → Option Char
  | '"' => some '"'
  | '\\' => some '\\'
  | 'b' => some '\x08'
  | 'f' => some '\x0c'
  | 'n' => some '\n'
  | 'r' => some '\r'
  | 't' => some '\t'
  | _ => none

/-- Puts a character that was read in front of what is read on. -/
def pushChar (c : Option Char) (rest : Option (List Char × List Char)) : Option (List Char × List Char) := do
  let c ← c
  let (cs, rest) ← rest
  return (c :: cs, rest)

/-- Reads a text up to the double quote that ends it. -/
def readBasic : List Char → Option (List Char × List Char)
  | '"' :: rest => some ([], rest)
  | '\\' :: 'u' :: a :: b :: c :: d :: rest => pushChar (charOfHex? [a, b, c, d]) (readBasic rest)
  | '\\' :: 'U' :: a :: b :: c :: d :: e :: f :: g :: h :: rest =>
    pushChar (charOfHex? [a, b, c, d, e, f, g, h]) (readBasic rest)
  | '\\' :: c :: rest => pushChar (escaped? c) (readBasic rest)
  | c :: rest => if isLineChar c ∧ c ≠ '\\' then pushChar (some c) (readBasic rest) else none
  | [] => none

/-- Reads a text up to the single quote that ends it. -/
def readLiteral : List Char → Option (List Char × List Char)
  | '\'' :: rest => some ([], rest)
  | c :: rest => if isLineChar c then pushChar (some c) (readLiteral rest) else none
  | [] => none

/-- A character is put in front of a text that could be read on. -/
theorem pushChar_eq_some_iff {c : Char} {r : Option (List Char × List Char)} {s rest : List Char} :
    pushChar (some c) r = some (s, rest) ↔ ∃ t, s = c :: t ∧ r = some (t, rest) := by
  cases r with
  | none => simp [pushChar]
  | some p =>
    obtain ⟨t, rest'⟩ := p
    simp only [pushChar, bind, Option.bind, pure, Option.some.injEq, Prod.mk.injEq]
    constructor
    · rintro ⟨rfl, rfl⟩
      exact ⟨t, rfl, rfl, rfl⟩
    · rintro ⟨u, rfl, rfl, rfl⟩
      exact ⟨rfl, rfl⟩

/-- A literal text is what stands in a line before its quote. -/
theorem readLiteral_eq_some_iff : ∀ {cs s rest : List Char}, readLiteral cs = some (s, rest) ↔
    cs = s ++ '\'' :: rest ∧ ∀ c ∈ s, isLineChar c = true ∧ c ≠ '\''
  | [], s, rest => by simp [readLiteral]
  | c :: cs, s, rest => by
    by_cases hq : c = '\''
    · subst hq
      simp only [readLiteral, Option.some.injEq, Prod.mk.injEq]
      constructor
      · rintro ⟨rfl, rfl⟩
        simp
      · rintro ⟨h, hs⟩
        cases s with
        | nil => simpa using h
        | cons d s =>
          obtain ⟨rfl, -⟩ := List.cons.inj h
          exact absurd rfl (hs _ List.mem_cons_self).2
    · have step : readLiteral (c :: cs) =
          if isLineChar c then pushChar (some c) (readLiteral cs) else none := by
        rw [readLiteral]
        exact fun e => hq e
      rw [step]
      split
      · rename_i hline
        rw [pushChar_eq_some_iff]
        constructor
        · rintro ⟨t, rfl, ht⟩
          obtain ⟨rfl, hs⟩ := readLiteral_eq_some_iff.1 ht
          refine ⟨rfl, fun d hd => ?_⟩
          rcases List.mem_cons.1 hd with rfl | hd
          · exact ⟨hline, hq⟩
          · exact hs d hd
        · rintro ⟨h, hs⟩
          cases s with
          | nil => exact absurd (List.cons.inj h).1 hq
          | cons d s =>
            obtain ⟨rfl, hcs⟩ := List.cons.inj h
            exact ⟨s, rfl, readLiteral_eq_some_iff.2 ⟨hcs, fun d hd => hs d (List.mem_cons_of_mem _ hd)⟩⟩
      · rename_i hline
        simp only [reduceCtorEq, false_iff, not_and]
        intro h hs
        cases s with
        | nil => exact absurd (List.cons.inj h).1 hq
        | cons d s =>
          obtain ⟨rfl, -⟩ := List.cons.inj h
          exact absurd (hs _ List.mem_cons_self).1 hline

/-- Whether the rest of a line is blank and the line ends. -/
def endsLine (cs : List Char) : Bool :=
  match cs.dropWhile isBlank with
  | '\n' :: _ | '\r' :: '\n' :: _ => true
  | _ => false

/-- Reads a text of several lines up to the three double quotes that end it; up to two more quotes before them belong
to the text. After a backslash at the end of a line, blanks and line ends are dropped: `dropping` says so. -/
def readBasicLines (dropping : Bool) : List Char → Option (List Char × List Char)
  | '"' :: '"' :: '"' :: '"' :: '"' :: rest => some (['"', '"'], rest)
  | '"' :: '"' :: '"' :: '"' :: rest => some (['"'], rest)
  | '"' :: '"' :: '"' :: rest => some ([], rest)
  | '\r' :: '\n' :: rest =>
    if dropping then readBasicLines true rest else pushChar (some '\n') (readBasicLines false rest)
  | '\n' :: rest => if dropping then readBasicLines true rest else pushChar (some '\n') (readBasicLines false rest)
  | '\\' :: 'u' :: a :: b :: c :: d :: rest => pushChar (charOfHex? [a, b, c, d]) (readBasicLines false rest)
  | '\\' :: 'U' :: a :: b :: c :: d :: e :: f :: g :: h :: rest =>
    pushChar (charOfHex? [a, b, c, d, e, f, g, h]) (readBasicLines false rest)
  | '\\' :: c :: rest =>
    if endsLine (c :: rest) then readBasicLines true (c :: rest)
    else pushChar (escaped? c) (readBasicLines false rest)
  | c :: rest =>
    if dropping ∧ isBlank c then readBasicLines true rest
    else if isLineChar c ∧ c ≠ '\\' then pushChar (some c) (readBasicLines false rest) else none
  | [] => none

/-- Reads a text of several lines up to the three single quotes that end it; up to two more quotes before them belong
to the text. -/
def readLiteralLines : List Char → Option (List Char × List Char)
  | '\'' :: '\'' :: '\'' :: '\'' :: '\'' :: rest => some (['\'', '\''], rest)
  | '\'' :: '\'' :: '\'' :: '\'' :: rest => some (['\''], rest)
  | '\'' :: '\'' :: '\'' :: rest => some ([], rest)
  | '\r' :: '\n' :: rest => pushChar (some '\n') (readLiteralLines rest)
  | '\n' :: rest => pushChar (some '\n') (readLiteralLines rest)
  | c :: rest => if isLineChar c then pushChar (some c) (readLiteralLines rest) else none
  | [] => none

def dropLineEnd : List Char → List Char
  | '\n' :: rest => rest
  | '\r' :: '\n' :: rest => rest
  | cs => cs

def readText : List Char → Option (List Char × List Char)
  | '"' :: '"' :: '"' :: rest => readBasicLines false (dropLineEnd rest)
  | '"' :: rest => readBasic rest
  | '\'' :: '\'' :: '\'' :: rest => readLiteralLines (dropLineEnd rest)
  | '\'' :: rest => readLiteral rest
  | _ => none

end PluginHost.Toml
