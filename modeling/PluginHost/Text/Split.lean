/-!
# Splitting at a separator

`splitAtSep sep cs` is the list of the pieces of `cs` between separators; joining them gives `cs` back
(`joinWith_splitAtSep`), and no piece holds the separator (`not_mem_of_mem_splitAtSep`). Splitting goes piece by piece
(`splitAtSep_append`), so pieces that are joined are found again (`splitAtSep_joinWith`).
-/

namespace PluginHost.Text

/-- The pieces of a text between separators: one more than there are separators. -/
def splitAtSep (sep : Char) : List Char → List (List Char)
  | [] => [[]]
  | c :: cs =>
    if c = sep then [] :: splitAtSep sep cs
    else match splitAtSep sep cs with
      | [] => [[c]]
      | piece :: more => (c :: piece) :: more

/-- The pieces with a separator between any two neighbours. -/
def joinWith (sep : Char) : List (List Char) → List Char
  | [] => []
  | [piece] => piece
  | piece :: more => piece ++ sep :: joinWith sep more

/-- There is always a piece. -/
theorem splitAtSep_ne_nil (sep : Char) : ∀ cs : List Char, splitAtSep sep cs ≠ []
  | [] => by simp [splitAtSep]
  | c :: cs => by
    rw [splitAtSep]
    split
    · simp
    · split <;> simp

/-- Joining the pieces gives the text back. -/
theorem joinWith_splitAtSep (sep : Char) : ∀ cs : List Char, joinWith sep (splitAtSep sep cs) = cs
  | [] => rfl
  | c :: cs => by
    have ih := joinWith_splitAtSep sep cs
    rw [splitAtSep]
    split
    · rename_i h
      match hs : splitAtSep sep cs with
      | [] => exact absurd hs (splitAtSep_ne_nil sep cs)
      | piece :: more => rw [hs] at ih; simp [joinWith, ih, h]
    · split
      · rename_i h
        exact absurd h (splitAtSep_ne_nil sep cs)
      · rename_i piece more h
        rw [h] at ih
        cases more with
        | nil => simp only [joinWith] at ih ⊢; rw [ih]
        | cons p ps => simp only [joinWith] at ih ⊢; rw [← ih]; rfl

/-- No piece holds the separator. -/
theorem not_mem_of_mem_splitAtSep {sep : Char} : ∀ {cs piece : List Char}, piece ∈ splitAtSep sep cs → sep ∉ piece
  | [], piece, h => by
    simp only [splitAtSep, List.mem_singleton] at h
    simp [h]
  | c :: cs, piece, h => by
    rw [splitAtSep] at h
    split at h
    · rcases List.mem_cons.mp h with rfl | h
      · simp
      · exact not_mem_of_mem_splitAtSep h
    · rename_i hc
      split at h
      · rename_i hs
        exact absurd hs (splitAtSep_ne_nil sep cs)
      · rename_i first more hs
        have hf : first ∈ splitAtSep sep cs := by rw [hs]; exact List.mem_cons_self
        rcases List.mem_cons.mp h with rfl | h
        · simp only [List.mem_cons, not_or]
          exact ⟨fun e => hc e.symm, not_mem_of_mem_splitAtSep hf⟩
        · exact not_mem_of_mem_splitAtSep (by rw [hs]; exact List.mem_cons_of_mem _ h)

/-- A text without a separator is its only piece. -/
theorem splitAtSep_of_not_mem {sep : Char} : ∀ {cs : List Char}, sep ∉ cs → splitAtSep sep cs = [cs]
  | [], _ => rfl
  | c :: cs, h => by
    have hc : c ≠ sep := fun e => h (by simp [e])
    rw [splitAtSep, if_neg hc, splitAtSep_of_not_mem fun hs => h (List.mem_cons_of_mem _ hs)]

/-- The pieces of two texts with a separator between them. -/
theorem splitAtSep_append (sep : Char) : ∀ cs ds : List Char,
    splitAtSep sep (cs ++ sep :: ds) = splitAtSep sep cs ++ splitAtSep sep ds
  | [], ds => by simp [splitAtSep]
  | c :: cs, ds => by
    have ih := splitAtSep_append sep cs ds
    simp only [List.cons_append, splitAtSep, ih]
    split
    · rfl
    · match hs : splitAtSep sep cs with
      | [] => exact absurd hs (splitAtSep_ne_nil sep cs)
      | piece :: more => rfl

/-- Pieces that are joined are found again. -/
theorem splitAtSep_joinWith {sep : Char} : ∀ {pieces : List (List Char)}, pieces ≠ [] →
    (∀ piece ∈ pieces, sep ∉ piece) → splitAtSep sep (joinWith sep pieces) = pieces
  | [], hne, _ => absurd rfl hne
  | [piece], _, h => splitAtSep_of_not_mem (h piece List.mem_cons_self)
  | piece :: next :: more, _, h => by
    have ih := splitAtSep_joinWith (List.cons_ne_nil next more) fun p hp => h p (List.mem_cons_of_mem _ hp)
    rw [joinWith, splitAtSep_append, splitAtSep_of_not_mem (h piece List.mem_cons_self), ih]
    · rfl
    · simp

end PluginHost.Text
