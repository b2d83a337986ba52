import Mathlib.Data.List.Basic

/-!
# Repeated keys

Of a list of things with keys, the first one with a key is taken and the others repeat it (`repeats`). Some keys may be
dropped: things with such a key are neither taken nor do they count as repetitions.
-/

namespace PluginHost

variable {α β κ : Type} [DecidableEq κ] {key : α → κ} {dropped seen : List κ} {l : List α} {a : α}

/-- The things whose key came before, in the list or among the keys seen. -/
def repeats (key : α → κ) (dropped seen : List κ) : List α → List α
  | [] => []
  | a :: l =>
    let later := repeats key dropped (seen ++ [key a]) l
    if key a ∉ dropped ∧ key a ∈ seen then a :: later else later

theorem repeats_append (key : α → κ) (dropped : List κ) : ∀ (l m : List α) (seen : List κ),
    repeats key dropped seen (l ++ m) = repeats key dropped seen l ++ repeats key dropped (seen ++ l.map key) m
  | [], m, seen => by simp [repeats]
  | a :: l, m, seen => by
    have ih := repeats_append key dropped l m (seen ++ [key a])
    rw [List.append_assoc] at ih
    simp only [List.cons_append, repeats, ih, List.map_cons, List.nil_append]
    split <;> rfl

theorem map_repeats (key : β → κ) (f : α → β) (dropped : List κ) : ∀ (l : List α) (seen : List κ),
    (repeats (fun a => key (f a)) dropped seen l).map f = repeats key dropped seen (l.map f)
  | [], _ => rfl
  | a :: l, seen => by
    have ih := map_repeats key f dropped l (seen ++ [key (f a)])
    simp only [repeats, List.map_cons]
    split
    · rw [List.map_cons, ih]
    · exact ih

theorem repeats_sublist : ∀ (l : List α) (seen : List κ), (repeats key dropped seen l).Sublist l
  | [], _ => List.Sublist.refl []
  | a :: l, seen => by
    have ih := repeats_sublist l (seen ++ [key a])
    rw [repeats]
    split
    · exact ih.cons_cons a
    · exact ih.cons a

/-- Things are repeated when their key is not dropped and something with that key came before. -/
theorem mem_repeats_iff : ∀ {l : List α} {seen : List κ}, a ∈ repeats key dropped seen l ↔
    ∃ before after, l = before ++ a :: after ∧ key a ∉ dropped ∧ key a ∈ seen ++ before.map key
  | [], seen => by simp [repeats]
  | b :: l, seen => by
    have ih : a ∈ repeats key dropped (seen ++ [key b]) l ↔ ∃ before after, l = before ++ a :: after ∧
        key a ∉ dropped ∧ key a ∈ seen ++ [key b] ++ before.map key := mem_repeats_iff
    have hmem : a ∈ repeats key dropped seen (b :: l) ↔
        (a = b ∧ key b ∉ dropped ∧ key b ∈ seen) ∨ a ∈ repeats key dropped (seen ++ [key b]) l := by
      rw [repeats]
      split
      · rename_i h
        simp [h]
      · rename_i h
        simp [h]
    rw [hmem, ih]
    constructor
    · rintro (⟨rfl, hdropped, hseen⟩ | ⟨before, after, rfl, hdropped, hseen⟩)
      · exact ⟨[], l, rfl, hdropped, by simpa using hseen⟩
      · exact ⟨b :: before, after, rfl, hdropped, by simpa using hseen⟩
    · rintro ⟨before, after, hl, hdropped, hseen⟩
      cases before with
      | nil =>
        obtain ⟨rfl, rfl⟩ := List.cons.inj hl
        exact Or.inl ⟨rfl, hdropped, by simpa using hseen⟩
      | cons c before =>
        obtain ⟨rfl, rfl⟩ := List.cons.inj hl
        exact Or.inr ⟨before, after, rfl, hdropped, by simpa using hseen⟩

end PluginHost
