/-!
# Ascending lists

A finite set is kept as the ascending list of its elements, so that it has one form.

* `mem_insertAscending`: an insertion adds its element and keeps the others.
* `ascending_insertAscending`: the list stays ascending.
-/

namespace PluginHost

variable {α : Type} [LT α] [DecidableLT α] [DecidableEq α]

/-- A list is ascending when every element stands below all that follow. -/
def Ascending (l : List α) : Prop := l.Pairwise (· < ·)

/-- Puts an element in its place, unless it is there already. -/
def insertAscending (a : α) : List α → List α
  | [] => [a]
  | b :: rest => if a < b then a :: b :: rest else if a = b then b :: rest else b :: insertAscending a rest

/-- An insertion adds its element and keeps the others. -/
theorem mem_insertAscending {a x : α} : ∀ {l : List α}, x ∈ insertAscending a l ↔ x = a ∨ x ∈ l
  | [] => by simp [insertAscending]
  | b :: rest => by
    have ih : x ∈ insertAscending a rest ↔ x = a ∨ x ∈ rest := mem_insertAscending
    rw [insertAscending]
    split
    · simp
    · split
      · rename_i h; subst h; simp
      · simp only [List.mem_cons, ih]
        constructor
        · rintro (h | h | h) <;> simp [h]
        · rintro (h | h | h) <;> simp [h]

theorem length_insertAscending_le (a : α) : ∀ l : List α, (insertAscending a l).length ≤ l.length + 1
  | [] => by simp [insertAscending]
  | b :: rest => by
    have ih := length_insertAscending_le a rest
    rw [insertAscending]
    split
    · simp
    · split <;> simp only [List.length_cons] <;> omega

theorem ascending_insertAscending [Std.Trichotomous (α := α) (· < ·)] [Trans (α := α) (· < ·) (· < ·) (· < ·)] {a : α} :
    ∀ {l : List α}, Ascending l → Ascending (insertAscending a l)
  | [], _ => by simp [insertAscending, Ascending]
  | b :: rest, h => by
    have hb : ∀ x ∈ rest, b < x := (List.pairwise_cons.mp h).1
    rw [insertAscending]
    split
    · rename_i hlt
      refine List.pairwise_cons.mpr ⟨fun x hx => ?_, h⟩
      rcases List.mem_cons.mp hx with rfl | hx
      · exact hlt
      · exact Trans.trans hlt (hb x hx)
    · split
      · exact h
      · rename_i hlt hne
        have hgt : b < a := by
          apply Classical.byContradiction
          intro hba
          exact hne (Std.Trichotomous.trichotomous a b hlt hba)
        refine List.pairwise_cons.mpr ⟨fun x hx => ?_, ascending_insertAscending (List.pairwise_cons.mp h).2⟩
        rcases mem_insertAscending.mp hx with rfl | hx
        · exact hgt
        · exact hb x hx

end PluginHost
