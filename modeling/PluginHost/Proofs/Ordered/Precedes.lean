import Mathlib.Data.List.Nodup

/-!
# Positions in a list

`Precedes l a b` says that `a` stands at a smaller position of `l` than `b`. The lists it is used for have no
duplicates, so what precedes an element is what the list has before it (`Precedes.mem_before`).
-/

namespace PluginHost

variable {α : Type}

/-- `a` stands at a smaller position than `b`. -/
def Precedes (l : List α) (a b : α) : Prop := ∃ i j : Nat, i < j ∧ l[i]? = some a ∧ l[j]? = some b

namespace Precedes

variable {l m : List α} {a b x : α}

theorem left_mem (h : Precedes l a b) : a ∈ l := by
  obtain ⟨i, j, _, hi, _⟩ := h
  exact List.mem_of_getElem? hi

theorem right_mem (h : Precedes l a b) : b ∈ l := by
  obtain ⟨i, j, _, _, hj⟩ := h
  exact List.mem_of_getElem? hj

/-- The head precedes all that follow; of the others, two stand to each other as without the head. -/
theorem cons_iff : Precedes (x :: l) a b ↔ x = a ∧ b ∈ l ∨ Precedes l a b := by
  constructor
  · rintro ⟨i, j, hij, hi, hj⟩
    obtain ⟨j, rfl⟩ : ∃ k, j = k + 1 := ⟨j - 1, by omega⟩
    rw [List.getElem?_cons_succ] at hj
    cases i with
    | zero => exact Or.inl ⟨by simpa using hi, List.mem_of_getElem? hj⟩
    | succ i => exact Or.inr ⟨i, j, by omega, by simpa using hi, hj⟩
  · rintro (⟨rfl, hb⟩ | ⟨i, j, hij, hi, hj⟩)
    · obtain ⟨j, hj⟩ := List.mem_iff_getElem?.mp hb
      exact ⟨0, j + 1, by omega, by simp, by simpa using hj⟩
    · exact ⟨i + 1, j + 1, by omega, by simpa using hi, by simpa using hj⟩

theorem append_right (h : Precedes l a b) (m : List α) : Precedes (l ++ m) a b := by
  obtain ⟨i, j, hij, hi, hj⟩ := h
  refine ⟨i, j, hij, ?_, ?_⟩
  · rw [List.getElem?_append_left (List.getElem?_eq_some_iff.mp hi).1, hi]
  · rw [List.getElem?_append_left (List.getElem?_eq_some_iff.mp hj).1, hj]

/-- The elements of a list precede those of one that is put behind it. -/
theorem of_mem_append (ha : a ∈ l) (hb : b ∈ m) : Precedes (l ++ m) a b := by
  obtain ⟨i, hi⟩ := List.mem_iff_getElem?.mp ha
  obtain ⟨j, hj⟩ := List.mem_iff_getElem?.mp hb
  have hlt : i < l.length := (List.getElem?_eq_some_iff.mp hi).1
  refine ⟨i, l.length + j, by omega, ?_, ?_⟩
  · rw [List.getElem?_append_left hlt, hi]
  · rw [List.getElem?_append_right (by omega), Nat.add_sub_cancel_left, hj]

/-- What precedes an element of the first part does so within that part, when there are no duplicates. -/
theorem of_append (hn : (l ++ m).Nodup) (h : Precedes (l ++ m) a b) (hb : b ∈ l) : Precedes l a b := by
  obtain ⟨i, j, hij, hi, hj⟩ := h
  obtain ⟨k, hk⟩ := List.mem_iff_getElem?.mp hb
  have hlt : k < l.length := (List.getElem?_eq_some_iff.mp hk).1
  have hk' : (l ++ m)[k]? = some b := by rw [List.getElem?_append_left hlt, hk]
  obtain rfl : j = k := (List.getElem?_inj (List.getElem?_eq_some_iff.mp hj).1 hn).mp (hj.trans hk'.symm)
  rw [List.getElem?_append_left (by omega)] at hi
  exact ⟨i, j, hij, hi, hk⟩

/-- In a list without duplicates, what precedes an element is in the part before it. -/
theorem mem_before {before after : List α} (hl : (before ++ b :: after).Nodup)
    (h : Precedes (before ++ b :: after) a b) : a ∈ before := by
  obtain ⟨i, j, hij, hi, hj⟩ := h
  have hb : (before ++ b :: after)[before.length]? = some b := by simp
  have hj' : j = before.length :=
    (List.getElem?_inj (List.getElem?_eq_some_iff.mp hj).1 hl).mp (hj.trans hb.symm)
  rw [List.getElem?_append_left (by omega)] at hi
  exact List.mem_of_getElem? hi

/-- In the reversed list positions are the other way round. -/
theorem reverse (h : Precedes l a b) : Precedes l.reverse b a := by
  obtain ⟨i, j, hij, hi, hj⟩ := h
  have hlt : j < l.length := (List.getElem?_eq_some_iff.mp hj).1
  have hback : ∀ k < l.length, l.reverse[l.length - 1 - k]? = l[k]? := by
    intro k hk
    rw [List.getElem?_reverse (by omega), Nat.sub_sub_self (by omega)]
  exact ⟨l.length - 1 - j, l.length - 1 - i, by omega, (hback j hlt).trans hj, (hback i (by omega)).trans hi⟩

end Precedes
end PluginHost
