/-!
# Keyed lists

A finite map from texts is kept as the list of its pairs in ascending key order, so that it has one form.

* `mem_keys_insert`: putting a pair into a map adds its key and keeps the others.
* `mem_of_mem_insert`, `mem_of_mem_ofList`: no pair comes into a map but those that are put there.
* `mem_ofList_iff`: all pairs of a list come into its map, if no two have the same key.
* `ascending_insert`, `ascending_ofList`: the keys stay ascending, and those of a map made from a list are.
* `lookup_insert`: the new pair is found under its key, and all others as before.
-/

namespace PluginHost.Keyed

/-- Puts a pair into a keyed list, in place of an older pair with that key. -/
def insert {α : Type} (key : String) (value : α) : List (String × α) → List (String × α)
  | [] => [(key, value)]
  | (k, v) :: rest =>
    if key < k then (key, value) :: (k, v) :: rest
    else if key = k then (key, value) :: rest
    else (k, v) :: insert key value rest

/-- The pairs in ascending key order; of several with one key the last one counts. -/
def ofList {α : Type} (fields : List (String × α)) : List (String × α) :=
  fields.foldl (fun sorted field => insert field.1 field.2 sorted) []

/-- Putting a pair into a map adds its key and keeps the others. -/
theorem mem_keys_insert {α : Type} {key k : String} {value : α} : ∀ {fields : List (String × α)},
    k ∈ (insert key value fields).map Prod.fst ↔ k = key ∨ k ∈ fields.map Prod.fst
  | [] => by simp [insert]
  | (k', v) :: rest => by
    have ih : k ∈ (insert key value rest).map Prod.fst ↔ k = key ∨ k ∈ rest.map Prod.fst := mem_keys_insert
    rw [insert]
    split
    · simp
    · split
      · rename_i h; subst h; simp
      · simp only [List.map_cons, List.mem_cons, ih]
        constructor
        · rintro (h | h | h) <;> simp [h]
        · rintro (h | h | h) <;> simp [h]

/-- No pair comes into a map but the one that is put there. -/
theorem mem_of_mem_insert {α : Type} {key : String} {value : α} {p : String × α} : ∀ {fields : List (String × α)},
    p ∈ insert key value fields → p = (key, value) ∨ p ∈ fields
  | [], h => by simpa [insert] using h
  | (k, v) :: rest, h => by
    rw [insert] at h
    split at h
    · exact List.mem_cons.mp h
    · split at h
      · exact (List.mem_cons.mp h).imp_right (List.mem_cons_of_mem _)
      · rcases List.mem_cons.mp h with rfl | h
        · exact Or.inr List.mem_cons_self
        · exact (mem_of_mem_insert h).imp_right (List.mem_cons_of_mem _)

theorem ascending_insert {α : Type} {key : String} {value : α} : ∀ {fields : List (String × α)},
    (fields.map Prod.fst).Pairwise (· < ·) → ((insert key value fields).map Prod.fst).Pairwise (· < ·)
  | [], _ => by simp [insert]
  | (k, v) :: rest, h => by
    have hk : ∀ k' ∈ rest.map Prod.fst, k < k' := (List.pairwise_cons.mp h).1
    rw [insert]
    split
    · rename_i hlt
      refine List.pairwise_cons.mpr ⟨fun k' hk' => ?_, h⟩
      rcases List.mem_cons.mp hk' with rfl | hk'
      · exact hlt
      · exact String.lt_trans hlt (hk k' hk')
    · split
      · rename_i e; subst e; exact h
      · rename_i hle hne
        have hgt : k < key := by
          rcases String.le_total k key with hle' | hle'
          · exact Std.lt_of_le_of_ne hle' (fun e => hne e.symm)
          · exact absurd (Std.lt_of_le_of_ne hle' hne) hle
        refine List.pairwise_cons.mpr ⟨fun k' hk' => ?_, ascending_insert (List.pairwise_cons.mp h).2⟩
        rcases mem_keys_insert.mp hk' with rfl | hk'
        · exact hgt
        · exact hk k' hk'

/-- The keys of a map made from a list are ascending. -/
theorem ascending_ofList {α : Type} (fields : List (String × α)) :
    ((ofList fields).map Prod.fst).Pairwise (· < ·) := by
  have go : ∀ (fs sorted : List (String × α)), (sorted.map Prod.fst).Pairwise (· < ·) →
      ((fs.foldl (fun sorted field => insert field.1 field.2 sorted) sorted).map Prod.fst).Pairwise (· < ·) := by
    intro fs
    induction fs with
    | nil => exact fun _ h => h
    | cons f fs ih => exact fun sorted h => ih _ (ascending_insert h)
  exact go fields [] List.Pairwise.nil

/-- A map made from a list has no other pairs. -/
theorem mem_of_mem_ofList {α : Type} {fields : List (String × α)} {p : String × α} (h : p ∈ ofList fields) :
    p ∈ fields := by
  have go : ∀ (fs sorted : List (String × α)),
      p ∈ fs.foldl (fun sorted field => insert field.1 field.2 sorted) sorted → p ∈ fs ∨ p ∈ sorted := by
    intro fs
    induction fs with
    | nil => exact fun _ h => Or.inr h
    | cons f fs ih =>
      intro sorted h
      rcases ih _ h with h | h
      · exact Or.inl (List.mem_cons_of_mem _ h)
      · rcases mem_of_mem_insert h with rfl | h
        · exact Or.inl List.mem_cons_self
        · exact Or.inr h
  exact (go fields [] h).resolve_right List.not_mem_nil

theorem mem_insert_self {α : Type} {key : String} {value : α} : ∀ {fields : List (String × α)},
    (key, value) ∈ insert key value fields
  | [] => List.mem_cons_self
  | (k, v) :: rest => by
    rw [insert]
    split
    · exact List.mem_cons_self
    · split
      · exact List.mem_cons_self
      · exact List.mem_cons_of_mem _ mem_insert_self

theorem mem_insert_of_mem {α : Type} {key : String} {value : α} {p : String × α} (hne : p.1 ≠ key) :
    ∀ {fields : List (String × α)}, p ∈ fields → p ∈ insert key value fields
  | (k, v) :: rest, h => by
    rw [insert]
    split
    · exact List.mem_cons_of_mem _ h
    · split
      · rename_i e
        refine List.mem_cons_of_mem _ ((List.mem_cons.mp h).resolve_left ?_)
        rintro rfl
        exact hne e.symm
      · rcases List.mem_cons.mp h with rfl | h
        · exact List.mem_cons_self
        · exact List.mem_cons_of_mem _ (mem_insert_of_mem hne h)

/-- All pairs of a list come into its map, if no two have the same key. -/
theorem mem_ofList_iff {α : Type} {fields : List (String × α)} {p : String × α} (hnodup : (fields.map Prod.fst).Nodup) :
    p ∈ ofList fields ↔ p ∈ fields := by
  have go : ∀ (fs sorted : List (String × α)), (fs.map Prod.fst).Nodup → p ∈ fs ∨ p ∈ sorted ∧ p.1 ∉ fs.map Prod.fst →
      p ∈ fs.foldl (fun sorted field => insert field.1 field.2 sorted) sorted := by
    intro fs
    induction fs with
    | nil => exact fun _ _ h => (h.resolve_left List.not_mem_nil).1
    | cons f fs ih =>
      intro sorted hnodup h
      obtain ⟨hf, hnodup⟩ := List.nodup_cons.mp hnodup
      refine ih _ hnodup ?_
      rcases h with h | ⟨h, hfresh⟩
      · rcases List.mem_cons.mp h with rfl | h
        · exact Or.inr ⟨mem_insert_self, hf⟩
        · exact Or.inl h
      · rw [List.map_cons, List.mem_cons, not_or] at hfresh
        exact Or.inr ⟨mem_insert_of_mem hfresh.1 h, hfresh.2⟩
  exact ⟨mem_of_mem_ofList, fun h => go fields [] hnodup (Or.inl h)⟩

theorem lookup_cons {α : Type} (k key : String) (value : α) (rest : List (String × α)) :
    ((key, value) :: rest).lookup k = if k = key then some value else rest.lookup k := by
  by_cases h : k = key
  · simp [h]
  · have hb : (k == key) = false := beq_eq_false_iff_ne.mpr h
    simp [List.lookup_cons, h, hb]

/-- The new pair is found under its key, and all others as before. -/
theorem lookup_insert {α : Type} {key k : String} {value : α} : ∀ {fields : List (String × α)},
    (insert key value fields).lookup k = if k = key then some value else fields.lookup k
  | [] => by rw [insert, lookup_cons]
  | (k', v) :: rest => by
    have ih : (insert key value rest).lookup k = if k = key then some value else rest.lookup k := lookup_insert
    rw [insert]
    split
    · rw [lookup_cons]
    · split
      · rename_i e
        subst e
        simp only [lookup_cons]
        split <;> rfl
      · rename_i hne
        simp only [lookup_cons, ih]
        by_cases h : k = k'
        · subst h
          have : ¬ k = key := fun e => hne e.symm
          simp [this]
        · simp [h]

end PluginHost.Keyed
