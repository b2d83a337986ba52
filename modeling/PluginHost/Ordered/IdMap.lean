import PluginHost.Ordered.Keyed

/-!
# Maps from ids

A map from texts with its pairs in ascending key order. Two maps that answer every look-up alike are equal
(`IdMap.ext_find?`), so what is computed from a map does not depend on how it was filled.
-/

namespace PluginHost

/-- A finite map from texts. -/
structure IdMap (α : Type) where
  entries : List (String × α)
  ascending : (entries.map Prod.fst).Pairwise (· < ·)

namespace IdMap

variable {α β : Type}

def empty : IdMap α := { entries := [], ascending := List.Pairwise.nil }

instance : EmptyCollection (IdMap α) := ⟨empty⟩
instance : Inhabited (IdMap α) := ⟨empty⟩

/-- Puts an entry into a map, in place of an older one with that key. -/
def insert (m : IdMap α) (key : String) (value : α) : IdMap α :=
  { entries := Keyed.insert key value m.entries, ascending := Keyed.ascending_insert m.ascending }

def find? (m : IdMap α) (key : String) : Option α := m.entries.lookup key

def contains (m : IdMap α) (key : String) : Bool := (m.find? key).isSome

def keys (m : IdMap α) : List String := m.entries.map Prod.fst

def values (m : IdMap α) : List α := m.entries.map Prod.snd

def size (m : IdMap α) : Nat := m.entries.length

def isEmpty (m : IdMap α) : Bool := m.entries.isEmpty

/-- The map of some pairs; of several with one key the last one counts. -/
def ofList (pairs : List (String × α)) : IdMap α := pairs.foldl (fun m p => m.insert p.1 p.2) empty

def mapValues (f : String → α → β) (m : IdMap α) : IdMap β :=
  { entries := m.entries.map fun p => (p.1, f p.1 p.2)
    ascending := by simpa [Function.comp_def] using m.ascending }

def erase (m : IdMap α) (key : String) : IdMap α :=
  { entries := m.entries.filter fun p => p.1 ≠ key
    ascending := m.ascending.sublist (List.filter_sublist.map Prod.fst) }

/-- The new entry is found under its key, and all others as before. -/
theorem find?_insert (m : IdMap α) (key k : String) (value : α) :
    (m.insert key value).find? k = if k = key then some value else m.find? k :=
  Keyed.lookup_insert

theorem find?_empty (k : String) : (empty : IdMap α).find? k = none := rfl

/-- A key that stands below all keys of a list is not found in it. -/
theorem lookup_eq_none_of_lt {k : String} : ∀ {l : List (String × α)},
    (∀ k' ∈ l.map Prod.fst, k < k') → l.lookup k = none
  | [], _ => rfl
  | (k', v) :: rest, h => by
    have hne : k ≠ k' := fun e => String.lt_irrefl k' (by simpa [e] using h k' (by simp))
    simp [Keyed.lookup_cons, hne, lookup_eq_none_of_lt fun k'' hk => h k'' (List.mem_cons_of_mem _ hk)]

/-- Two lists in ascending key order that answer every look-up alike are equal. -/
theorem eq_of_lookup_eq : ∀ {l m : List (String × α)}, (l.map Prod.fst).Pairwise (· < ·) →
    (m.map Prod.fst).Pairwise (· < ·) → (∀ k, l.lookup k = m.lookup k) → l = m
  | [], [], _, _, _ => rfl
  | [], (k, v) :: m, _, _, h => by simpa [Keyed.lookup_cons] using h k
  | (k, v) :: l, [], _, _, h => by simpa [Keyed.lookup_cons] using h k
  | (k, v) :: l, (k', v') :: m, hl, hm, h => by
    have hl' := List.pairwise_cons.mp hl
    have hm' := List.pairwise_cons.mp hm
    have hk : k = k' := by
      apply Classical.byContradiction
      intro hne
      rcases String.le_total k k' with hle | hle
      · have hlt : k < k' := Std.lt_of_le_of_ne hle hne
        have := h k
        rw [@lookup_eq_none_of_lt α k ((k', v') :: m)] at this
        · simp at this
        · intro x hx
          rcases List.mem_cons.mp hx with rfl | hx
          · exact hlt
          · exact String.lt_trans hlt (hm'.1 x hx)
      · have hlt : k' < k := Std.lt_of_le_of_ne hle (fun e => hne e.symm)
        have := h k'
        rw [@lookup_eq_none_of_lt α k' ((k, v) :: l)] at this
        · simp at this
        · intro x hx
          rcases List.mem_cons.mp hx with rfl | hx
          · exact hlt
          · exact String.lt_trans hlt (hl'.1 x hx)
    subst hk
    have hv : v = v' := by simpa [Keyed.lookup_cons] using h k
    subst hv
    have : l = m := by
      apply eq_of_lookup_eq hl'.2 hm'.2
      intro x
      by_cases hx : x = k
      · rw [hx, lookup_eq_none_of_lt hl'.1, lookup_eq_none_of_lt hm'.1]
      · simpa [Keyed.lookup_cons, hx] using h x
    rw [this]

/-- Two maps that answer every look-up alike are equal. -/
theorem ext_find? {a b : IdMap α} (h : ∀ k, a.find? k = b.find? k) : a = b := by
  cases a with
  | mk entries ascending =>
    cases b with
    | mk entries' ascending' =>
      have : entries = entries' := eq_of_lookup_eq ascending ascending' h
      subst this
      rfl

end IdMap
end PluginHost
